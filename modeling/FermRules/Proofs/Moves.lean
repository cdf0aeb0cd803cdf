import FermRules.Dump.Conversion

/-! # What a line of a dump does, in small moves

Whatever a line does to the context is a sequence of moves that open or close one
part, note a hint or a policy, or report something. Each move says what has to
hold before it, so a property of all conversions is shown once for every move.
What is not a move is the rule that a line adds in the end: it goes to the chain
that the line names, which has been opened by then. -/
namespace FermRules

theorem configLines_append (events more : List Event) :
    configLines (events ++ more) = configLines events ++ configLines more :=
  List.filterMap_append

theorem configLines_ofLines (lines : List ConfigLine) :
    configLines (Event.ofLines lines) = lines := by
  rw [configLines, Event.ofLines, List.filterMap_map]
  exact List.filterMap_some

/-- The line belongs to a domain, a table or a chain, and not to a rule. -/
def ConfigLine.isFrame : ConfigLine → Bool
  | openBlock _ | statement _ => false
  | _ => true

namespace Context

inductive Move (settings : Settings) : Context → List Event → Context → Prop
  | hint {ctx : Context} (domain : Domain) :
      Move settings ctx [] { ctx with hint := some domain.name }
  | policy {ctx : Context} {table : String} (chain policy : String) :
      ctx.table = some table → policy ∈ builtinPolicies →
      Move settings ctx [] { ctx with policies := setPolicy chain policy ctx.policies }
  | closeChain {ctx : Context} {chain : String} :
      ctx.chain = some chain →
      Move settings ctx (ctx.closeChain settings).2 { ctx with chain := none, rules := [] }
  | closeTable {ctx : Context} {table : String} :
      ctx.chain = none → ctx.table = some table →
      Move settings ctx (ctx.closeTable settings).2 { ctx with table := none, policies := [] }
  | closeDomain {ctx : Context} {domain : String} :
      ctx.chain = none → ctx.table = none → ctx.domain = some domain →
      Move settings ctx [.wrote .close] { ctx with domain := none }
  | openDomain {ctx : Context} (domain : String) :
      ctx.chain = none → ctx.table = none → ctx.domain = none →
      Move settings ctx [.wrote (.openDomain domain)] { ctx with domain := some domain }
  | openTable {ctx : Context} {domain : String} (table : String) :
      ctx.chain = none → ctx.table = none → ctx.domain = some domain →
      Move settings ctx [.wrote (.openTable table)] { ctx with table := some table }
  | openChain {ctx : Context} {table : String} (chain : String) :
      ctx.chain = none → ctx.table = some table →
      Move settings ctx (ctx.openChain chain).2 (ctx.openChain chain).1
  | emptyChain {ctx : Context} {table : String} (chain : String) :
      ctx.chain = none → ctx.table = some table →
      Move settings ctx [.wrote (.emptyChain chain)] ctx
  | report {ctx : Context} {event : Event} :
      event.line? = none → event.summary? = none → Move settings ctx [event] ctx

/-- A part is open only inside the part that it belongs to. -/
structure Nested (ctx : Context) : Prop where
  chain : ctx.chain.isSome → ctx.table.isSome
  table : ctx.table.isSome → ctx.domain.isSome
  rules : ctx.rules ≠ [] → ctx.chain.isSome
  policies : ctx.policies ≠ [] → ctx.table.isSome

/-- Several moves, one after the other. -/
inductive Moves (settings : Settings) : Context → List Event → Context → Prop
  | refl {ctx : Context} : Moves settings ctx [] ctx
  | step {ctx mid last : Context} {events more : List Event} :
      Move settings ctx events mid → Moves settings mid more last →
      Moves settings ctx (events ++ more) last

namespace Moves

variable {settings : Settings} {ctx mid last : Context} {events more : List Event}

theorem single (h : Move settings ctx events mid) : Moves settings ctx events mid := by
  rw [← List.append_nil events]
  exact .step h .refl

theorem trans (h : Moves settings ctx events mid) (h' : Moves settings mid more last) :
    Moves settings ctx (events ++ more) last := by
  induction h with
  | refl => exact h'
  | step hm _ ih =>
    rw [List.append_assoc]
    exact .step hm (ih h')

theorem andThen {t : Traced} {next : Context → Traced} (h : Moves settings ctx t.2 t.1)
    (h' : Moves settings t.1 (next t.1).2 (next t.1).1) :
    Moves settings ctx (t.andThen next).2 (t.andThen next).1 := h.trans h'

/-! ## Closing and opening -/

theorem closeChain (settings : Settings) (ctx : Context) :
    Moves settings ctx (ctx.closeChain settings).2 (ctx.closeChain settings).1 := by
  cases hc : ctx.chain with
  | none =>
    simp only [Context.closeChain, hc]
    exact .refl
  | some chain =>
    have h : (ctx.closeChain settings).1 = { ctx with chain := none, rules := [] } := by
      simp only [Context.closeChain, hc]
    rw [h]
    exact .single (.closeChain hc)

end Moves

section
variable {settings : Settings} {ctx : Context}

theorem closeChain_of_none (h : ctx.chain = none) : ctx.closeChain settings = (ctx, []) := by
  simp only [closeChain, h]

theorem closeChain_lines {chain : String} (h : ctx.chain = some chain) :
    configLines (ctx.closeChain settings).2
      = ConfigLine.ofRules (writtenRules settings ctx.rules) ++ [.close] := by
  simp only [closeChain, h, configLines_append, configLines_ofLines]
  exact List.append_nil _

theorem openChain_lines (ctx : Context) (chain : String) :
    configLines (ctx.openChain chain).2 = policyLines chain (ctx.policies.lookup chain) := by
  rw [openChain, configLines_ofLines]

theorem closeTable_of_none (h : ctx.chain = none) (ht : ctx.table = none) :
    ctx.closeTable settings = (ctx, []) := by
  simp only [closeTable, closeChain_of_none h, Traced.andThen, ht, List.append_nil]

/-- The table ends with the declared policies that no chain has stated. -/
theorem closeTable_of_some {table : String} (h : ctx.chain = none) (ht : ctx.table = some table) :
    ctx.closeTable settings
      = ({ ctx with table := none, policies := [] },
        Event.ofLines ((ctx.policies.flatMap fun (chain, policy) =>
          policyLines chain (some policy) ++ [.close]) ++ [.close])) := by
  simp only [closeTable, closeChain_of_none h, Traced.andThen, ht, List.nil_append]

theorem closeTable_lines {table : String} (h : ctx.chain = none) (ht : ctx.table = some table) :
    configLines (ctx.closeTable settings).2
      = (ctx.policies.flatMap fun (chain, policy) =>
        policyLines chain (some policy) ++ [.close]) ++ [.close] := by
  rw [closeTable_of_some h ht, configLines_ofLines]

theorem closeDomain_of_none (h : ctx.chain = none) (ht : ctx.table = none)
    (hd : ctx.domain = none) : ctx.closeDomain settings = (ctx, []) := by
  simp only [closeDomain, closeTable_of_none h ht, Traced.andThen, hd, List.append_nil]

theorem closeDomain_of_some {domain : String} (h : ctx.chain = none) (ht : ctx.table = none)
    (hd : ctx.domain = some domain) :
    ctx.closeDomain settings = ({ ctx with domain := none }, [.wrote .close]) := by
  simp only [closeDomain, closeTable_of_none h ht, Traced.andThen, hd, List.nil_append]

theorem closeChain_last (settings : Settings) (ctx : Context) :
    (ctx.closeChain settings).1.chain = none ∧
    (ctx.closeChain settings).1.table = ctx.table ∧
    (ctx.closeChain settings).1.domain = ctx.domain ∧
    (ctx.closeChain settings).1.hint = ctx.hint := by
  cases hc : ctx.chain with
  | none =>
    rw [closeChain_of_none hc]
    exact ⟨hc, rfl, rfl, rfl⟩
  | some chain =>
    simp only [closeChain, hc]
    exact ⟨trivial, trivial, trivial, trivial⟩

theorem andThen_context (t : Traced) (next : Context → Traced) :
    (t.andThen next).1 = (next t.1).1 := rfl

theorem andThen_congr {t : Traced} {next other : Context → Traced} (h : next t.1 = other t.1) :
    t.andThen next = t.andThen other := by
  rw [Traced.andThen, h, Traced.andThen]

/-- To close a table is to close its chain first. -/
theorem closeTable_eq (settings : Settings) (ctx : Context) :
    ctx.closeTable settings = (ctx.closeChain settings).andThen (closeTable settings) := by
  have hnone := (closeChain_last settings ctx).1
  rw [closeTable]
  refine andThen_congr ?_
  show _ = (closeTable settings (ctx.closeChain settings).1)
  rw [closeTable, closeChain_of_none hnone]
  simp only [Traced.andThen, List.nil_append]

theorem closeTable_last (settings : Settings) (ctx : Context) :
    (ctx.closeTable settings).1.chain = none ∧
    (ctx.closeTable settings).1.table = none ∧
    (ctx.closeTable settings).1.domain = ctx.domain ∧
    (ctx.closeTable settings).1.hint = ctx.hint := by
  obtain ⟨hchain, htable, hdomain, hhint⟩ := closeChain_last settings ctx
  rw [closeTable_eq, andThen_context]
  cases ht : ctx.table with
  | none =>
    rw [closeTable_of_none hchain (htable.trans ht)]
    exact ⟨hchain, htable.trans ht, hdomain, hhint⟩
  | some table =>
    rw [closeTable_of_some hchain (htable.trans ht)]
    exact ⟨hchain, rfl, hdomain, hhint⟩

/-- To close a domain is to close its table first. -/
theorem closeDomain_eq (settings : Settings) (ctx : Context) :
    ctx.closeDomain settings = (ctx.closeTable settings).andThen (closeDomain settings) := by
  obtain ⟨hchain, htable, _⟩ := closeTable_last settings ctx
  rw [closeDomain]
  refine andThen_congr ?_
  show _ = (closeDomain settings (ctx.closeTable settings).1)
  rw [closeDomain, closeTable_of_none hchain htable]
  simp only [Traced.andThen, List.nil_append]

theorem closeDomain_last (settings : Settings) (ctx : Context) :
    (ctx.closeDomain settings).1.chain = none ∧
    (ctx.closeDomain settings).1.table = none ∧
    (ctx.closeDomain settings).1.domain = none ∧
    (ctx.closeDomain settings).1.hint = ctx.hint := by
  obtain ⟨hchain, htable, hdomain, hhint⟩ := closeTable_last settings ctx
  rw [closeDomain_eq, andThen_context]
  cases hd : ctx.domain with
  | none =>
    rw [closeDomain_of_none hchain htable (hdomain.trans hd)]
    exact ⟨hchain, htable, hdomain.trans hd, hhint⟩
  | some domain =>
    rw [closeDomain_of_some hchain htable (hdomain.trans hd)]
    exact ⟨hchain, htable, rfl, hhint⟩

theorem policyLines_frame (chain : String) (policy : Option String) :
    ∀ line ∈ policyLines chain policy, line.isFrame = true := by
  cases policy <;> simp [policyLines, ConfigLine.isFrame]

theorem frame_policies (policies : List (String × String)) :
    ∀ line ∈ policies.flatMap fun (chain, policy) =>
      policyLines chain (some policy) ++ [.close], line.isFrame = true := by
  intro line hline
  obtain ⟨⟨chain, policy⟩, _, hline⟩ := List.mem_flatMap.mp hline
  obtain hline | hline := List.mem_append.mp hline
  · exact policyLines_frame chain (some policy) line hline
  · rw [List.mem_singleton.mp hline]
    rfl

namespace Moves

theorem closeTable (settings : Settings) (ctx : Context) :
    Moves settings ctx (ctx.closeTable settings).2 (ctx.closeTable settings).1 := by
  obtain ⟨hchain, htable, _⟩ := closeChain_last settings ctx
  rw [closeTable_eq]
  refine (Moves.closeChain settings ctx).andThen ?_
  cases ht : ctx.table with
  | none =>
    rw [closeTable_of_none hchain (htable.trans ht)]
    exact .refl
  | some table =>
    have hmove : Move settings _ _ _ := .closeTable hchain (htable.trans ht)
    rw [closeTable_of_some hchain (htable.trans ht)] at hmove ⊢
    exact .single hmove

theorem closeDomain (settings : Settings) (ctx : Context) :
    Moves settings ctx (ctx.closeDomain settings).2 (ctx.closeDomain settings).1 := by
  obtain ⟨hchain, htable, hdomain, _⟩ := closeTable_last settings ctx
  rw [closeDomain_eq]
  refine (Moves.closeTable settings ctx).andThen ?_
  cases hd : ctx.domain with
  | none =>
    rw [closeDomain_of_none hchain htable (hdomain.trans hd)]
    exact .refl
  | some domain =>
    rw [closeDomain_of_some hchain htable (hdomain.trans hd)]
    exact .single (.closeDomain hchain htable (hdomain.trans hd))

end Moves

/-! ## What is open where -/

namespace Nested

variable {ctx : Context}

theorem rules_of_none (h : ctx.Nested) (hc : ctx.chain = none) : ctx.rules = [] := by
  refine Classical.byContradiction fun hne => ?_
  simpa [hc] using h.rules hne

theorem policies_of_none (h : ctx.Nested) (ht : ctx.table = none) : ctx.policies = [] := by
  refine Classical.byContradiction fun hne => ?_
  simpa [ht] using h.policies hne

theorem addRules (h : ctx.Nested) (hc : ctx.chain.isSome) (rules : List LeafRule) :
    Nested { ctx with rules := ctx.rules ++ rules } :=
  ⟨h.chain, h.table, fun _ => hc, h.policies⟩

end Nested

theorem nested_start : ({} : Context).Nested :=
  ⟨nofun, nofun, fun h => absurd rfl h, fun h => absurd rfl h⟩

/-- No move opens a part outside of the part that it belongs to, or leaves one open there. -/
theorem Move.nested {settings : Settings} {ctx mid : Context} {events : List Event}
    (h : Move settings ctx events mid) (hn : ctx.Nested) : mid.Nested := by
  cases h with
  | hint | emptyChain | report => exact ⟨hn.chain, hn.table, hn.rules, hn.policies⟩
  | policy chain policy ht => exact ⟨hn.chain, hn.table, hn.rules, fun _ => by rw [ht]; rfl⟩
  | closeChain hc => exact ⟨nofun, hn.table, fun hne => absurd rfl hne, hn.policies⟩
  | closeTable hc ht =>
    exact ⟨fun hs => by simp [hc] at hs, nofun, hn.rules, fun hne => absurd rfl hne⟩
  | closeDomain hc ht hd =>
    exact ⟨hn.chain, fun hs => by simp [ht] at hs, hn.rules, hn.policies⟩
  | openDomain domain hc ht hd => exact ⟨hn.chain, fun _ => rfl, hn.rules, hn.policies⟩
  | openTable table hc ht hd =>
    exact ⟨fun _ => rfl, fun _ => by rw [hd]; rfl, hn.rules, fun _ => rfl⟩
  | openChain chain hc ht =>
    have htable : ctx.table.isSome := by rw [ht]; rfl
    exact ⟨fun _ => htable, hn.table, fun _ => rfl, fun _ => htable⟩

theorem Moves.nested {settings : Settings} {ctx mid : Context} {events : List Event}
    (h : Moves settings ctx events mid) (hn : ctx.Nested) : mid.Nested := by
  induction h with
  | refl => exact hn
  | step hm _ ih => exact ih (hm.nested hn)

/-! ## Tables and chains that are entered -/

/-- A domain that is open already is the one that is asked for. -/
theorem openDomain_moves (settings : Settings) {ctx : Context} {domain : String}
    (hchain : ctx.chain = none) (htable : ctx.table = none)
    (hdomain : ctx.domain = none ∨ ctx.domain = some domain) :
    Moves settings ctx (ctx.openDomain domain).2 (ctx.openDomain domain).1 ∧
    (ctx.openDomain domain).1 = { ctx with domain := some domain } := by
  obtain hd | hd := hdomain
  · simp only [openDomain, hd]
    exact ⟨.single (.openDomain domain hchain htable hd), trivial⟩
  · simp only [openDomain, hd]
    exact ⟨.refl, by rw [← hd]⟩

/-- Whatever a table line closes, its domain is opened behind it, and then the table. -/
theorem startTable_cases (settings : Settings) (name : String) (ctx : Context) :
    let domain := nonEmptyOr ctx.hint settings.domain.name
    ∃ closed : Traced, (closed = ctx.closeTable settings ∨ closed = ctx.closeDomain settings) ∧
      ctx.startTable settings name = (closed.andThen (openDomain domain)).andThen (openTable name) ∧
      closed.1.chain = none ∧ closed.1.table = none ∧
      (closed.1.domain = none ∨ closed.1.domain = some domain) ∧ closed.1.hint = ctx.hint := by
  intro domain
  unfold startTable
  by_cases hd : ctx.domain = some domain
  · obtain ⟨hchain, htable, hdomain, hhint⟩ := closeTable_last settings ctx
    exact ⟨_, .inl rfl, by simp only [domain, if_pos hd], hchain, htable,
      .inr (hdomain.trans hd), hhint⟩
  · obtain ⟨hchain, htable, hdomain, hhint⟩ := closeDomain_last settings ctx
    exact ⟨_, .inr rfl, by simp only [domain, if_neg hd], hchain, htable, .inl hdomain, hhint⟩

/-- The table is opened in the domain that it belongs to, whatever was open before. -/
theorem startTable_moves (settings : Settings) (name : String) (ctx : Context) :
    Moves settings ctx (ctx.startTable settings name).2 (ctx.startTable settings name).1 ∧
    (ctx.startTable settings name).1.chain = none ∧
    (ctx.startTable settings name).1.table = some name ∧
    (ctx.startTable settings name).1.domain = some (nonEmptyOr ctx.hint settings.domain.name) ∧
    (ctx.startTable settings name).1.hint = ctx.hint := by
  obtain ⟨closed, hclosed, heq, hchain, htable, hdomain, hhint⟩ :=
    startTable_cases settings name ctx
  have hmoves : Moves settings ctx closed.2 closed.1 := by
    rcases hclosed with rfl | rfl
    · exact .closeTable settings ctx
    · exact .closeDomain settings ctx
  obtain ⟨hopen, hopened⟩ := openDomain_moves settings hchain htable hdomain
  have hlast : (ctx.startTable settings name).1 = { closed.1 with
      domain := some (nonEmptyOr ctx.hint settings.domain.name), table := some name } := by
    rw [heq, andThen_context, andThen_context, hopened, openTable]
  have hall : Moves settings ctx (ctx.startTable settings name).2
      (ctx.startTable settings name).1 := by
    rw [heq]
    refine (hmoves.andThen hopen).andThen (.single ?_)
    rw [andThen_context, hopened]
    exact .openTable name hchain htable rfl
  refine ⟨hall, ?_⟩
  rw [hlast]
  exact ⟨hchain, rfl, rfl, hhint⟩

/-- The chain is opened in the table, if it is not open already. -/
theorem enterChain_moves (settings : Settings) (chain : String) {ctx : Context} {table : String}
    (htable : ctx.table = some table) :
    Moves settings ctx (ctx.enterChain settings chain).2 (ctx.enterChain settings chain).1 ∧
    (ctx.enterChain settings chain).1.chain = some chain ∧
    (ctx.enterChain settings chain).1.table = ctx.table ∧
    (ctx.enterChain settings chain).1.domain = ctx.domain ∧
    (ctx.enterChain settings chain).1.hint = ctx.hint := by
  unfold enterChain
  by_cases hc : ctx.chain = some chain
  · rw [if_pos hc]
    exact ⟨.refl, hc, rfl, rfl, rfl⟩
  · rw [if_neg hc]
    obtain ⟨hchain, hkept, hdomain, hhint⟩ := closeChain_last settings ctx
    refine ⟨?_, rfl, hkept, hdomain, hhint⟩
    exact (Moves.closeChain settings ctx).andThen
      (.single (.openChain chain hchain (hkept.trans htable)))

end

end Context

/-! ## Lines -/

/-- The rules that a line adds to its chain: one, if its options can be read. -/
def DumpLine.rules (registry : Registry) : DumpLine → List LeafRule
  | .rule _ options => (LeafRule.ofText registry options).toOption.toList
  | _ => []

/-- The domain that is noted behind the line. -/
def DumpLine.hint (hint : Option String) : DumpLine → Option String
  | .comment text => ((Domain.ofComment? text).map Domain.name).or hint
  | _ => hint

namespace Context

/-- What the line names is open, and nothing else has been opened. -/
def Names (settings : Settings) (ctx mid : Context) : DumpLine → Prop
  | .table name => mid.chain = none ∧ mid.table = some name ∧
      mid.domain = some (nonEmptyOr ctx.hint settings.domain.name)
  | .rule chain _ => mid.chain = some chain ∧ mid.table = ctx.table ∧ mid.domain = ctx.domain
  | _ => mid.table = ctx.table ∧ mid.domain = ctx.domain

/-- What a line has done that did not end the conversion: moves, and then a rule
for the chain that is open. -/
structure Did (settings : Settings) (registry : Registry) (ctx : Context) (line : DumpLine)
    (events : List Event) (mid last : Context) : Prop where
  moves : Moves settings ctx events mid
  names : Names settings ctx mid line
  hint : mid.hint = line.hint ctx.hint
  last : last = { mid with rules := mid.rules ++ line.rules registry }

theorem Did.nested {settings : Settings} {registry : Registry} {ctx mid last : Context}
    {line : DumpLine} {events : List Event} (h : Did settings registry ctx line events mid last)
    (hn : ctx.Nested) : last.Nested := by
  have hmid := h.moves.nested hn
  have hnames := h.names
  rw [h.last]
  cases line with
  | rule chain options =>
    have hchain : mid.chain.isSome := by
      rw [hnames.1]
      rfl
    exact hmid.addRules hchain _
  | _ => simpa [DumpLine.rules] using hmid

section
variable {settings : Settings} {registry : Registry} {ctx last : Context} {number : Int}
  {line : DumpLine} {events : List Event}

theorem Moves.reports (settings : Settings) (ctx : Context)
    (h : ∀ e ∈ events, e.line? = none ∧ e.summary? = none) : Moves settings ctx events ctx := by
  induction events with
  | nil => exact .refl
  | cons e events ih =>
    obtain ⟨⟨hline, hsummary⟩, hevents⟩ := List.forall_mem_cons.mp h
    exact .step (.report hline hsummary) (ih hevents)

theorem addRule_moves (settings : Settings) (registry : Registry) (number : Int)
    (options : String) (ctx : Context) :
    Moves settings ctx (ctx.addRule registry number options).1.2 ctx ∧
    (ctx.addRule registry number options).1.1 = { ctx with
      rules := ctx.rules ++ (LeafRule.ofText registry options).toOption.toList } := by
  unfold addRule
  cases ht : tokenize options with
  | error quote =>
    have hread : LeafRule.ofText registry options = .error (.ofUnclosedQuote quote) := by
      rw [LeafRule.ofText, ht]
      rfl
    rw [hread]
    exact ⟨.refl, by simp [Except.toOption]⟩
  | ok tokens =>
    have hread : LeafRule.ofText registry options = LeafRule.ofTokens registry tokens := by
      rw [LeafRule.ofText, ht]
      rfl
    have hnamed : ∀ e ∈ (LeafRule.unknownModules registry tokens).map fun name =>
        Event.unknownModule name number, e.line? = none ∧ e.summary? = none := by
      intro e he
      obtain ⟨name, _, rfl⟩ := List.mem_map.mp he
      exact ⟨rfl, rfl⟩
    have hmoves := Moves.reports settings ctx hnamed
    rw [hread]
    cases hr : LeafRule.ofTokens registry tokens with
    | error fault => exact ⟨by simpa only [hr] using hmoves, by simp [hr, Except.toOption]⟩
    | ok rule => exact ⟨by simpa only [hr] using hmoves, by simp [hr, Except.toOption]⟩

theorem did_of_comment (settings : Settings) (registry : Registry) (number : Int)
    (text : String) (ctx : Context) :
    ∃ mid, Did settings registry ctx (.comment text)
      (ctx.step settings registry number (.comment text)).1.2 mid
      (ctx.step settings registry number (.comment text)).1.1 := by
  cases hd : Domain.ofComment? text with
  | none =>
    simp only [step, hd]
    exact ⟨ctx, .refl, ⟨rfl, rfl⟩, by simp [DumpLine.hint, hd], by simp [DumpLine.rules]⟩
  | some domain =>
    simp only [step, hd]
    exact ⟨{ ctx with hint := some domain.name }, .single (.hint domain), ⟨rfl, rfl⟩,
      by simp [DumpLine.hint, hd], by simp [DumpLine.rules]⟩

theorem did_of_chain (settings : Settings) (registry : Registry) (number : Int)
    (name : String) (policy : Option String) {ctx : Context} {table : String}
    (ht : ctx.table = some table) :
    ∃ mid, Did settings registry ctx (.chain name policy)
      (ctx.step settings registry number (.chain name policy)).1.2 mid
      (ctx.step settings registry number (.chain name policy)).1.1 := by
  simp only [step, ht, Option.isNone_some, Bool.false_eq_true, ite_false]
  cases policy with
  | none =>
    obtain ⟨hchain, htable, hdomain, hhint⟩ := closeChain_last settings ctx
    refine ⟨(ctx.closeChain settings).1, ?_, ⟨htable, hdomain⟩, hhint,
      by simp [DumpLine.rules, andThen_context]⟩
    exact (Moves.closeChain settings ctx).andThen
      (.single (.emptyChain name hchain (htable.trans ht)))
  | some policy =>
    by_cases hp : policy ∈ builtinPolicies
    · simp only [List.contains_iff_mem.mpr hp, ite_true]
      exact ⟨{ ctx with policies := setPolicy name policy ctx.policies },
        .single (.policy name policy ht hp), ⟨rfl, rfl⟩, rfl, by simp [DumpLine.rules, ht]⟩
    · simp only [List.contains_iff_mem, hp]
      exact ⟨ctx, .refl, ⟨rfl, rfl⟩, rfl, by simp [DumpLine.rules]⟩

/-- A line that belongs into a table and is not fatal has one around it. -/
theorem open_of_step (kind : TableLine)
    (hout : ctx.table = none →
      (ctx.step settings registry number line).2 = some (.outsideTable kind))
    (h : ∀ fault, (ctx.step settings registry number line).2 = some fault →
      fault.isFatal = false) :
    ∃ table, ctx.table = some table := by
  cases ht : ctx.table with
  | none => cases h _ (hout ht)
  | some table => exact ⟨table, rfl⟩

/-- A line without a fatal fault does what it says. -/
theorem did_of_step (settings : Settings) (registry : Registry) (number : Int)
    (line : DumpLine) (ctx : Context)
    (h : ∀ fault, (ctx.step settings registry number line).2 = some fault →
      fault.isFatal = false) :
    ∃ mid, Did settings registry ctx line (ctx.step settings registry number line).1.2 mid
      (ctx.step settings registry number line).1.1 := by
  cases line with
  | blank => exact ⟨ctx, .refl, ⟨rfl, rfl⟩, rfl, by simp [DumpLine.rules, step]⟩
  | unknown text => exact ⟨ctx, .refl, ⟨rfl, rfl⟩, rfl, by simp [DumpLine.rules, step]⟩
  | comment text => exact did_of_comment settings registry number text ctx
  | table name =>
    obtain ⟨hmoves, hchain, htable, hdomain, hhint⟩ := startTable_moves settings name ctx
    exact ⟨_, hmoves, ⟨hchain, htable, hdomain⟩, hhint, by simp [DumpLine.rules, step]⟩
  | chain name policy =>
    obtain ⟨table, ht⟩ := open_of_step .chain (fun ht => by simp [step, ht]) h
    exact did_of_chain settings registry number name policy ht
  | rule chain options =>
    obtain ⟨table, ht⟩ := open_of_step .rule (fun ht => by simp [step, ht]) h
    obtain ⟨hentered, hchain, htable, hdomain, hhint⟩ := enterChain_moves settings chain ht
    obtain ⟨hadded, hlast⟩ := addRule_moves settings registry number options
      (ctx.enterChain settings chain).1
    simp only [step, ht, Option.isNone_some, Bool.false_eq_true, ite_false]
    exact ⟨(ctx.enterChain settings chain).1, hentered.trans hadded,
      ⟨hchain, htable, hdomain⟩, hhint, hlast⟩
  | commit =>
    obtain ⟨table, ht⟩ := open_of_step .commit (fun ht => by simp [step, ht]) h
    obtain ⟨_, htable, hdomain, hhint⟩ := closeChain_last settings ctx
    simp only [step, ht, Option.isNone_some, Bool.false_eq_true, ite_false]
    exact ⟨(ctx.closeChain settings).1, .closeChain settings ctx, ⟨htable, hdomain⟩, hhint,
      by simp [DumpLine.rules]⟩

theorem did_of_handle
    (h : ctx.handle settings registry number line = ((last, events), none)) :
    ∃ mid, Did settings registry ctx line events mid last := by
  unfold handle at h
  rcases hs : ctx.step settings registry number line with ⟨⟨stepped, done⟩, fault⟩
  have hstep := did_of_step settings registry number line ctx
  rw [hs] at h hstep
  cases fault with
  | none =>
    obtain ⟨mid, hdid⟩ := hstep nofun
    cases h
    exact ⟨mid, hdid⟩
  | some fault =>
    by_cases hf : fault.isFatal = true
    · simp only [hf, ite_true] at h
      cases h
    · obtain ⟨mid, hdid⟩ := hstep fun f he => by
        cases he
        simpa using hf
      simp only [hf] at h
      cases h
      exact ⟨mid, hdid.moves.trans (.reports settings mid (by simp [Event.line?, Event.summary?])),
        hdid.names, hdid.hint, hdid.last⟩

end

end Context

/-! ## Conversions -/

/-- The events of a conversion from this context on that no line has ended. -/
inductive Ran (settings : Settings) (registry : Registry) :
    Context → List DumpLine → List Event → Prop
  | finish (ctx : Context) : Ran settings registry ctx [] (ctx.closeDomain settings).2
  | line {ctx mid last : Context} {line : DumpLine} {rest : List DumpLine}
      {events more : List Event} :
      Context.Did settings registry ctx line events mid last →
      Ran settings registry last rest more →
      Ran settings registry ctx (line :: rest) (events ++ more)

namespace Conversion

/-- Where nothing is fatal, the first line is handled and the others run behind it. -/
theorem run_uncons {settings : Settings} {registry : Registry} {number : Int} {ctx : Context}
    {text : String} {rest : List String}
    (h : (run settings registry number ctx (text :: rest)).fault = none) :
    ∃ last events, ctx.handle settings registry number (.ofText text) = ((last, events), none) ∧
      (run settings registry (number + 1) last rest).fault = none ∧
      (run settings registry number ctx (text :: rest)).events
        = events ++ (run settings registry (number + 1) last rest).events := by
  rcases hh : ctx.handle settings registry number (.ofText text) with ⟨⟨last, events⟩, fault⟩
  cases fault with
  | some fault =>
    simp only [run, hh] at h
    cases h
  | none =>
    simp only [run, hh] at h ⊢
    exact ⟨last, events, rfl, h, rfl⟩

theorem ran_of_run {settings : Settings} {registry : Registry} {number : Int} {ctx : Context}
    {lines : List String} (h : (run settings registry number ctx lines).fault = none) :
    Ran settings registry ctx (lines.map DumpLine.ofText)
      (run settings registry number ctx lines).events := by
  induction lines generalizing number ctx with
  | nil => exact .finish ctx
  | cons text rest ih =>
    obtain ⟨last, events, hhandle, hrest, hevents⟩ := run_uncons h
    obtain ⟨mid, hdid⟩ := Context.did_of_handle hhandle
    rw [hevents]
    exact .line hdid (ih hrest)

end Conversion

end FermRules
