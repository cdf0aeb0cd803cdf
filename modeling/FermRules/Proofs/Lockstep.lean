import FermRules.Proofs.Levels
import FermRules.Proofs.Moves
import Mathlib.Data.List.TakeWhile

/-! # Conversions in step

Two conversions of one dump whose settings name the same domain pass through the
same contexts, whether they optimize or not. They write the same lines up to the
statements of a chain, which they write when the chain is closed, and each of
them leaves the level there as it was. So both are at the level that the context
tells: one block is open for the domain, one for the table and one for the chain.

What carries the argument is that contexts stay tidy: parts are nested, what is
held is held for an open part, and all names and rules come from lines. -/
namespace FermRules

/-! ## Names in a dump -/

namespace DumpLine

/-- What the line names can be written on one line. -/
def Unbroken : DumpLine → Prop
  | .table name => Text.Unbroken name
  | .chain name _ => Text.Unbroken name
  | .rule name options => Text.Unbroken name ∧ Text.Unbroken options
  | _ => True

theorem unbroken_of_nonblank {cs : List Char} (h : ∀ c ∈ cs, Text.isBlank c = false) :
    Text.Unbroken (String.ofList cs) := by
  intro hm
  rw [String.toList_ofList] at hm
  have hfeed := h '\n' hm
  revert hfeed
  decide

theorem unbroken_splitWord (cs : List Char) :
    Text.Unbroken (String.ofList (splitWord cs).1) := by
  refine unbroken_of_nonblank fun c hc => ?_
  simpa using List.mem_takeWhile_imp hc

theorem unbroken_table? {cs : List Char} {line : DumpLine} (h : table? cs = some line) :
    line.Unbroken := by
  unfold table? at h
  split at h
  · split at h
    · rename_i name hname
      cases h
      refine unbroken_of_nonblank fun c hc => ?_
      simp only [Bool.and_eq_true, List.all_eq_true] at hname
      simpa using hname.2 c hc
    · cases h
  · cases h

theorem unbroken_chain? {cs : List Char} {line : DumpLine} (h : chain? cs = some line) :
    line.Unbroken := by
  unfold chain? at h
  split at h
  · dsimp only at h
    split at h
    · cases h
    · cases h
      exact unbroken_splitWord _
  · cases h

theorem unbroken_rule? {cs : List Char} {line : DumpLine} (h : rule? cs = some line) :
    line.Unbroken := by
  unfold rule? uncountedRule? at h
  obtain ⟨behind, _, h⟩ := Option.bind_eq_some_iff.mp h
  obtain ⟨named, _, h⟩ := Option.bind_eq_some_iff.mp h
  obtain ⟨words, _, h⟩ := Option.bind_eq_some_iff.mp h
  dsimp only at h
  split at h
  · cases h
  · rename_i hnone
    cases h
    refine ⟨unbroken_splitWord _, ?_⟩
    simp only [Bool.or_eq_true, not_or, List.contains_iff_mem] at hnone
    rw [Text.Unbroken, String.toList_ofList]
    exact hnone.2

theorem unbroken_ofText (text : String) : (ofText text).Unbroken := by
  unfold ofText ofStripped
  split
  · trivial
  split
  · trivial
  split
  · trivial
  generalize Text.strip text.toList = cs
  cases h : (((table? cs).or (chain? cs)).or (rule? cs)) with
  | none => trivial
  | some line =>
    rw [Option.getD_some]
    rcases Option.or_eq_some_iff.mp h with h | ⟨_, h⟩
    · rcases Option.or_eq_some_iff.mp h with h | ⟨_, h⟩
      · exact unbroken_table? h
      · exact unbroken_chain? h
    · exact unbroken_rule? h

end DumpLine

/-! ## Lines around statements -/

namespace ConfigLine

variable {registry : Registry}

theorem shifts_openDomain {name : String} (h : Text.Unbroken name) (n : Nat) :
    (openDomain name).Shifts registry n (n + 1) := by
  have hfront : Text.Solid "domain " := ⟨by decide, 'd', _, rfl, by decide, by decide⟩
  exact shifts_block rfl (hfront.append h)

theorem shifts_openTable {name : String} (h : Text.Unbroken name) (n : Nat) :
    (openTable name).Shifts registry n (n + 1) := by
  have hfront : Text.Solid "table " := ⟨by decide, 't', _, rfl, by decide, by decide⟩
  exact shifts_block rfl (hfront.append (Token.unbroken_write h))

theorem solid_chain {name : String} (h : Text.Unbroken name) :
    Text.Solid ("chain " ++ Token.write name) := by
  have hfront : Text.Solid "chain " := ⟨by decide, 'c', _, rfl, by decide, by decide⟩
  exact hfront.append (Token.unbroken_write h)

theorem shifts_openChain {name : String} (h : Text.Unbroken name) (n : Nat) :
    (openChain name).Shifts registry n (n + 1) := shifts_block rfl (solid_chain h)

theorem shifts_emptyChain {name : String} (h : Text.Unbroken name) (n : Nat) :
    (emptyChain name).Shifts registry n n := by
  refine ⟨_, rfl, .stays ((solid_chain h).append (by decide)) ?_⟩
  have hlast : " \x7b\x7d".toList.getLast? = some '\x7d' := by decide
  rw [String.toList_append, List.getLast?_append, hlast, Option.some_or]
  decide

theorem shifts_policy {policy : String} (h : policy ∈ builtinPolicies) (n : Nat) :
    (ConfigLine.policy policy).Shifts registry n n := by
  have hall : ∀ name ∈ builtinPolicies, Text.Unbroken name := by decide
  have hfront : Text.Solid "policy " := ⟨by decide, 'p', _, rfl, by decide, by decide⟩
  exact shifts_statement rfl (hfront.append (hall policy h))

theorem shifts_policyLines {chain : String} (h : Text.Unbroken chain) {policy : Option String}
    (hp : ∀ p, policy = some p → p ∈ builtinPolicies) (n : Nat) :
    ShiftsAll registry n (Context.policyLines chain policy) (n + 1) := by
  cases policy with
  | none => exact .single (shifts_openChain h n)
  | some policy => exact .cons (shifts_openChain h n) (.single (shifts_policy (hp policy rfl) _))

end ConfigLine

/-! ## Contexts -/

namespace Context

/-- The number of parts that are open. -/
def depth (ctx : Context) : Nat := [ctx.domain, ctx.table, ctx.chain].countP Option.isSome

/-- The context is nested, and all that it holds can be written on lines. -/
structure Tidy (registry : Registry) (ctx : Context) : Prop where
  nested : ctx.Nested
  rules : ∀ r ∈ ctx.rules, r.Tidy registry
  policies : ∀ entry ∈ ctx.policies, Text.Unbroken entry.1 ∧ entry.2 ∈ builtinPolicies
  hint : ∀ name, ctx.hint = some name → Text.Unbroken name

theorem tidy_start (registry : Registry) : ({} : Context).Tidy registry :=
  ⟨nested_start, nofun, nofun, nofun⟩

/-- Chains that only state their policy are closed again. -/
theorem shifts_policies {registry : Registry} {policies : List (String × String)}
    (h : ∀ entry ∈ policies, Text.Unbroken entry.1 ∧ entry.2 ∈ builtinPolicies) (n : Nat) :
    ConfigLine.ShiftsAll registry n (policies.flatMap fun (chain, policy) =>
      policyLines chain (some policy) ++ [.close]) n := by
  induction policies with
  | nil => exact .nil
  | cons entry policies ih =>
    obtain ⟨⟨hchain, hpolicy⟩, hrest⟩ := List.forall_mem_cons.mp h
    have hlines : ConfigLine.ShiftsAll registry n (policyLines entry.1 (some entry.2)) (n + 1) :=
      ConfigLine.shifts_policyLines hchain (fun p hp => by cases hp; exact hpolicy) n
    rw [List.flatMap_cons]
    exact (hlines.append (.single (ConfigLine.shifts_close registry n))).append (ih hrest)

/-- The rules of a chain are as tidy as they were read, optimized or not. -/
theorem tidy_writtenRules {registry : Registry} (settings : Settings) {rules : List LeafRule}
    (h : ∀ r ∈ rules, r.Tidy registry) : Rule.AllTidy registry (writtenRules settings rules) := by
  have hall := Rule.allTidy_map_leaf h
  unfold writtenRules
  split
  · exact hall.optimize
  · exact hall

/-- The events of two conversions from one level to another. What they say about
a chain is only known from the context that they have closed. -/
inductive Lockstep (registry : Registry) (s s' : Settings) :
    Nat → List Event → List Event → Nat → Prop
  | nil {n : Nat} : Lockstep registry s s' n [] [] n
  | line {n mid m : Nat} {line : ConfigLine} {events others : List Event} :
      line.isFrame = true → line.Shifts registry n mid →
      Lockstep registry s s' mid events others m →
      Lockstep registry s s' n (.wrote line :: events) (.wrote line :: others) m
  | report {n m : Nat} {e : Event} {events others : List Event} :
      e.line? = none → e.summary? = none → Lockstep registry s s' n events others m →
      Lockstep registry s s' n (e :: events) (e :: others) m
  | chain {m : Nat} {ctx : Context} {name : String} {events others : List Event} :
      ctx.chain = some name → (∀ r ∈ ctx.rules, r.Tidy registry) →
      Lockstep registry s s' 2 events others m →
      Lockstep registry s s' 3 ((ctx.closeChain s).2 ++ events) ((ctx.closeChain s').2 ++ others) m

namespace Lockstep

variable {registry : Registry} {s s' : Settings} {n mid m : Nat}
  {events others more rest : List Event}

theorem append (h : Lockstep registry s s' n events others mid)
    (h' : Lockstep registry s s' mid more rest m) :
    Lockstep registry s s' n (events ++ more) (others ++ rest) m := by
  induction h with
  | nil => exact h'
  | line hframe hshifts _ ih => exact .line hframe hshifts (ih h')
  | report hline hsummary _ ih => exact .report hline hsummary (ih h')
  | chain hc hrules _ ih =>
    rw [List.append_assoc, List.append_assoc]
    exact .chain hc hrules (ih h')

theorem symm (h : Lockstep registry s s' n events others m) :
    Lockstep registry s' s n others events m := by
  induction h with
  | nil => exact .nil
  | line hframe hshifts _ ih => exact .line hframe hshifts ih
  | report hline hsummary _ ih => exact .report hline hsummary ih
  | chain hc hrules _ ih => exact .chain hc hrules ih

/-- Lines that both conversions write. -/
theorem of_lines {lines : List ConfigLine} (hframe : ∀ line ∈ lines, line.isFrame = true)
    (h : ConfigLine.ShiftsAll registry n lines m) :
    Lockstep registry s s' n (Event.ofLines lines) (Event.ofLines lines) m := by
  induction h with
  | nil => exact .nil
  | cons hline _ ih =>
    obtain ⟨hfirst, hlines⟩ := List.forall_mem_cons.mp hframe
    exact .line hfirst hline (ih hlines)

theorem of_reports (h : ∀ e ∈ events, e.line? = none ∧ e.summary? = none) :
    Lockstep registry s s' n events events n := by
  induction events with
  | nil => exact .nil
  | cons e events ih =>
    obtain ⟨⟨hline, hsummary⟩, hevents⟩ := List.forall_mem_cons.mp h
    exact .report hline hsummary (ih hevents)

/-- The lines that are written go from the one level to the other. -/
theorem shifts (hr : registry.Legible) (h : Lockstep registry s s' n events others m) :
    ConfigLine.ShiftsAll registry n (configLines events) m := by
  induction h with
  | nil => exact .nil
  | line _ hshifts _ ih => exact .cons hshifts ih
  | @report n m e events others hline _ _ ih =>
    simp only [configLines, List.filterMap_cons, hline]
    exact ih
  | @chain m ctx name events others hc hrules _ ih =>
    rw [configLines_append, closeChain_lines hc]
    exact ((ConfigLine.shifts_rules hr _ 3 (tidy_writtenRules s hrules)).append
      (.single (ConfigLine.shifts_close registry 2))).append ih

end Lockstep

/-! ## What closes and opens parts -/

/-- Two conversions do the same to the context and write in step. -/
structure Agrees (registry : Registry) (s s' : Settings) (ctx : Context) (t t' : Traced) :
    Prop where
  same : t'.1 = t.1
  tidy : t.1.Tidy registry
  steps : Lockstep registry s s' ctx.depth t.2 t'.2 t.1.depth

section
variable {registry : Registry} {s s' : Settings} {ctx : Context}

theorem Agrees.refl (h : ctx.Tidy registry) : Agrees registry s s' ctx (ctx, []) (ctx, []) :=
  ⟨rfl, h, .nil⟩

theorem Agrees.andThen {t t' : Traced} {next next' : Context → Traced}
    (h : Agrees registry s s' ctx t t')
    (hnext : Agrees registry s s' t.1 (next t.1) (next' t.1)) :
    Agrees registry s s' ctx (t.andThen next) (t'.andThen next') := by
  have hsteps := h.steps.append hnext.steps
  constructor
  · rw [andThen_context, andThen_context, h.same, hnext.same]
  · exact hnext.tidy
  · simp only [Traced.andThen, h.same]
    exact hsteps

/-- Both conversions write the same lines. -/
theorem Agrees.of_lines {mid : Context} {lines : List ConfigLine} (hmid : mid.Tidy registry)
    (hframe : ∀ line ∈ lines, line.isFrame = true)
    (h : ConfigLine.ShiftsAll registry ctx.depth lines mid.depth) :
    Agrees registry s s' ctx (mid, Event.ofLines lines) (mid, Event.ofLines lines) :=
  ⟨rfl, hmid, .of_lines hframe h⟩

theorem depth_of_chain (h : ctx.Nested) {chain : String} (hc : ctx.chain = some chain) :
    ctx.depth = 3 := by
  have ht := h.chain (by rw [hc]; rfl)
  have hd := h.table ht
  simp [depth, hc, ht, hd]

theorem closeChain_agrees (h : ctx.Tidy registry) :
    Agrees registry s s' ctx (ctx.closeChain s) (ctx.closeChain s') := by
  cases hc : ctx.chain with
  | none =>
    rw [closeChain_of_none hc, closeChain_of_none hc]
    exact .refl h
  | some chain =>
    have hclosed : ∀ settings, (ctx.closeChain settings).1
        = { ctx with chain := none, rules := [] } := by
      intro settings
      simp only [closeChain, hc]
    have hdepth : depth { ctx with chain := none, rules := [] } = 2 := by
      have ht := h.nested.chain (by rw [hc]; rfl)
      simp [depth, ht, h.nested.table ht]
    have hstep : Lockstep registry s s' 3 ((ctx.closeChain s).2 ++ []) ((ctx.closeChain s').2 ++ [])
        2 := .chain hc h.rules .nil
    rw [List.append_nil, List.append_nil] at hstep
    constructor
    · rw [hclosed, hclosed]
    · rw [hclosed]
      exact ⟨(@Move.closeChain s _ _ hc).nested h.nested, List.forall_mem_nil _, h.policies,
        h.hint⟩
    · rw [hclosed, hdepth, depth_of_chain h.nested hc]
      exact hstep

/-- With no chain open, a table is closed behind the policies that are left. -/
theorem closeTable_agrees_of_none (h : ctx.Tidy registry) (hc : ctx.chain = none) :
    Agrees registry s s' ctx (ctx.closeTable s) (ctx.closeTable s') := by
  cases ht : ctx.table with
  | none =>
    rw [closeTable_of_none hc ht, closeTable_of_none hc ht]
    exact .refl h
  | some table =>
    rw [closeTable_of_some hc ht, closeTable_of_some hc ht]
    have hdomain := h.nested.table (by rw [ht]; rfl)
    have hdepth : ctx.depth = 2 := by simp [depth, hc, ht, hdomain]
    have hlast : depth { ctx with table := none, policies := [] } = 1 := by
      simp [depth, hc, hdomain]
    refine .of_lines ⟨(@Move.closeTable s _ _ hc ht).nested h.nested, h.rules, nofun, h.hint⟩
      ?_ ?_
    · exact List.forall_mem_append.mpr ⟨frame_policies ctx.policies, by simp [ConfigLine.isFrame]⟩
    · rw [hdepth, hlast]
      exact (shifts_policies h.policies 2).append (.single (ConfigLine.shifts_close registry 1))

theorem closeTable_agrees (h : ctx.Tidy registry) :
    Agrees registry s s' ctx (ctx.closeTable s) (ctx.closeTable s') := by
  have hclosed : Agrees registry s s' ctx _ _ := closeChain_agrees h
  rw [closeTable_eq s, closeTable_eq s']
  exact hclosed.andThen (closeTable_agrees_of_none hclosed.tidy (closeChain_last s ctx).1)

theorem closeDomain_agrees_of_none (h : ctx.Tidy registry) (hc : ctx.chain = none)
    (ht : ctx.table = none) :
    Agrees registry s s' ctx (ctx.closeDomain s) (ctx.closeDomain s') := by
  cases hd : ctx.domain with
  | none =>
    rw [closeDomain_of_none hc ht hd, closeDomain_of_none hc ht hd]
    exact .refl h
  | some domain =>
    rw [closeDomain_of_some hc ht hd, closeDomain_of_some hc ht hd]
    have hdepth : ctx.depth = 1 := by simp [depth, hc, ht, hd]
    have hlast : depth { ctx with domain := none } = 0 := by simp [depth, hc, ht]
    refine @Agrees.of_lines _ _ _ _ _ [.close]
      ⟨(@Move.closeDomain s _ _ hc ht hd).nested h.nested, h.rules, h.policies, h.hint⟩
      (by simp [ConfigLine.isFrame]) ?_
    rw [hdepth, hlast]
    exact .single (ConfigLine.shifts_close registry 0)

theorem closeDomain_agrees (h : ctx.Tidy registry) :
    Agrees registry s s' ctx (ctx.closeDomain s) (ctx.closeDomain s') := by
  have hclosed : Agrees registry s s' ctx _ _ := closeTable_agrees h
  obtain ⟨hchain, htable, _⟩ := closeTable_last s ctx
  rw [closeDomain_eq s, closeDomain_eq s']
  exact hclosed.andThen (closeDomain_agrees_of_none hclosed.tidy hchain htable)

theorem openDomain_agrees (h : ctx.Tidy registry) (hc : ctx.chain = none) (ht : ctx.table = none)
    {domain : String} (hname : Text.Unbroken domain) :
    Agrees registry s s' ctx (ctx.openDomain domain) (ctx.openDomain domain) := by
  cases hd : ctx.domain with
  | some other =>
    simp only [openDomain, hd]
    exact .refl h
  | none =>
    simp only [openDomain, hd]
    have hdepth : ctx.depth = 0 := by simp [depth, hc, ht, hd]
    have hlast : depth { ctx with domain := some domain } = 1 := by simp [depth, hc, ht]
    refine @Agrees.of_lines _ _ _ _ _ [.openDomain domain]
      ⟨(@Move.openDomain s _ domain hc ht hd).nested h.nested, h.rules, h.policies, h.hint⟩
      (by simp [ConfigLine.isFrame]) ?_
    rw [hdepth, hlast]
    exact .single (ConfigLine.shifts_openDomain hname 0)

theorem openTable_agrees (h : ctx.Tidy registry) (hc : ctx.chain = none) (ht : ctx.table = none)
    (hd : ctx.domain.isSome) {name : String} (hname : Text.Unbroken name) :
    Agrees registry s s' ctx (ctx.openTable name) (ctx.openTable name) := by
  have hdepth : ctx.depth = 1 := by simp [depth, hc, ht, hd]
  have hlast : depth { ctx with table := some name } = 2 := by simp [depth, hc, hd]
  obtain ⟨domain, hdomain⟩ := Option.isSome_iff_exists.mp hd
  refine @Agrees.of_lines _ _ _ _ _ [.openTable name]
    ⟨(@Move.openTable s _ _ name hc ht hdomain).nested h.nested, h.rules, h.policies, h.hint⟩
    (by simp [ConfigLine.isFrame]) ?_
  rw [hdepth, hlast]
  exact .single (ConfigLine.shifts_openTable hname 1)

theorem Tidy.unbroken_domain (h : ctx.Tidy registry) (domain : Domain) :
    Text.Unbroken (nonEmptyOr ctx.hint domain.name) := by
  have hdefault : Text.Unbroken domain.name := by cases domain <;> decide
  unfold nonEmptyOr
  split
  · rename_i hint hhint
    split
    · exact hdefault
    · exact h.hint _ hhint
  · exact hdefault

theorem openDomain_last (ctx : Context) (domain : String) :
    (ctx.openDomain domain).1.chain = ctx.chain ∧ (ctx.openDomain domain).1.table = ctx.table ∧
    (ctx.openDomain domain).1.domain.isSome := by
  cases hd : ctx.domain with
  | some other => simp [openDomain, hd]
  | none => simp [openDomain, hd]

theorem startTable_agrees (hs : s.domain = s'.domain) (h : ctx.Tidy registry) {name : String}
    (hname : Text.Unbroken name) :
    Agrees registry s s' ctx (ctx.startTable s name) (ctx.startTable s' name) := by
  have hdomain := h.unbroken_domain s.domain
  -- behind whatever is closed, the domain and then the table are opened
  have hopen : ∀ {t t' : Traced}, Agrees registry s s' ctx t t' → t.1.chain = none →
      t.1.table = none → Agrees registry s s' ctx
        ((t.andThen (openDomain (nonEmptyOr ctx.hint s.domain.name))).andThen (openTable name))
        ((t'.andThen (openDomain (nonEmptyOr ctx.hint s.domain.name))).andThen
          (openTable name)) := by
    intro t t' hclosed hchain htable
    have hopened := hclosed.andThen (openDomain_agrees hclosed.tidy hchain htable hdomain)
    obtain ⟨hlast, hnone, hsome⟩ :=
      openDomain_last t.1 (nonEmptyOr ctx.hint s.domain.name)
    exact hopened.andThen (openTable_agrees hopened.tidy (hlast.trans hchain)
      (hnone.trans htable) hsome hname)
  unfold startTable
  rw [← hs]
  by_cases hd : ctx.domain = some (nonEmptyOr ctx.hint s.domain.name)
  · obtain ⟨hchain, htable, _⟩ := closeTable_last s ctx
    simp only [if_pos hd]
    exact hopen (closeTable_agrees h) hchain htable
  · obtain ⟨hchain, htable, _⟩ := closeDomain_last s ctx
    simp only [if_neg hd]
    exact hopen (closeDomain_agrees h) hchain htable

theorem mem_of_lookup {policies : List (String × String)} {chain policy : String}
    (h : policies.lookup chain = some policy) : ∃ entry ∈ policies, entry.2 = policy := by
  obtain ⟨before, behind, heq, _⟩ := List.lookup_eq_some_iff.mp h
  exact ⟨(chain, policy), by simp [heq], rfl⟩

theorem openChain_agrees (h : ctx.Tidy registry) (hc : ctx.chain = none) (ht : ctx.table.isSome)
    {chain : String} (hname : Text.Unbroken chain) :
    Agrees registry s s' ctx (ctx.openChain chain) (ctx.openChain chain) := by
  have hdomain := h.nested.table ht
  have hdepth : ctx.depth = 2 := by simp [depth, hc, ht, hdomain]
  have hpolicy : ∀ p, ctx.policies.lookup chain = some p → p ∈ builtinPolicies := by
    intro p hp
    obtain ⟨entry, hmem, rfl⟩ := mem_of_lookup hp
    exact (h.policies entry hmem).2
  obtain ⟨table, htable⟩ := Option.isSome_iff_exists.mp ht
  have hnested : (ctx.openChain chain).1.Nested :=
    (@Move.openChain s _ _ chain hc htable).nested h.nested
  unfold openChain at hnested ⊢
  refine .of_lines ⟨hnested, h.rules, ?_, h.hint⟩ ?_ ?_
  · exact fun entry hmem => h.policies entry (List.mem_of_mem_filter hmem)
  · cases ctx.policies.lookup chain <;> simp [policyLines, ConfigLine.isFrame]
  · have hlast : depth { ctx with
        chain := some chain, policies := ctx.policies.filter (·.1 ≠ chain) } = 3 := by
      simp [depth, ht, hdomain]
    rw [hdepth, hlast]
    exact ConfigLine.shifts_policyLines hname hpolicy 2

theorem enterChain_agrees (h : ctx.Tidy registry) (ht : ctx.table.isSome) {chain : String}
    (hname : Text.Unbroken chain) :
    Agrees registry s s' ctx (ctx.enterChain s chain) (ctx.enterChain s' chain) := by
  unfold enterChain
  split
  · exact .refl h
  · have hclosed : Agrees registry s s' ctx _ _ := closeChain_agrees h
    obtain ⟨hchain, htable, _⟩ := closeChain_last s ctx
    exact hclosed.andThen (openChain_agrees hclosed.tidy hchain (htable ▸ ht) hname)

/-! ## Lines of a dump -/

theorem Tidy.addRule (h : ctx.Tidy registry) (hc : ctx.chain.isSome) {rule : LeafRule}
    (hrule : rule.Tidy registry) : Tidy registry { ctx with rules := ctx.rules ++ [rule] } :=
  ⟨h.nested.addRules hc [rule],
    List.forall_mem_append.mpr ⟨h.rules, List.forall_mem_singleton.mpr hrule⟩, h.policies, h.hint⟩

theorem addRule_agrees (hr : registry.Legible) (h : ctx.Tidy registry) (hc : ctx.chain.isSome)
    (number : Int) {options : String} (hline : Text.Unbroken options) :
    Agrees registry s s' ctx (ctx.addRule registry number options).1
      (ctx.addRule registry number options).1 := by
  have hreports : ∀ names : List String, ∀ e ∈ names.map fun name =>
      Event.unknownModule name number, e.line? = none ∧ e.summary? = none := by
    intro names e he
    obtain ⟨name, _, rfl⟩ := List.mem_map.mp he
    exact ⟨rfl, rfl⟩
  unfold addRule
  cases htokens : tokenize options with
  | error quote => exact .refl h
  | ok tokens =>
    dsimp only
    cases hread : LeafRule.ofTokens registry tokens with
    | error fault => exact ⟨rfl, h, .of_reports (hreports _)⟩
    | ok rule =>
      have htext : LeafRule.ofText registry options = .ok rule := by
        rw [LeafRule.ofText, htokens]
        exact hread
      exact ⟨rfl, h.addRule hc (LeafRule.tidy_of_text hr hline htext), .of_reports (hreports _)⟩

theorem mem_setPolicy {chain policy : String} {policies : List (String × String)}
    {entry : String × String} (h : entry ∈ setPolicy chain policy policies) :
    entry = (chain, policy) ∨ entry ∈ policies := by
  fun_induction setPolicy chain policy policies with
  | case1 => exact .inl (List.mem_singleton.mp h)
  | case2 old rest =>
    rcases List.mem_cons.mp h with rfl | h
    · exact .inl rfl
    · exact .inr (List.mem_cons_of_mem _ h)
  | case3 name old rest hname ih =>
    rcases List.mem_cons.mp h with rfl | h
    · exact .inr List.mem_cons_self
    · exact (ih h).imp_right (List.mem_cons_of_mem _)

theorem Tidy.setPolicy (h : ctx.Tidy registry) (ht : ctx.table.isSome) {chain policy : String}
    (hchain : Text.Unbroken chain) (hpolicy : policy ∈ builtinPolicies) :
    Tidy registry { ctx with policies := setPolicy chain policy ctx.policies } := by
  obtain ⟨table, htable⟩ := Option.isSome_iff_exists.mp ht
  have hnested := (@Move.policy {} _ _ chain policy htable hpolicy).nested h.nested
  refine ⟨hnested, h.rules, ?_, h.hint⟩
  intro entry hmem
  rcases mem_setPolicy hmem with rfl | hmem
  · exact ⟨hchain, hpolicy⟩
  · exact h.policies entry hmem

theorem Tidy.setHint (h : ctx.Tidy registry) (domain : Domain) :
    Tidy registry { ctx with hint := some domain.name } := by
  refine ⟨(@Move.hint {} _ domain).nested h.nested, h.rules, h.policies, ?_⟩
  intro name hname
  cases hname
  cases domain <;> decide

/-- A line is handled in step, and it is at fault in both conversions or in none. -/
theorem step_agrees (hr : registry.Legible) (hs : s.domain = s'.domain) (h : ctx.Tidy registry)
    (number : Int) {line : DumpLine} (hline : line.Unbroken) :
    Agrees registry s s' ctx (ctx.step s registry number line).1
      (ctx.step s' registry number line).1 ∧
    (ctx.step s' registry number line).2 = (ctx.step s registry number line).2 := by
  cases line with
  | blank | unknown => exact ⟨.refl h, rfl⟩
  | comment text =>
    rw [step, step]
    cases Domain.ofComment? text with
    | none => exact ⟨.refl h, rfl⟩
    | some domain => exact ⟨⟨rfl, h.setHint domain, .nil⟩, rfl⟩
  | table name => exact ⟨startTable_agrees hs h hline, rfl⟩
  | chain name policy =>
    cases policy with
    | none =>
      rw [step, step]
      split
      · exact ⟨.refl h, rfl⟩
      · have hclosed : Agrees registry s s' ctx _ _ := closeChain_agrees h
        have hempty : Agrees registry s s' (ctx.closeChain s).1
            ((ctx.closeChain s).1, [.wrote (.emptyChain name)])
            ((ctx.closeChain s).1, [.wrote (.emptyChain name)]) :=
          @Agrees.of_lines _ _ _ _ _ [.emptyChain name] hclosed.tidy (by simp [ConfigLine.isFrame])
            (.single (ConfigLine.shifts_emptyChain hline _))
        refine ⟨?_, rfl⟩
        dsimp only
        exact hclosed.andThen hempty
    | some policy =>
      rw [step, step]
      split
      · exact ⟨.refl h, rfl⟩
      · rename_i ht
        split
        · rename_i hpolicy
          have htable : ctx.table.isSome := by simpa [Option.isSome_iff_ne_none] using ht
          have hmem : policy ∈ builtinPolicies := by simpa using hpolicy
          exact ⟨⟨rfl, h.setPolicy htable hline hmem, .nil⟩, rfl⟩
        · exact ⟨.refl h, rfl⟩
  | rule chain options =>
    rw [step, step]
    split
    · exact ⟨.refl h, rfl⟩
    · rename_i ht
      have htable : ctx.table.isSome := by simpa [Option.isSome_iff_ne_none] using ht
      have hentered : Agrees registry s s' ctx _ _ := enterChain_agrees h htable hline.1
      have hchain : (ctx.enterChain s chain).1.chain.isSome := by
        obtain ⟨table, ht⟩ := Option.isSome_iff_exists.mp htable
        rw [(enterChain_moves s chain ht).2.1]
        rfl
      have hadded : Agrees registry s s' (ctx.enterChain s chain).1 _ _ :=
        addRule_agrees hr hentered.tidy hchain number hline.2
      dsimp only
      rw [hentered.same]
      exact ⟨hentered.andThen hadded, rfl⟩
  | commit =>
    rw [step, step]
    split
    · exact ⟨.refl h, rfl⟩
    · exact ⟨closeChain_agrees h, rfl⟩

theorem handle_agrees (hr : registry.Legible) (hs : s.domain = s'.domain) (h : ctx.Tidy registry)
    (number : Int) {line : DumpLine} (hline : line.Unbroken) :
    Agrees registry s s' ctx (ctx.handle s registry number line).1
      (ctx.handle s' registry number line).1 ∧
    (ctx.handle s' registry number line).2 = (ctx.handle s registry number line).2 := by
  obtain ⟨hstep, hfault⟩ := step_agrees hr hs h number hline
  unfold handle
  dsimp only
  rw [hfault]
  cases (ctx.step s registry number line).2 with
  | none => exact ⟨hstep, rfl⟩
  | some fault =>
    dsimp only
    split
    · exact ⟨hstep, rfl⟩
    · refine ⟨?_, rfl⟩
      dsimp only
      exact hstep.andThen ⟨rfl, hstep.tidy, .report rfl rfl .nil⟩

/-- What lines do to the context up to the first fatal fault. -/
def handleAll (settings : Settings) (registry : Registry) (number : Int) (ctx : Context) :
    List String → Traced × Option LocatedFault
  | [] => ((ctx, []), none)
  | text :: rest =>
    match ctx.handle settings registry number (.ofText text) with
    | (traced, some fault) => (traced, some fault)
    | (traced, none) =>
      let later := handleAll settings registry (number + 1) traced.1 rest
      (traced.andThen fun _ => later.1, later.2)

theorem handleAll_agrees (hr : registry.Legible) (hs : s.domain = s'.domain)
    (h : ctx.Tidy registry) (number : Int) (lines : List String) :
    Agrees registry s s' ctx (ctx.handleAll s registry number lines).1
      (ctx.handleAll s' registry number lines).1 ∧
    (ctx.handleAll s' registry number lines).2 = (ctx.handleAll s registry number lines).2 := by
  induction lines generalizing ctx number with
  | nil => exact ⟨.refl h, rfl⟩
  | cons text rest ih =>
    obtain ⟨hline, hfault⟩ := handle_agrees hr hs h number (DumpLine.unbroken_ofText text)
    rcases hhandle : ctx.handle s registry number (.ofText text) with ⟨traced, fault⟩
    rcases hhandle' : ctx.handle s' registry number (.ofText text) with ⟨traced', fault'⟩
    rw [hhandle, hhandle'] at hline hfault
    obtain rfl : fault = fault' := hfault.symm
    rw [handleAll, handleAll, hhandle, hhandle']
    cases fault with
    | some fault => exact ⟨hline, rfl⟩
    | none =>
      obtain ⟨hrest, hlater⟩ := ih hline.tidy (number + 1)
      dsimp only
      rw [hline.same]
      exact ⟨hline.andThen hrest, hlater⟩

end

end Context

/-! ## Whole conversions -/

namespace Conversion

/-- A conversion handles all lines, and closes what is open if none of them was
fatal. -/
theorem run_eq (settings : Settings) (registry : Registry) (number : Int) (ctx : Context)
    (lines : List String) :
    run settings registry number ctx lines
      = match ctx.handleAll settings registry number lines with
        | (traced, some fault) => ⟨traced.2, some fault⟩
        | (traced, none) => ⟨(traced.andThen (Context.closeDomain settings)).2, none⟩ := by
  induction lines generalizing number ctx with
  | nil => rfl
  | cons text rest ih =>
    rw [run, Context.handleAll]
    rcases ctx.handle settings registry number (.ofText text) with ⟨⟨mid, events⟩, fault⟩
    cases fault with
    | some fault => rfl
    | none =>
      dsimp only
      rw [ih]
      rcases mid.handleAll settings registry (number + 1) rest with ⟨⟨last, more⟩, fault⟩
      cases fault with
      | some fault => rfl
      | none => simp only [Traced.andThen, List.append_assoc]

variable {registry : Registry}

/-- Lines in front of all others, which open nothing. -/
def headerEvents (settings : Settings) : List Event :=
  if settings.header then Event.ofLines header else []

theorem ofLines_events (settings : Settings) (registry : Registry) (lines : List String) :
    (ofLines settings registry lines).events
      = headerEvents settings ++ (run settings registry 1 {} lines).events := rfl

theorem lockstep_header {s s' : Settings} (h : s.header = s'.header) :
    Context.Lockstep registry s s' 0 (headerEvents s) (headerEvents s') 0 := by
  have hcomment : ∀ text, Text.Unbroken text → ("# " ++ text).toList.getLast? ≠ some '\x7b' →
      (ConfigLine.comment text).Shifts registry 0 0 := by
    intro text hunbroken hlast
    have hfront : Text.Solid "# " := ⟨by decide, '#', _, rfl, by decide, by decide⟩
    exact ⟨_, rfl, .stays (hfront.append hunbroken) hlast⟩
  have hlines : ConfigLine.ShiftsAll registry 0 header 0 :=
    .cons (hcomment _ (by decide) (by decide)) (.cons (hcomment _ (by decide) (by decide))
      (.single ⟨"", rfl, .blank⟩))
  have hframe : ∀ line ∈ header, line.isFrame = true := by decide
  unfold headerEvents
  rw [← h]
  split
  · exact .of_lines hframe hlines
  · exact .nil

theorem lockstep_ofLines {s s' : Settings} (hr : registry.Legible) (hd : s.domain = s'.domain)
    (hh : s.header = s'.header) (lines : List String) :
    ∃ level, Context.Lockstep registry s s' 0 (ofLines s registry lines).events
        (ofLines s' registry lines).events level ∧
      (ofLines s' registry lines).fault = (ofLines s registry lines).fault ∧
      ((ofLines s registry lines).fault = none → level = 0) := by
  obtain ⟨hagrees, hfaults⟩ := Context.handleAll_agrees hr hd (Context.tidy_start registry) 1 lines
  have hheader := @lockstep_header registry _ _ hh
  have hfault : ∀ settings, (ofLines settings registry lines).fault
      = (run settings registry 1 {} lines).fault := fun _ => rfl
  rw [hfault, hfault, ofLines_events, ofLines_events, run_eq, run_eq]
  rcases hall : Context.handleAll s registry 1 {} lines with ⟨traced, fault⟩
  rcases hall' : Context.handleAll s' registry 1 {} lines with ⟨traced', fault'⟩
  rw [hall, hall'] at hagrees hfaults
  obtain rfl : fault = fault' := hfaults.symm
  cases fault with
  | some fault => exact ⟨_, hheader.append hagrees.steps, rfl, nofun⟩
  | none =>
    have hclosed : Context.Agrees registry s s' traced.1 _ _ :=
      Context.closeDomain_agrees hagrees.tidy
    have hwhole := hagrees.andThen hclosed
    obtain ⟨hchain, htable, hdomain, _⟩ := Context.closeDomain_last s traced.1
    have hdepth : (traced.andThen (Context.closeDomain s)).1.depth = 0 := by
      simp [Context.andThen_context, Context.depth, hchain, htable, hdomain]
    have hsteps := hwhole.steps
    rw [hdepth] at hsteps
    exact ⟨0, hheader.append hsteps, rfl, fun _ => rfl⟩

end Conversion

end FermRules
