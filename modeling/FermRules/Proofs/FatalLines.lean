import FermRules.Proofs.Handling
import FermRules.Proofs.Nesting

/-! # When a conversion ends early

Two kinds of lines are fatal: a line that belongs into a table behind no table
line, and a rule in a table whose options end too early. Neither depends on what
the lines in front of it have done, only on whether one of them begins a table,
for no table is ever closed between two lines without another one being opened.
A conversion ends at the first such line. What has been written by then is what
the lines in front of it have written, and the way into the chain that a rule
names, for that is taken before the options are read. -/
namespace FermRules

/-- What the line is among the lines that belong into a table. -/
def DumpLine.tableLine? : DumpLine → Option TableLine
  | .chain .. => some .chain
  | .rule .. => some .rule
  | .commit => some .commit
  | .blank | .comment _ | .table _ | .unknown _ => none

/-- The line is fatal behind these lines. -/
inductive DumpLine.Fails (registry : Registry) (before : List DumpLine) :
    DumpLine → DumpFault → Prop
  | outside {line : DumpLine} {kind : TableLine} :
      line.tableLine? = some kind → (∀ name, .table name ∉ before) →
      Fails registry before line (.outsideTable kind)
  | short {name chain options : String} {tokens : List Token} {fault : RuleFault} :
      .table name ∈ before → tokenize options = .ok tokens →
      LeafRule.ofTokens registry tokens = .error fault → fault.kind = .arity →
      Fails registry before (.rule chain options) (.rule fault)

/-- The line at this place, counted from zero, is fatal where it stands. -/
def FailsAt (registry : Registry) (lines : List String) (i : Nat) (fault : DumpFault) : Prop :=
  ∃ text, lines[i]? = some text ∧
    (DumpLine.ofText text).Fails registry ((lines.take i).map .ofText) fault

structure FailsFirst (registry : Registry) (lines : List String) (i : Nat)
    (fault : DumpFault) : Prop where
  fails : FailsAt registry lines i fault
  first : ∀ j < i, ∀ other, ¬ FailsAt registry lines j other

/-! ## Fatal lines -/

namespace Context

variable {settings : Settings} {registry : Registry} {ctx : Context} {number : Int}
  {lines : List String} {fault : DumpFault}

/-- Only options that end too early are fatal. -/
theorem addRule_fatal_iff {options : String} :
    (ctx.addRule registry number options).2 = some fault ∧ fault.isFatal = true ↔
      ∃ tokens short, tokenize options = .ok tokens ∧
        LeafRule.ofTokens registry tokens = .error short ∧ short.kind = .arity ∧
        fault = .rule short := by
  have hkind : ∀ short : RuleFault, (DumpFault.rule short).isFatal = true ↔
      short.kind = .arity := by
    intro short
    cases short <;> simp [DumpFault.isFatal, DumpFault.kind, RuleFault.kind, FaultKind.isFatal]
  unfold addRule
  cases ht : tokenize options with
  | error quote =>
    constructor
    · rintro ⟨h, hfatal⟩
      cases h
      cases hfatal
    · rintro ⟨tokens, short, h, _⟩
      cases h
  | ok tokens =>
    dsimp only
    cases hr : LeafRule.ofTokens registry tokens with
    | ok rule =>
      constructor
      · rintro ⟨h, _⟩
        cases h
      · rintro ⟨_, short, h, hread, _⟩
        cases h
        rw [hr] at hread
        cases hread
    | error short =>
      constructor
      · rintro ⟨h, hfatal⟩
        cases h
        exact ⟨tokens, short, rfl, hr, (hkind short).mp hfatal, rfl⟩
      · rintro ⟨_, other, h, hread, harity, rfl⟩
        cases h
        rw [hr] at hread
        cases hread
        exact ⟨rfl, (hkind short).mpr harity⟩

theorem step_fatal_of_none {line : DumpLine} (ht : ctx.table = none) :
    (ctx.step settings registry number line).2 = some fault ∧ fault.isFatal = true ↔
      ∃ kind, line.tableLine? = some kind ∧ fault = .outsideTable kind := by
  have hfatal : ∀ kind, (DumpFault.outsideTable kind).isFatal = true := fun _ => rfl
  cases line with
  | chain | rule | commit =>
    simp only [step, ht, Option.isNone_none, ite_true, DumpLine.tableLine?, Option.some.injEq]
    constructor
    · rintro ⟨rfl, _⟩
      exact ⟨_, rfl, rfl⟩
    · rintro ⟨_, rfl, rfl⟩
      exact ⟨rfl, hfatal _⟩
  | comment text =>
    simp only [step, DumpLine.tableLine?]
    split <;> simp
  | unknown text =>
    simp only [step, DumpLine.tableLine?]
    constructor
    · rintro ⟨h, hunknown⟩
      cases h
      cases hunknown
    · rintro ⟨_, h, _⟩
      cases h
  | blank | table => simp [step, DumpLine.tableLine?]

/-- In a table nothing is fatal but a rule. -/
theorem step_fatal_of_some {line : DumpLine} {table : String} (ht : ctx.table = some table) :
    (ctx.step settings registry number line).2 = some fault ∧ fault.isFatal = true ↔
      ∃ chain options tokens short, line = .rule chain options ∧ tokenize options = .ok tokens ∧
        LeafRule.ofTokens registry tokens = .error short ∧ short.kind = .arity ∧
        fault = .rule short := by
  cases line with
  | rule chain options =>
    simp only [step, ht, Option.isNone_some, Bool.false_eq_true, ite_false]
    rw [addRule_fatal_iff]
    constructor
    · rintro ⟨tokens, short, hshort⟩
      exact ⟨chain, options, tokens, short, rfl, hshort⟩
    · rintro ⟨_, _, tokens, short, heq, hshort⟩
      cases heq
      exact ⟨tokens, short, hshort⟩
  | _ =>
    constructor
    · rintro ⟨h, hfatal⟩
      simp only [step, ht, Option.isNone_some, Bool.false_eq_true, ite_false] at h
      repeat' split at h
      all_goals cases h
      -- what is left are an unknown policy and an unknown line
      all_goals cases hfatal
    · rintro ⟨_, _, _, _, h, _⟩
      cases h

/-- A line is fatal in a context just if it is behind the lines that led there. -/
theorem step_fatal_iff {before : List DumpLine} {line : DumpLine}
    (hopen : ctx.table.isSome ↔ ∃ name, .table name ∈ before) :
    (ctx.step settings registry number line).2 = some fault ∧ fault.isFatal = true ↔
      line.Fails registry before fault := by
  cases ht : ctx.table with
  | none =>
    have hnone : ∀ name, .table name ∉ before := by simpa [ht] using hopen
    rw [step_fatal_of_none ht]
    constructor
    · rintro ⟨kind, hkind, rfl⟩
      exact .outside hkind hnone
    · intro h
      cases h with
      | outside hkind => exact ⟨_, hkind, rfl⟩
      | short hmem => exact absurd hmem (hnone _)
  | some table =>
    obtain ⟨name, hname⟩ : ∃ name, .table name ∈ before := by simpa [ht] using hopen
    rw [step_fatal_of_some ht]
    constructor
    · rintro ⟨chain, options, tokens, short, rfl, htokens, hread, harity, rfl⟩
      exact .short hname htokens hread harity
    · intro h
      cases h with
      | outside _ hnone => exact absurd hname (hnone name)
      | short _ htokens hread harity => exact ⟨_, _, _, _, rfl, htokens, hread, harity, rfl⟩

end Context

section
variable {settings : Settings} {registry : Registry} {ctx : Context} {traced : Traced}
  {events : List Event} {located : LocatedFault} {lines : List String} {i j : Nat}
  {fault : DumpFault}

/-- What fails does not depend on the lines behind it. -/
theorem failsAt_take_iff (h : j < i) :
    FailsAt registry (lines.take i) j fault ↔ FailsAt registry lines j fault := by
  rw [FailsAt, FailsAt, List.getElem?_take_of_lt h, List.take_take, Nat.min_eq_left h.le]

theorem split_at {text : String} (h : lines[i]? = some text) :
    lines = lines.take i ++ text :: lines.drop (i + 1) ∧ (lines.take i).length = i := by
  obtain ⟨hi, rfl⟩ := List.getElem?_eq_some_iff.mp h
  refine ⟨?_, List.length_take_of_le hi.le⟩
  rw [List.getElem_cons_drop, List.take_append_drop]

theorem failsAt_of_fatal
    (h : Context.handleAll settings registry 1 {} lines = (traced, some located)) :
    ∃ i fault, i < lines.length ∧ FailsAt registry lines i fault := by
  obtain ⟨before, text, behind, mid, events, last, rfl, hbefore, hfatal, _⟩ :=
    Context.handleAll_fatal h
  obtain ⟨fault, hfault, hisFatal, _⟩ :=
    Context.handle_fatal_iff.mp (congrArg Prod.snd hfatal)
  have hfails := (Context.step_fatal_iff (Context.table_open_iff hbefore)).mp ⟨hfault, hisFatal⟩
  refine ⟨before.length, fault, by simp, text, by simp, ?_⟩
  rwa [List.take_left]

theorem not_failsAt
    (h : Context.handleAll settings registry 1 {} lines = ((ctx, events), none)) :
    ¬ FailsAt registry lines i fault := by
  rintro ⟨text, htext, hfails⟩
  obtain ⟨hsplit, hlength⟩ := split_at htext
  rw [hsplit] at h
  obtain ⟨mid, first, later, hfront, hbehind, _⟩ := Context.handleAll_part h
  obtain ⟨_, _, _, hhandle, _⟩ := Context.handleAll_uncons hbehind
  obtain ⟨hfault, hfatal⟩ := (Context.step_fatal_iff (Context.table_open_iff hfront)).mpr hfails
  have hsome := Context.handle_fatal_iff.mpr ⟨fault, hfault, hfatal, rfl⟩
  rw [hhandle] at hsome
  cases hsome

/-- The lines in front of the first that fails are handled, and that one is fatal. -/
theorem FailsFirst.handled (settings : Settings) (h : FailsFirst registry lines i fault) :
    ∃ text ctx events traced, lines[i]? = some text ∧
      Context.handleAll settings registry 1 {} (lines.take i) = ((ctx, events), none) ∧
      ctx.handle settings registry (i + 1) (.ofText text) = (traced, some ⟨fault, some (i + 1)⟩) ∧
      Context.handleAll settings registry 1 {} lines
        = ((traced.1, events ++ traced.2), some ⟨fault, some (i + 1)⟩) := by
  obtain ⟨text, htext, hfails⟩ := h.fails
  obtain ⟨hsplit, hlength⟩ := split_at htext
  rcases hfront : Context.handleAll settings registry 1 {} (lines.take i)
    with ⟨⟨ctx, events⟩, earlier⟩
  cases earlier with
  | some earlier =>
    obtain ⟨j, other, hj, hother⟩ := failsAt_of_fatal hfront
    have hji : j < i := by omega
    exact absurd ((failsAt_take_iff hji).mp hother) (h.first j hji other)
  | none =>
    obtain ⟨hfault, hfatal⟩ := (Context.step_fatal_iff (Context.table_open_iff hfront)).mpr hfails
    have hlocated : (ctx.handle settings registry (i + 1) (.ofText text)).2
        = some ⟨fault, some (i + 1)⟩ :=
      Context.handle_fatal_iff.mpr ⟨fault, hfault, hfatal, rfl⟩
    refine ⟨text, ctx, events, _, htext, rfl, Prod.ext rfl hlocated, ?_⟩
    have hnumber : (1 : Int) + (lines.take i).length = i + 1 := by omega
    have hall := Context.handleAll_append hfront (text :: lines.drop (i + 1))
    rw [← hsplit, hnumber] at hall
    rw [hall, Context.handleAll]
    generalize ctx.handle settings registry (i + 1) (.ofText text) = handled at hlocated ⊢
    obtain ⟨traced, found⟩ := handled
    cases hlocated
    rfl

end

/-! ## What has been written by then -/

namespace Context

/-- What a rule for the chain writes before its options are read: unless the
chain is open already, the end of the open one and its own beginning. -/
def enteringLines (settings : Settings) (chain : String) (ctx : Context) : List ConfigLine :=
  if ctx.chain = some chain then []
  else configLines (ctx.closeChain settings).2 ++ policyLines chain (ctx.policies.lookup chain)

/-- The texts of these lines, where the rules held for the open chain are written as
these statements. -/
def enteringTexts (chain : String) (statements : List String) (ctx : Context) : List String :=
  if ctx.chain = some chain then []
  else (if ctx.chain.isSome then statements ++ ["\x7d"] else [])
    ++ ("chain " ++ Token.write chain ++ " \x7b")
    :: (ctx.policies.lookup chain).toList.map fun policy => "policy " ++ policy ++ ";"

theorem enterChain_lines (settings : Settings) (chain : String) (ctx : Context) :
    configLines (ctx.enterChain settings chain).2 = ctx.enteringLines settings chain := by
  have hpolicies : (ctx.closeChain settings).1.policies = ctx.policies := by
    unfold closeChain
    split <;> rfl
  unfold enterChain enteringLines
  split
  · rfl
  · simp only [Traced.andThen, configLines_append, openChain_lines, hpolicies]

theorem render_enteringLines {settings : Settings} {registry : Registry} {ctx : Context}
    {statements : List String} (chain : String)
    (h : (ConfigLine.ofRules (writtenRules settings ctx.rules)).mapM (ConfigLine.render registry)
      = .ok statements) :
    (ctx.enteringLines settings chain).mapM (ConfigLine.render registry)
      = .ok (ctx.enteringTexts chain statements) := by
  have hpolicy : ∀ policy : Option String,
      (policyLines chain policy).mapM (ConfigLine.render registry)
        = .ok (("chain " ++ Token.write chain ++ " \x7b")
          :: policy.toList.map fun policy => "policy " ++ policy ++ ";") := by
    intro policy
    cases policy with
    | none => rfl
    | some policy => rfl
  unfold enteringLines enteringTexts
  split
  · rfl
  · rw [List.mapM_append, hpolicy]
    cases hc : ctx.chain with
    | none =>
      rw [closeChain_of_none hc]
      rfl
    | some other =>
      rw [closeChain_lines hc, List.mapM_append, h]
      rfl

theorem entered_of_none {settings : Settings} {ctx : Context} {line : DumpLine}
    (h : ctx.table = none) : ctx.entered settings line = (ctx, []) := by
  cases line with
  | rule chain options => simp [entered, h]
  | _ => rfl

theorem entered_rule {settings : Settings} {ctx : Context} {table chain options : String}
    (h : ctx.table = some table) :
    ctx.entered settings (.rule chain options) = ctx.enterChain settings chain := by
  simp [entered, h]

/-- The rules that are held behind handled lines can be written. -/
theorem held_statements {settings : Settings} {registry : Registry} {number : Int}
    {ctx : Context} {events : List Event} {lines : List String}
    (h : handleAll settings registry number {} lines = ((ctx, events), none)) :
    ∃ statements, (ConfigLine.ofRules (writtenRules settings ctx.rules)).mapM
      (ConfigLine.render registry) = .ok statements := by
  have hsettled := handleAll_settled (ConfigLine.inherits_writable registry)
    (fun _ _ => LeafRule.has_of_text) h
  exact ConfigLine.mapM_render
    ((ConfigLine.inherits_writable registry).written settings hsettled.rules)

end Context

namespace Conversion

/-- The texts of the lines in front of all tables. -/
def headerTexts (settings : Settings) : List String :=
  if settings.header then
    ["# ferm rules generated by fermimporter", "# review before loading them with ferm", ""]
  else []

theorem render_header (settings : Settings) (registry : Registry) :
    (configLines (headerEvents settings)).mapM (ConfigLine.render registry)
      = .ok (headerTexts settings) := by
  unfold headerEvents headerTexts
  split
  · rfl
  · rfl

/-- A conversion fails just if one of its lines does. -/
theorem fault_isSome_iff (settings : Settings) (registry : Registry) (lines : List String) :
    (ofLines settings registry lines).fault.isSome ↔
      ∃ i fault, FailsAt registry lines i fault := by
  have hfault : (ofLines settings registry lines).fault
      = (run settings registry 1 {} lines).fault := rfl
  rw [hfault, run_eq]
  rcases hall : Context.handleAll settings registry 1 {} lines with ⟨⟨ctx, events⟩, found⟩
  cases found with
  | some located =>
    obtain ⟨i, fault, _, hfails⟩ := failsAt_of_fatal hall
    exact ⟨fun _ => ⟨i, fault, hfails⟩, fun _ => rfl⟩
  | none => exact ⟨nofun, fun ⟨i, fault, hfails⟩ => absurd hfails (not_failsAt hall)⟩

/-- Behind what the handled lines have written stands what the fatal line has. -/
theorem ofLines_fatal {settings : Settings} {registry : Registry} (hr : registry.Legible)
    {lines : List String} {events : List Event} {traced : Traced} {located : LocatedFault}
    (h : Context.handleAll settings registry 1 {} lines
      = ((traced.1, events ++ traced.2), some located)) :
    (ofLines settings registry lines).fault = some located ∧
    ∃ earlier behind added,
      let front := ((Layout.start settings.indent).write registry
        (configLines (headerEvents settings ++ events))).text
      (configLines events).mapM (ConfigLine.render registry) = .ok earlier ∧
      Outline.texts? front = some (headerTexts settings ++ earlier) ∧
      (ofLines settings registry lines).output settings registry = front ++ behind ∧
      (configLines traced.2).mapM (ConfigLine.render registry) = .ok added ∧
      Outline.texts? behind = some added := by
  have hrun : run settings registry 1 {} lines = ⟨events ++ traced.2, some located⟩ := by
    rw [run_eq, h]
  have hlines : configLines (ofLines settings registry lines).events
      = configLines (headerEvents settings ++ events) ++ configLines traced.2 := by
    rw [ofLines_events, hrun, ← List.append_assoc, configLines_append]
  obtain ⟨level, hshifts, _⟩ := shifts_ofLines hr settings lines
  rw [hlines] at hshifts
  obtain ⟨mid, hfront, _⟩ := hshifts.of_append
  obtain ⟨texts, hrenders, htexts⟩ := hfront.texts settings.indent
  obtain ⟨behind, added, hwrite, hadded, hbehind⟩ := hshifts.write_behind settings.indent
  rw [configLines_append, List.mapM_append, render_header] at hrenders
  obtain ⟨first, hfirst, hrenders⟩ := bind_ok hrenders
  obtain ⟨earlier, hearlier, hrenders⟩ := bind_ok hrenders
  cases hfirst
  cases hrenders
  refine ⟨congrArg Conversion.fault hrun, earlier, behind, added, hearlier, htexts, ?_, hadded,
    hbehind⟩
  rw [output, written, hlines]
  exact hwrite

/-- A conversion fails just if one of its lines does. It ends at the first such
line with the number of that line, counted from one. What has been written by then
is the header and what the lines in front have written, and if the line is a rule
of a table, the way into its chain. -/
theorem ends_at_first_failing {registry : Registry} (hr : registry.Legible)
    (settings : Settings) (lines : List String) :
    ((ofLines settings registry lines).fault.isSome ↔ ∃ i fault, FailsAt registry lines i fault) ∧
    ((ofLines settings registry lines).written settings registry).fault = none ∧
    ∀ i fault, FailsFirst registry lines i fault →
      (ofLines settings registry lines).fault = some ⟨fault, some (i + 1)⟩ ∧
      ∃ ctx events earlier behind,
        let front := ((Layout.start settings.indent).write registry
          (configLines (headerEvents settings ++ events))).text
        Context.handleAll settings registry 1 {} (lines.take i) = ((ctx, events), none) ∧
        (configLines events).mapM (ConfigLine.render registry) = .ok earlier ∧
        Outline.texts? front = some (headerTexts settings ++ earlier) ∧
        (ofLines settings registry lines).output settings registry = front ++ behind ∧
        (∀ kind, fault = .outsideTable kind →
          fault.kind = .structural ∧ behind = "") ∧
        (∀ chain options short, lines[i]?.map DumpLine.ofText = some (.rule chain options) →
          fault = .rule short → fault.kind = .arity ∧ ∃ statements,
            (ConfigLine.ofRules (Context.writtenRules settings ctx.rules)).mapM
              (ConfigLine.render registry) = .ok statements ∧
            Outline.texts? behind = some (ctx.enteringTexts chain statements)) := by
  refine ⟨fault_isSome_iff settings registry lines, written_ofLines settings registry lines,
    fun i fault hfirst => ?_⟩
  obtain ⟨text, ctx, events, traced, htext, hfront, hhandle, hall⟩ := hfirst.handled settings
  obtain ⟨hfault, earlier, behind, added, hearlier, hfrontTexts, houtput, hadded, hbehind⟩ :=
    ofLines_fatal hr hall
  have hopen := Context.table_open_iff hfront
  obtain ⟨found, hfound, hfails⟩ := hfirst.fails
  cases htext.symm.trans hfound
  rw [(Context.handle_fatal hhandle).2] at hadded
  rw [htext, Option.map_some]
  generalize DumpLine.ofText text = line at hfails hadded
  refine ⟨hfault, ctx, events, earlier, behind, hfront, hearlier, hfrontTexts, houtput, ?_, ?_⟩
  · rintro kind rfl
    cases hfails with
    | outside _ hnone =>
      have htable : ctx.table = none := Option.not_isSome_iff_eq_none.mp fun hsome =>
        (hopen.mp hsome).elim hnone
      rw [Context.entered_of_none htable] at hadded
      cases hadded
      exact ⟨rfl, Layout.eq_empty_of_texts? hbehind⟩
  · rintro chain options short hline rfl
    cases hline
    cases hfails with
    | short hname _ _ harity =>
      obtain ⟨table, htable⟩ := Option.isSome_iff_exists.mp (hopen.mpr ⟨_, hname⟩)
      obtain ⟨statements, hstatements⟩ := Context.held_statements hfront
      rw [Context.entered_rule htable, Context.enterChain_lines,
        Context.render_enteringLines chain hstatements] at hadded
      cases hadded
      exact ⟨harity, statements, hstatements, hbehind⟩

/-- The last rule is for another chain than the open one, and its option has no
parameter. -/
def shortDump : List String :=
  ["*filter", ":OUTPUT DROP [0:0]", "-A INPUT -j ACCEPT", "-A OUTPUT -s", "COMMIT"]

theorem ends_at_first_failing_short :
    Registry.standard.Legible ∧
    FailsFirst .standard shortDump 3 (.rule (.missingParameter "source")) ∧
    (ofLines {} .standard shortDump).fault
      = some ⟨.rule (.missingParameter "source"), some 4⟩ ∧
    ∃ events behind,
      (ofLines {} .standard shortDump).output {} .standard
        = ((Layout.start 4).write .standard (configLines (headerEvents {} ++ events))).text
          ++ behind ∧
      Outline.texts? ((Layout.start 4).write .standard
          (configLines (headerEvents {} ++ events))).text
        = some (headerTexts {} ++ ["domain ip \x7b", "table filter \x7b", "chain INPUT \x7b"]) ∧
      Outline.texts? behind
        = some ["ACCEPT;", "\x7d", "chain OUTPUT \x7b", "policy DROP;"] := by
  have hline : DumpLine.ofText "-A OUTPUT -s" = .rule "OUTPUT" "-s" := by decide +kernel
  have hread : LeafRule.ofTokens .standard [.word "-s"]
      = .error (.missingParameter "source") := by decide +kernel
  have hfails : FailsAt .standard shortDump 3 (.rule (.missingParameter "source")) := by
    refine ⟨"-A OUTPUT -s", rfl, ?_⟩
    rw [hline]
    exact .short (by decide +kernel : DumpLine.table "filter" ∈ _) (by decide +kernel) hread rfl
  rcases hfront : Context.handleAll {} .standard 1 {} (shortDump.take 3)
    with ⟨⟨ctx, events⟩, fault⟩
  have hhandled : (Context.handleAll {} .standard 1 {} (shortDump.take 3)).2 = none ∧
      configLines (Context.handleAll {} .standard 1 {} (shortDump.take 3)).1.2
        = [.openDomain "ip", .openTable "filter", .openChain "INPUT"] ∧
      (Context.handleAll {} .standard 1 {} (shortDump.take 3)).1.1
        = ⟨some "ip", some "filter", some "INPUT", [⟨[], some ⟨.jump, "ACCEPT", []⟩⟩],
          [("OUTPUT", "DROP")], none⟩ := by decide +kernel
  rw [hfront] at hhandled
  obtain ⟨rfl, hevents, rfl⟩ := hhandled
  have hfirst : FailsFirst .standard shortDump 3 (.rule (.missingParameter "source")) :=
    ⟨hfails, fun j hj other hother => not_failsAt hfront ((failsAt_take_iff hj).mpr hother)⟩
  obtain ⟨hfault, ctx, events', earlier, behind, hfront', hearlier, hwritten, houtput, _, hshort⟩ :=
    (ends_at_first_failing Registry.legible_standard {} shortDump).2.2 3 _ hfirst
  cases hfront.symm.trans hfront'
  rw [hevents] at hearlier
  cases hearlier
  obtain ⟨_, statements, hstatements, hbehind⟩ := hshort "OUTPUT" "-s" _ (congrArg some hline) rfl
  have hheld : (ConfigLine.ofRules
      (Context.writtenRules {} [⟨[], some ⟨.jump, "ACCEPT", []⟩⟩])).mapM
      (ConfigLine.render .standard) = .ok ["ACCEPT;"] := by decide +kernel
  cases hheld.symm.trans hstatements
  exact ⟨Registry.legible_standard, hfirst, hfault, events, behind, houtput, hwritten, hbehind⟩

end Conversion

end FermRules
