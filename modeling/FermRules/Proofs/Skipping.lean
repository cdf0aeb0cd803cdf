import FermRules.Proofs.Moves
import FermRules.Registry.Standard

/-! # Lines that are skipped

A fault that is not fatal costs the line and not the conversion. What opens and
closes parts reports nothing, so a line is reported at most once, when it is
skipped. By then it has done one thing at most: a rule enters the chain that it
names before its options are read. Where that chain is open already, and for all
other lines, nothing has happened. Otherwise the chain that was open has been
written with its summary and the other one has been opened with its policy,
although its only rule so far is the one that is skipped. -/
namespace FermRules

theorem diagnostics_append (events more : List Event) :
    diagnostics (events ++ more) = diagnostics events ++ diagnostics more :=
  List.filterMap_append

theorem chainSummaries_append (events more : List Event) :
    chainSummaries (events ++ more) = chainSummaries events ++ chainSummaries more :=
  List.filterMap_append

theorem chainSummaries_ofLines (lines : List ConfigLine) :
    chainSummaries (Event.ofLines lines) = [] := by
  rw [chainSummaries, Event.ofLines, List.filterMap_map]
  exact List.filterMap_eq_nil_iff.mpr fun _ _ => rfl

/-- The event neither opens a domain nor reports a fault. -/
def Event.isInner : Event → Bool
  | .wrote (.openDomain _) | .skipped _ => false
  | _ => true

theorem diagnostics_of_inner {events : List Event} (h : ∀ e ∈ events, e.isInner = true) :
    diagnostics events = [] := by
  refine List.filterMap_eq_nil_iff.mpr fun e he => ?_
  have hinner := h e he
  cases e with
  | skipped fault => cases hinner
  | _ => rfl

mutual

theorem inner_rule : ∀ rule : Rule,
    ∀ e ∈ Event.ofLines (ConfigLine.ofRule rule), e.isInner = true
  | .leaf r => by simp [ConfigLine.ofRule, Event.ofLines, Event.isInner]
  | .block c children => by
    rw [ConfigLine.ofRule, Event.ofLines, List.map_append, List.map_cons]
    refine List.forall_mem_append.mpr ⟨List.forall_mem_cons.mpr ⟨rfl, ?_⟩, by simp [Event.isInner]⟩
    exact inner_rules children

theorem inner_rules : ∀ rules : List Rule,
    ∀ e ∈ Event.ofLines (ConfigLine.ofRules rules), e.isInner = true
  | [] => List.forall_mem_nil _
  | rule :: rest => by
    rw [ConfigLine.ofRules, Event.ofLines, List.map_append]
    exact List.forall_mem_append.mpr ⟨inner_rule rule, inner_rules rest⟩

end

namespace Context

variable (settings : Settings) (registry : Registry)

/-! ## What opens no domain and reports nothing -/

theorem inner_andThen {t : Traced} {next : Context → Traced} (h : ∀ e ∈ t.2, e.isInner = true)
    (h' : ∀ ctx, ∀ e ∈ (next ctx).2, e.isInner = true) :
    ∀ e ∈ (t.andThen next).2, e.isInner = true := List.forall_mem_append.mpr ⟨h, h' t.1⟩

theorem inner_policyLines (chain : String) (policy : Option String) :
    ∀ e ∈ Event.ofLines (policyLines chain policy), e.isInner = true := by
  cases policy with
  | none => simp [policyLines, Event.ofLines, Event.isInner]
  | some policy => simp [policyLines, Event.ofLines, Event.isInner]

theorem closeChain_inner (ctx : Context) : ∀ e ∈ (ctx.closeChain settings).2,
    e.isInner = true := by
  unfold closeChain
  split
  · exact List.forall_mem_nil _
  · dsimp only
    rw [Event.ofLines, List.map_append]
    refine List.forall_mem_append.mpr ⟨List.forall_mem_append.mpr ⟨inner_rules _, ?_⟩, ?_⟩
    · simp [Event.isInner]
    · simp [Event.isInner]

theorem openChain_inner (chain : String) (ctx : Context) : ∀ e ∈ (ctx.openChain chain).2,
    e.isInner = true := inner_policyLines chain _

theorem closeTable_inner (ctx : Context) : ∀ e ∈ (ctx.closeTable settings).2,
    e.isInner = true := by
  refine inner_andThen (closeChain_inner settings ctx) fun ctx => ?_
  split
  · exact List.forall_mem_nil _
  · rw [Event.ofLines, List.map_append]
    refine List.forall_mem_append.mpr ⟨?_, by simp [Event.isInner]⟩
    rw [List.map_flatMap]
    refine List.forall_mem_flatMap.mpr fun entry _ => ?_
    rw [List.map_append]
    exact List.forall_mem_append.mpr ⟨inner_policyLines _ _, by simp [Event.isInner]⟩

theorem closeDomain_inner (ctx : Context) : ∀ e ∈ (ctx.closeDomain settings).2,
    e.isInner = true := by
  refine inner_andThen (closeTable_inner settings ctx) fun ctx => ?_
  split
  · exact List.forall_mem_nil _
  · simp [Event.isInner]

theorem enterChain_inner (chain : String) (ctx : Context) :
    ∀ e ∈ (ctx.enterChain settings chain).2, e.isInner = true := by
  unfold enterChain
  split
  · exact List.forall_mem_nil _
  · exact inner_andThen (closeChain_inner settings ctx) (openChain_inner chain)

/-- What reading a rule logs: modules that nothing is known about. -/
theorem addRule_events (number : Int) (options : String) (ctx : Context) :
    ∃ names : List String, (ctx.addRule registry number options).1.2
      = names.map fun name => Event.unknownModule name number := by
  unfold addRule
  split
  · exact ⟨[], rfl⟩
  · dsimp only
    split
    · exact ⟨_, rfl⟩
    · exact ⟨_, rfl⟩

theorem addRule_inner (number : Int) (options : String) (ctx : Context) :
    ∀ e ∈ (ctx.addRule registry number options).1.2, e.isInner = true := by
  obtain ⟨names, hnames⟩ := addRule_events registry number options ctx
  rw [hnames]
  exact List.forall_mem_map.mpr fun _ _ => rfl

theorem unknownModules_silent (names : List String) (number : Int) :
    diagnostics (names.map fun name => Event.unknownModule name number) = [] ∧
    configLines (names.map fun name => Event.unknownModule name number) = [] ∧
    chainSummaries (names.map fun name => Event.unknownModule name number) = [] := by
  induction names with
  | nil => exact ⟨rfl, rfl, rfl⟩
  | cons name names ih => exact ih

/-- A table line opens a domain if another one is open or none is. -/
theorem startTable_events (name : String) (ctx : Context) :
    ∃ closing, (∀ e ∈ closing, e.isInner = true) ∧ (ctx.startTable settings name).2
      = closing ++ (if ctx.domain = some (nonEmptyOr ctx.hint settings.domain.name) then []
          else [.wrote (.openDomain (nonEmptyOr ctx.hint settings.domain.name))])
        ++ [.wrote (.openTable name)] := by
  unfold startTable
  by_cases hd : ctx.domain = some (nonEmptyOr ctx.hint settings.domain.name)
  · have hdomain := (closeTable_last settings ctx).2.2.1.trans hd
    refine ⟨(ctx.closeTable settings).2, closeTable_inner settings ctx, ?_⟩
    simp only [if_pos hd, Traced.andThen, openDomain, hdomain, openTable]
  · have hdomain := (closeDomain_last settings ctx).2.2.1
    refine ⟨(ctx.closeDomain settings).2, closeDomain_inner settings ctx, ?_⟩
    simp only [if_neg hd, Traced.andThen, openDomain, hdomain, openTable]

/-- What a line can do. A line that is refused leaves the context as it is, and
so does one that is only noted, except for the hint and the policies. -/
inductive StepCase (ctx : Context) (number : Int) : DumpLine → Traced × Option DumpFault → Prop
  | refused {line : DumpLine} {fault : DumpFault} :
      (∀ chain options, line = .rule chain options → ctx.table.isNone) →
      StepCase ctx number line ((ctx, []), some fault)
  | noted {line : DumpLine} {next : Context} :
      next.domain = ctx.domain → StepCase ctx number line ((next, []), none)
  | table (name : String) :
      StepCase ctx number (.table name) (ctx.startTable settings name, none)
  | userChain (name : String) :
      StepCase ctx number (.chain name none)
        ((ctx.closeChain settings).andThen fun ctx => (ctx, [.wrote (.emptyChain name)]), none)
  | rule (chain options : String) :
      ¬ ctx.table.isNone →
      StepCase ctx number (.rule chain options)
        ((ctx.enterChain settings chain).andThen fun _ =>
            ((ctx.enterChain settings chain).1.addRule registry number options).1,
          ((ctx.enterChain settings chain).1.addRule registry number options).2)
  | commit : StepCase ctx number .commit (ctx.closeChain settings, none)

theorem step_cases (number : Int) (line : DumpLine) (ctx : Context) :
    StepCase settings registry ctx number line (ctx.step settings registry number line) := by
  cases line with
  | blank => exact .noted rfl
  | comment text =>
    rw [step]
    split <;> exact .noted rfl
  | table name => exact .table name
  | chain name policy =>
    cases policy with
    | none =>
      rw [step]
      split
      · exact .refused (by simp)
      · exact .userChain name
    | some policy =>
      rw [step]
      split
      · exact .refused (by simp)
      · split
        · exact .noted rfl
        · exact .refused (by simp)
  | rule chain options =>
    rw [step]
    split
    · rename_i hn
      exact .refused fun _ _ _ => hn
    · rename_i hn
      exact .rule chain options hn
  | commit =>
    rw [step]
    split
    · exact .refused (by simp)
    · exact .commit
  | unknown text => exact .refused (by simp)

theorem step_inner (number : Int) {line : DumpLine} (h : ∀ name, line ≠ .table name)
    (ctx : Context) : ∀ e ∈ (ctx.step settings registry number line).1.2, e.isInner = true := by
  have hcase := step_cases settings registry number line ctx
  generalize ctx.step settings registry number line = result at hcase ⊢
  cases hcase with
  | refused | noted => exact List.forall_mem_nil _
  | table name => exact absurd rfl (h name)
  | userChain name =>
    exact inner_andThen (closeChain_inner settings ctx) fun _ => by simp [Event.isInner]
  | rule chain options =>
    exact inner_andThen (enterChain_inner settings chain ctx) fun _ =>
      addRule_inner registry number options _
  | commit => exact closeChain_inner settings ctx

theorem step_quiet (number : Int) (line : DumpLine) (ctx : Context) :
    diagnostics (ctx.step settings registry number line).1.2 = [] := by
  by_cases h : ∃ name, line = .table name
  · obtain ⟨name, rfl⟩ := h
    obtain ⟨closing, hinner, hevents⟩ := startTable_events settings name ctx
    rw [step, hevents, diagnostics_append, diagnostics_append, diagnostics_of_inner hinner]
    split <;> rfl
  · exact diagnostics_of_inner (step_inner settings registry number (not_exists.mp h) ctx)

/-! ## What has been done to a line that is skipped -/

/-- The context in which the options of a rule are read; other lines have none. -/
def entered (ctx : Context) : DumpLine → Traced
  | .rule chain _ => if ctx.table.isNone then (ctx, []) else ctx.enterChain settings chain
  | _ => (ctx, [])

variable {settings registry}

theorem entered_of_open {ctx : Context} {line : DumpLine}
    (h : ∀ chain options, line = .rule chain options → ctx.chain = some chain) :
    ctx.entered settings line = (ctx, []) := by
  cases line with
  | rule chain options =>
    rw [entered, enterChain, if_pos (h chain options rfl)]
    split <;> rfl
  | _ => rfl

theorem addRule_faulty {number : Int} {options : String} {ctx : Context} {fault : DumpFault}
    (h : (ctx.addRule registry number options).2 = some fault) :
    (ctx.addRule registry number options).1.1 = ctx := by
  unfold addRule at h ⊢
  split at h
  · rfl
  · dsimp only at h ⊢
    split at h
    · rfl
    · cases h

/-- A line at fault has entered the chain that it names, and has logged the
modules that nothing is known about. -/
theorem step_faulty {number : Int} {line : DumpLine} {ctx : Context} {fault : DumpFault}
    (h : (ctx.step settings registry number line).2 = some fault) :
    (ctx.step settings registry number line).1.1 = (ctx.entered settings line).1 ∧
    ∃ names : List String, (ctx.step settings registry number line).1.2
      = (ctx.entered settings line).2 ++ names.map fun name => Event.unknownModule name number := by
  have hcase := step_cases settings registry number line ctx
  generalize ctx.step settings registry number line = result at hcase h ⊢
  cases hcase with
  | refused hrule =>
    have hentered : ctx.entered settings line = (ctx, []) := by
      cases line with
      | rule chain options => rw [entered, if_pos (hrule chain options rfl)]
      | _ => rfl
    rw [hentered]
    exact ⟨rfl, [], rfl⟩
  | rule chain options ht =>
    rw [entered, if_neg ht]
    obtain ⟨names, hnames⟩ := addRule_events registry number options
      (ctx.enterChain settings chain).1
    exact ⟨addRule_faulty h, names, congrArg (_ ++ ·) hnames⟩
  | noted | table | userChain | commit => cases h

/-- A reported line leaves what entering its chain leaves, and is reported once.
If it names no chain but the open one, then nothing changes and nothing is
written. -/
theorem handle_skipped {number : Int} {line : DumpLine} {ctx last : Context}
    {events : List Event}
    (h : ctx.handle settings registry number line = ((last, events), none))
    (hreported : diagnostics events ≠ []) :
    (last = (ctx.entered settings line).1 ∧
      configLines events = configLines (ctx.entered settings line).2 ∧
      chainSummaries events = chainSummaries (ctx.entered settings line).2 ∧
      (diagnostics events).length = 1) ∧
    ((∀ chain options, line = .rule chain options → ctx.chain = some chain) →
      last = ctx ∧ configLines events = [] ∧ chainSummaries events = []) := by
  suffices hentered : last = (ctx.entered settings line).1 ∧
      configLines events = configLines (ctx.entered settings line).2 ∧
      chainSummaries events = chainSummaries (ctx.entered settings line).2 ∧
      (diagnostics events).length = 1 by
    refine ⟨hentered, fun hopen => ?_⟩
    rw [entered_of_open hopen] at hentered
    exact ⟨hentered.1, hentered.2.1, hentered.2.2.1⟩
  have hquiet := step_quiet settings registry number line ctx
  unfold handle at h
  cases hfault : (ctx.step settings registry number line).2 with
  | none =>
    simp only [hfault] at h
    rw [(Prod.mk.inj h).1] at hquiet
    exact absurd hquiet hreported
  | some fault =>
    simp only [hfault] at h
    split at h
    · cases (Prod.mk.inj h).2
    obtain ⟨heq, _⟩ := Prod.mk.inj h
    obtain ⟨rfl, hskipped⟩ := Prod.mk.inj heq
    obtain ⟨hlast, names, hevents⟩ := step_faulty hfault
    obtain ⟨hsilent, hlines, hsummaries⟩ := unknownModules_silent names number
    rw [hevents, diagnostics_append, hsilent, List.append_nil] at hquiet
    rw [← hskipped, hevents]
    refine ⟨hlast, ?_, ?_, ?_⟩
    · rw [configLines_append, configLines_append, hlines, List.append_nil]
      exact List.append_nil _
    · rw [chainSummaries_append, chainSummaries_append, hsummaries, List.append_nil]
      exact List.append_nil _
    · rw [diagnostics_append, diagnostics_append, hquiet, hsilent]
      rfl

def acceptRule : LeafRule := ⟨[], some ⟨.jump, "ACCEPT", []⟩⟩

/-- A chain is open with one rule, and another one has a policy to state. -/
def inputContext : Context where
  domain := some "ip"
  table := some "filter"
  chain := some "INPUT"
  rules := [acceptRule]
  policies := [("OUTPUT", "DROP")]

def bogusOption : LocatedFault := ⟨.rule (.unknownOption "--bogus"), some 3⟩

theorem handle_skipped_input :
    inputContext.handle {} .standard 3 (.rule "INPUT" "--bogus")
      = ((inputContext, [.skipped bogusOption]), none) ∧
    diagnostics [.skipped bogusOption] = ["line 3: unknown option '--bogus'"] ∧
    inputContext = (inputContext.entered {} (.rule "INPUT" "--bogus")).1 ∧
    configLines [.skipped bogusOption] = [] ∧ chainSummaries [.skipped bogusOption] = [] := by
  have hhandle : inputContext.handle {} .standard 3 (.rule "INPUT" "--bogus")
      = ((inputContext, [.skipped bogusOption]), none) := by decide +kernel
  have hmessage : diagnostics [.skipped bogusOption] = ["line 3: unknown option '--bogus'"] := by
    decide +kernel
  have hopen : ∀ chain options, DumpLine.rule "INPUT" "--bogus" = .rule chain options →
      inputContext.chain = some chain := by
    intro chain options heq
    cases heq
    rfl
  obtain ⟨hentered, huntouched⟩ := handle_skipped hhandle (by simp [hmessage])
  exact ⟨hhandle, hmessage, hentered.1, (huntouched hopen).2⟩

/-- A rule that is skipped may still close the open chain: its statements are
written, its summary is made, and the chain that the rule names is open now and
has stated its policy. -/
theorem skipped_rule_enters_chain :
    inputContext.handle {} .standard 3 (.rule "OUTPUT" "--bogus")
      = (({ inputContext with chain := some "OUTPUT", rules := [], policies := [] },
          Event.ofLines [.statement acceptRule, .close]
            ++ [.closedChain ⟨"ip", "filter", "INPUT", 1, 1⟩]
            ++ Event.ofLines [.openChain "OUTPUT", .policy "DROP"]
            ++ [.skipped bogusOption]), none) := by
  decide +kernel

end Context

end FermRules
