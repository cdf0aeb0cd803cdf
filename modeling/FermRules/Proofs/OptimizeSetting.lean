import FermRules.Proofs.Lockstep
import FermRules.Proofs.Skipping
import FermRules.Registry.Standard

/-! # What the setting to optimize changes

Conversions in step are taken apart at the statements of their chains. What
stands between the statements of two chains is the same in both, lines and text,
for the statements begin and end at the level of the chain however they have been
put together. So only the statements differ, and the number of them in the
summary of the chain. -/
namespace FermRules

/-- What a conversion does to the rules of a chain before they are written. -/
def Settings.pass (settings : Settings) : List Rule → List Rule :=
  if settings.optimize then Rule.optimize else id

theorem Context.writtenRules_eq (settings : Settings) (rules : List LeafRule) :
    writtenRules settings rules = settings.pass (rules.map .leaf) := by
  unfold writtenRules Settings.pass
  split <;> rfl

/-! ## Parts of a configuration -/

/-- Lines that belong to no rule, and the level at which the first of them stands. -/
structure Frame where
  level : Nat
  lines : List ConfigLine

/-- A chain with the rules that were read for it, and all lines between the
statements of the chain before and its own. -/
structure ChainPart where
  front : Frame
  domain : String
  table : String
  chain : String
  rules : List LeafRule

def Frame.text (registry : Registry) (indent : Nat) (f : Frame) : String :=
  ((Layout.mk indent f.level).write registry f.lines).text

namespace ChainPart

variable (pass : List Rule → List Rule) (p : ChainPart)

def statements : List ConfigLine := ConfigLine.ofRules (pass (p.rules.map .leaf))

def lines : List ConfigLine := p.front.lines ++ p.statements pass

/-- The statements stand inside a domain, a table and a chain. -/
def text (registry : Registry) (indent : Nat) : String :=
  p.front.text registry indent
    ++ ((Layout.mk indent 3).write registry (p.statements pass)).text

def summary : ChainSummary :=
  ⟨p.domain, p.table, p.chain, p.rules.length, Rule.statementsAll (pass (p.rules.map .leaf))⟩

end ChainPart

/-- The parts fit together, and the last lines lead from the last chain to the
level in the end. -/
inductive Assembles (registry : Registry) : Nat → List ChainPart → Frame → Nat → Prop
  | last {n m : Nat} {lines : List ConfigLine} :
      (∀ line ∈ lines, line.isFrame = true) → ConfigLine.ShiftsAll registry n lines m →
      Assembles registry n [] ⟨n, lines⟩ m
  | part {m : Nat} {p : ChainPart} {parts : List ChainPart} {last : Frame} :
      (∀ line ∈ p.front.lines, line.isFrame = true) →
      ConfigLine.ShiftsAll registry p.front.level p.front.lines 3 →
      (∀ r ∈ p.rules, r.Tidy registry) → Assembles registry 3 parts last m →
      Assembles registry p.front.level (p :: parts) last m

/-- The lines and the summaries of a conversion are those of the parts. -/
structure Shows (pass : List Rule → List Rule) (parts : List ChainPart) (last : Frame)
    (events : List Event) : Prop where
  lines : configLines events = parts.flatMap (ChainPart.lines pass) ++ last.lines
  summaries : chainSummaries events = parts.map (ChainPart.summary pass)

namespace Assembles

variable {registry : Registry} {n m : Nat} {parts : List ChainPart} {last : Frame}

/-- The text of all lines is put together from the texts of the parts. -/
theorem text (hr : registry.Legible) (h : Assembles registry n parts last m)
    (settings : Settings) :
    ((Layout.mk settings.indent n).write registry
        (parts.flatMap (ChainPart.lines settings.pass) ++ last.lines)).text
      = String.join (parts.map fun p => p.text settings.pass registry settings.indent)
        ++ last.text registry settings.indent := by
  induction h with
  | last => simp [Frame.text, String.join]
  | @part m p parts last _ hshifts hrules _ ih =>
    have htidy : Rule.AllTidy registry (settings.pass (p.rules.map .leaf)) := by
      rw [← Context.writtenRules_eq]
      exact Context.tidy_writtenRules settings hrules
    obtain ⟨hfault, hlayout, _⟩ := hshifts.write settings.indent
    obtain ⟨hfault', hlayout', _⟩ :=
      (ConfigLine.shifts_rules hr _ 3 htidy).write settings.indent
    rw [List.flatMap_cons, ChainPart.lines, List.append_assoc, List.append_assoc,
      Layout.write_append hfault, hlayout, ChainPart.statements, Layout.write_append hfault',
      hlayout']
    dsimp only
    rw [ih, List.map_cons, String.join_cons, ChainPart.text]
    simp only [String.append_assoc]
    rfl

end Assembles

/-- The parts with a line in front of all others, which stands at this level. -/
def prependLine (line : ConfigLine) (level : Nat) :
    List ChainPart × Frame → List ChainPart × Frame
  | ([], last) => ([], ⟨level, line :: last.lines⟩)
  | (p :: parts, last) => ({ p with front := ⟨level, line :: p.front.lines⟩ } :: parts, last)

theorem Assembles.prepend {registry : Registry} {n mid m : Nat} {parts : List ChainPart}
    {last : Frame} (h : Assembles registry mid parts last m) {line : ConfigLine}
    (hframe : line.isFrame = true) (hline : line.Shifts registry n mid) :
    Assembles registry n (prependLine line n (parts, last)).1 (prependLine line n (parts, last)).2
      m := by
  cases h with
  | last hlines hshifts =>
    exact .last (List.forall_mem_cons.mpr ⟨hframe, hlines⟩) (.cons hline hshifts)
  | @part _ p _ _ hlines hshifts hrules hrest =>
    exact .part (p := { p with front := ⟨n, line :: p.front.lines⟩ })
      (List.forall_mem_cons.mpr ⟨hframe, hlines⟩) (.cons hline hshifts) hrules hrest

theorem Shows.prepend {pass : List Rule → List Rule} {parts : List ChainPart} {last : Frame}
    {events : List Event} (h : Shows pass parts last events) (line : ConfigLine) (n : Nat) :
    Shows pass (prependLine line n (parts, last)).1 (prependLine line n (parts, last)).2
      (.wrote line :: events) := by
  have hlines : configLines (.wrote line :: events) = line :: configLines events := rfl
  have hsummaries : chainSummaries (.wrote line :: events) = chainSummaries events := rfl
  cases parts with
  | nil => exact ⟨by rw [hlines, h.lines]; rfl, hsummaries.trans h.summaries⟩
  | cons p parts => exact ⟨by rw [hlines, h.lines]; rfl, hsummaries.trans h.summaries⟩

theorem Shows.report {pass : List Rule → List Rule} {parts : List ChainPart} {last : Frame}
    {events : List Event} (h : Shows pass parts last events) {e : Event} (hline : e.line? = none)
    (hsummary : e.summary? = none) : Shows pass parts last (e :: events) := by
  constructor
  · rw [configLines, List.filterMap_cons, hline]
    exact h.lines
  · rw [chainSummaries, List.filterMap_cons, hsummary]
    exact h.summaries

namespace Context

/-- The part that is written when a chain is closed. -/
def closingPart (settings : Settings) (ctx : Context) (chain : String) : ChainPart :=
  ⟨⟨3, []⟩, nonEmptyOr ctx.domain settings.domain.name, ctx.table.getD "", chain, ctx.rules⟩

theorem closeChain_summaries {settings : Settings} {ctx : Context} {chain : String}
    (hc : ctx.chain = some chain) :
    chainSummaries (ctx.closeChain settings).2
      = [(ctx.closingPart settings chain).summary settings.pass] := by
  simp only [closeChain, hc, chainSummaries_append, chainSummaries_ofLines, writtenRules_eq]
  rfl

theorem shows_closeChain {settings : Settings} {ctx : Context} {chain : String}
    (hc : ctx.chain = some chain) {parts : List ChainPart} {last : Frame} {events : List Event}
    (h : Shows settings.pass parts last (.wrote .close :: events)) :
    Shows settings.pass (ctx.closingPart settings chain :: parts) last
      ((ctx.closeChain settings).2 ++ events) := by
  constructor
  · rw [configLines_append, closeChain_lines hc, writtenRules_eq, List.flatMap_cons,
      List.append_assoc, List.append_assoc]
    exact congrArg (_ ++ ·) h.lines
  · rw [chainSummaries_append, closeChain_summaries hc, List.map_cons]
    exact congrArg (_ :: ·) h.summaries

/-- Conversions in step are made of the same parts. -/
theorem Lockstep.parts {registry : Registry} {s s' : Settings} (hd : s.domain = s'.domain)
    {n m : Nat} {events others : List Event} (h : Lockstep registry s s' n events others m) :
    ∃ parts last, Assembles registry n parts last m ∧ Shows s.pass parts last events ∧
      Shows s'.pass parts last others := by
  induction h with
  | @nil n => exact ⟨[], ⟨n, []⟩, .last (List.forall_mem_nil _) .nil, ⟨rfl, rfl⟩, ⟨rfl, rfl⟩⟩
  | @line n mid m line _ _ hframe hshifts _ ih =>
    obtain ⟨parts, last, hparts, hshows, hshows'⟩ := ih
    exact ⟨_, _, hparts.prepend hframe hshifts, hshows.prepend line n, hshows'.prepend line n⟩
  | report hline hsummary _ ih =>
    obtain ⟨parts, last, hparts, hshows, hshows'⟩ := ih
    exact ⟨parts, last, hparts, hshows.report hline hsummary, hshows'.report hline hsummary⟩
  | @chain m ctx chain _ _ hc hrules _ ih =>
    obtain ⟨parts, last, hparts, hshows, hshows'⟩ := ih
    -- the closing brace stands in front of the lines behind the chain
    have hclose := hparts.prepend rfl (ConfigLine.shifts_close registry 2)
    have hpart : ctx.closingPart s' chain = ctx.closingPart s chain := by
      rw [closingPart, ← hd, closingPart]
    have hbehind := shows_closeChain hc (hshows.prepend .close 3)
    have hbehind' := shows_closeChain hc (hshows'.prepend .close 3)
    rw [hpart] at hbehind'
    exact ⟨_, _, .part (p := ctx.closingPart s chain) (List.forall_mem_nil _) .nil hrules hclose,
      hbehind, hbehind'⟩

theorem closeChain_quiet (settings : Settings) (ctx : Context) :
    diagnostics (ctx.closeChain settings).2 = [] :=
  diagnostics_of_inner (closeChain_inner settings ctx)

/-- What is reported depends on no setting. -/
theorem Lockstep.diagnostics_eq {registry : Registry} {s s' : Settings} {n m : Nat}
    {events others : List Event} (h : Lockstep registry s s' n events others m) :
    diagnostics others = diagnostics events := by
  induction h with
  | nil => rfl
  | line _ _ _ ih => exact ih
  | report _ _ _ ih =>
    simp only [diagnostics, List.filterMap_cons] at ih ⊢
    rw [ih]
  | chain _ _ _ ih =>
    rw [diagnostics_append, diagnostics_append, closeChain_quiet, closeChain_quiet, ih]

end Context

theorem Rule.statementsAll_leaves (rules : List LeafRule) :
    Rule.statementsAll (rules.map .leaf) = rules.length := by
  induction rules with
  | nil => rfl
  | cons r rules ih => simp [Rule.statementsAll, Rule.statements, ih, Nat.add_comm]

namespace Conversion

/-- With the setting and without it a conversion stops for the same fault, if for
any, reports the same and is made of the same parts. In a part without the
setting the rules stand as they were read. -/
theorem optimize_changes_statements (settings : Settings) (lines : List String) :
    let plain := ofLines { settings with optimize := false } .standard lines
    let merged := ofLines { settings with optimize := true } .standard lines
    merged.fault = plain.fault ∧
    (plain.written settings .standard).fault = none ∧
    (merged.written settings .standard).fault = none ∧
    diagnostics merged.events = diagnostics plain.events ∧
    (∀ s ∈ chainSummaries plain.events, s.statements = s.rules) ∧
    ∃ parts last level, Assembles .standard 0 parts last level ∧
      Shows id parts last plain.events ∧ Shows Rule.optimize parts last merged.events ∧
      plain.output settings .standard
        = String.join (parts.map fun p => p.text id .standard settings.indent)
          ++ last.text .standard settings.indent ∧
      merged.output settings .standard
        = String.join (parts.map fun p => p.text Rule.optimize .standard settings.indent)
          ++ last.text .standard settings.indent := by
  intro plain merged
  have hr := Registry.legible_standard
  obtain ⟨level, hsteps, hfault, _⟩ := @lockstep_ofLines .standard
    { settings with optimize := false } { settings with optimize := true } hr rfl rfl lines
  obtain ⟨hplain, _⟩ := (hsteps.shifts hr).write settings.indent
  obtain ⟨hmerged, _⟩ := (hsteps.symm.shifts hr).write settings.indent
  obtain ⟨parts, last, hparts, hshows, hshows'⟩ := hsteps.parts (by rfl)
  refine ⟨hfault, hplain, hmerged, hsteps.diagnostics_eq, ?_, parts, last, level, hparts, hshows,
    hshows', ?_, ?_⟩
  · intro s hs
    rw [hshows.summaries] at hs
    obtain ⟨p, _, rfl⟩ := List.mem_map.mp hs
    exact Rule.statementsAll_leaves p.rules
  · rw [output, written, hshows.lines]
    exact hparts.text hr { settings with optimize := false }
  · rw [output, written, hshows'.lines]
    exact hparts.text hr { settings with optimize := true }

end Conversion

end FermRules
