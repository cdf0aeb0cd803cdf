import FermRules.Proofs.OptimizeSetting
import FermRules.Proofs.Placement
import Mathlib.Algebra.GroupWithZero.Nat

/-! # The report accounts for every line

Whether a line is reported can be told from the line alone, if none is fatal. A chain
is summed up when it is closed, long after it has been opened, and its statements
stand in between. So what is shown of a context is what the summaries still to come
say: the first is that of the open chain, with the rules read so far and with the
statements up to the end of its block, and the others are those of the chains that the
rest of the lines open. A chain that only states its policy is written by a line that
is no rule, and has no summary. What is found in the lines is found in the output too. -/
namespace FermRules

/-! ## What is wrong with a line -/

namespace DumpLine

def isRule : DumpLine → Bool
  | rule .. => true
  | _ => false

/-- What is wrong with the line itself, wherever it stands. -/
def refusal? (registry : Registry) : DumpLine → Option DumpFault
  | chain name (some policy) =>
    if builtinPolicies.contains policy then none else some (.unknownPolicy policy name)
  | rule _ options =>
    match LeafRule.ofText registry options with
    | .ok _ => none
    | .error fault => some (.rule fault)
  | unknown text => some (.unrecognized text)
  | blank | comment _ | table _ | chain _ none | commit => none

def isReadRule (registry : Registry) (line : DumpLine) : Bool :=
  line.isRule && (line.refusal? registry).isNone

theorem length_rules (registry : Registry) (line : DumpLine) :
    (line.rules registry).length = if line.isReadRule registry then 1 else 0 := by
  cases line with
  | rule chain options =>
    cases hr : LeafRule.ofText registry options with
    | error fault => simp [rules, isReadRule, refusal?, hr, Except.toOption]
    | ok r => simp [rules, isReadRule, isRule, refusal?, hr, Except.toOption]
  | _ => rfl

end DumpLine

namespace Context

section
variable {settings : Settings} {registry : Registry} {ctx last : Context}
  {line : DumpLine} {events : List Event} {number : Int}

theorem addRule_fault (registry : Registry) (number : Int) (chain options : String)
    (ctx : Context) : (ctx.addRule registry number options).2
      = DumpLine.refusal? registry (.rule chain options) := by
  cases ht : tokenize options with
  | error quote =>
    have hread : LeafRule.ofText registry options = .error (.ofUnclosedQuote quote) := by
      rw [LeafRule.ofText, ht]
      rfl
    simp only [addRule, ht, DumpLine.refusal?, hread]
  | ok tokens =>
    have hread : LeafRule.ofText registry options = LeafRule.ofTokens registry tokens := by
      rw [LeafRule.ofText, ht]
      rfl
    cases hr : LeafRule.ofTokens registry tokens with
    | error fault => simp only [addRule, ht, DumpLine.refusal?, hread, hr]
    | ok r => simp only [addRule, ht, DumpLine.refusal?, hread, hr]

/-- A fault that is not fatal is one of the line itself. -/
theorem step_fault (h : ∀ fault, (ctx.step settings registry number line).2 = some fault →
      fault.isFatal = false) :
    (ctx.step settings registry number line).2 = line.refusal? registry := by
  cases line with
  | blank | table | unknown => rfl
  | comment text =>
    rw [step]
    split <;> rfl
  | chain name policy =>
    obtain ⟨table, ht⟩ := open_of_step .chain (fun ht => by simp [step, ht]) h
    cases policy with
    | none => simp [step, ht, DumpLine.refusal?]
    | some policy =>
      simp only [step, ht, Option.isNone_some, Bool.false_eq_true, ite_false, DumpLine.refusal?]
      split <;> rfl
  | rule chain options =>
    obtain ⟨table, ht⟩ := open_of_step .rule (fun ht => by simp [step, ht]) h
    simp only [step, ht, Option.isNone_some, Bool.false_eq_true, ite_false]
    exact addRule_fault registry number chain options _
  | commit =>
    obtain ⟨table, ht⟩ := open_of_step .commit (fun ht => by simp [step, ht]) h
    simp [step, ht, DumpLine.refusal?]

/-- A line that is not fatal does what its step does, and what is wrong with it is reported. -/
theorem handled_step
    (h : ctx.handle settings registry number line = ((last, events), none)) :
    (∀ fault, (ctx.step settings registry number line).2 = some fault → fault.isFatal = false) ∧
    last = (ctx.step settings registry number line).1.1 ∧
    events = (ctx.step settings registry number line).1.2
      ++ ((line.refusal? registry).map fun fault => Event.skipped ⟨fault, some number⟩).toList := by
  have hfault : ∀ fault, (ctx.step settings registry number line).2 = some fault →
      fault.isFatal = false := by
    intro fault hf
    by_contra hfatal
    have hsome := handle_fatal_iff.mpr ⟨fault, hf, by simpa using hfatal, rfl⟩
    rw [h] at hsome
    cases hsome
  rw [← step_fault hfault]
  refine ⟨hfault, ?_⟩
  unfold handle at h
  dsimp only at h
  cases hf : (ctx.step settings registry number line).2 with
  | none =>
    simp only [hf, Prod.mk.injEq, and_true] at h
    rw [h]
    exact ⟨rfl, (List.append_nil _).symm⟩
  | some fault =>
    simp only [hf, hfault fault hf, Traced.andThen] at h
    cases h
    exact ⟨rfl, rfl⟩

/-- What is reported of a line is what is wrong with it, and the report is neither written nor
summed up. -/
theorem handled_views
    (h : ctx.handle settings registry number line = ((last, events), none)) :
    diagnostics events = ((line.refusal? registry).map fun fault =>
      (LocatedFault.mk fault (some number)).message).toList ∧
    configLines events = configLines (ctx.step settings registry number line).1.2 ∧
    chainSummaries events = chainSummaries (ctx.step settings registry number line).1.2 := by
  obtain ⟨-, -, rfl⟩ := handled_step h
  rw [diagnostics_append, step_quiet, configLines_append, chainSummaries_append]
  cases line.refusal? registry with
  | none => exact ⟨rfl, List.append_nil _, List.append_nil _⟩
  | some fault => exact ⟨rfl, List.append_nil _, List.append_nil _⟩

end

end Context

/-! ## Blocks of a configuration -/

namespace Outline

/-- The statement lines up to the end of the block, with this many blocks open in it: rules and the
headers of blocks of rules. -/
def statementsInside {α : Type} (part : α → Part) : Nat → List α → Nat
  | _, [] => 0
  | depth, line :: rest =>
    match part line with
    | .statement => 1 + statementsInside part depth rest
    | .close =>
      match depth with
      | 0 => 0
      | outer + 1 => statementsInside part outer rest
    | .policy _ | .other => statementsInside part depth rest
    | .block => 1 + statementsInside part (depth + 1) rest
    | .domain _ | .table _ | .chain _ => statementsInside part (depth + 1) rest

/-- The chain blocks whose header is marked, each with itself and the blocks around it, the
innermost first, and with the number of statement lines in it. -/
def markedChains {α : Type} (part : α → Part) (blocks : List Part) :
    List (Bool × α) → List (List Part × Nat)
  | [] => []
  | (mark, line) :: rest =>
    match part line with
    | .chain name =>
      (if mark then [(.chain name :: blocks, statementsInside part 0 (rest.map Prod.snd))] else [])
        ++ markedChains part (.chain name :: blocks) rest
    | .close => markedChains part blocks.tail rest
    | .policy _ | .statement | .other => markedChains part blocks rest
    | opened => markedChains part (opened :: blocks) rest

end Outline

namespace ConfigLine
open Outline (Part)

abbrev statementsInside (depth : Nat) (lines : List ConfigLine) : Nat :=
  Outline.statementsInside part depth lines

abbrev markedChains (blocks : List Part) (lines : List (Bool × ConfigLine)) :
    List (List Part × Nat) := Outline.markedChains part blocks lines

mutual

theorem statementsInside_rule : ∀ (rule : Rule) (depth : Nat) (rest : List ConfigLine),
    statementsInside depth (ofRule rule ++ rest) = rule.statements + statementsInside depth rest
  | .leaf r, depth, rest => by
    rw [ofRule, Rule.statements]
    rfl
  | .block c children, depth, rest => by
    have hinner := statementsInside_rules children (depth + 1) (.close :: rest)
    rw [ofRule, List.cons_append, List.cons_append, List.append_assoc, Rule.statements,
      Nat.add_assoc]
    exact congrArg (1 + ·) hinner

theorem statementsInside_rules : ∀ (rules : List Rule) (depth : Nat) (rest : List ConfigLine),
    statementsInside depth (ofRules rules ++ rest)
      = Rule.statementsAll rules + statementsInside depth rest
  | [], depth, rest => by rw [ofRules, List.nil_append, Rule.statementsAll, Nat.zero_add]
  | rule :: rules, depth, rest => by
    rw [ofRules, List.append_assoc, statementsInside_rule rule, statementsInside_rules rules,
      Rule.statementsAll, Nat.add_assoc]

end

/-- Lines that are written together are all marked or none is. -/
def marked (mark : Bool) (lines : List ConfigLine) : List (Bool × ConfigLine) :=
  lines.map (mark, ·)

theorem marked_append (mark : Bool) (lines more : List ConfigLine) :
    marked mark (lines ++ more) = marked mark lines ++ marked mark more := List.map_append

theorem map_snd_marked (mark : Bool) (lines : List ConfigLine) :
    (marked mark lines).map Prod.snd = lines := by
  rw [marked, List.map_map]
  exact List.map_id lines

mutual

theorem markedChains_rule : ∀ (rule : Rule) (mark : Bool) (blocks : List Part)
    (rest : List (Bool × ConfigLine)),
    markedChains blocks (marked mark (ofRule rule) ++ rest) = markedChains blocks rest
  | .leaf r, mark, blocks, rest => rfl
  | .block c children, mark, blocks, rest => by
    have hinner := markedChains_rules children mark (.block :: blocks)
      (marked mark [close] ++ rest)
    rw [← List.append_assoc, ← marked_append] at hinner
    exact hinner

theorem markedChains_rules : ∀ (rules : List Rule) (mark : Bool) (blocks : List Part)
    (rest : List (Bool × ConfigLine)),
    markedChains blocks (marked mark (ofRules rules) ++ rest) = markedChains blocks rest
  | [], mark, blocks, rest => rfl
  | rule :: rules, mark, blocks, rest => by
    rw [ofRules, marked_append, List.append_assoc, markedChains_rule rule,
      markedChains_rules rules]

end

/-- A chain that only states its policy has no mark. -/
theorem markedChains_policies (blocks : List Part) (policies : List (String × String))
    (rest : List (Bool × ConfigLine)) :
    markedChains blocks (marked false (policies.flatMap fun (name, stated) =>
        Context.policyLines name (some stated) ++ [.close]) ++ rest)
      = markedChains blocks rest := by
  induction policies with
  | nil => rfl
  | cons entry policies ih =>
    rw [List.flatMap_cons, marked_append, List.append_assoc]
    exact ih

end ConfigLine

namespace ConfigLine
open Outline (Part)

variable {registry : Registry}

/-- Line by line the texts have the same marks, and they tell what the lines are. -/
def SaysMarked (registry : Registry) (line : Bool × ConfigLine) (text : Bool × String) : Prop :=
  line.1 = text.1 ∧ line.2.Says registry text.2

theorem saysMarked_zip {lines : List (Bool × ConfigLine)} {texts : List String}
    (h : List.Forall₂ (Says registry) (lines.map Prod.snd) texts) :
    List.Forall₂ (SaysMarked registry) lines ((lines.map Prod.fst).zip texts) := by
  induction lines generalizing texts with
  | nil => exact .nil
  | cons line lines ih =>
    obtain ⟨mark, line⟩ := line
    cases h with
    | cons hline hlines => exact .cons ⟨rfl, hline⟩ (ih hlines)

theorem statementsInside_texts {lines : List (Bool × ConfigLine)} {texts : List (Bool × String)}
    (h : List.Forall₂ (SaysMarked registry) lines texts) (depth : Nat) :
    Outline.statementsInside Outline.part depth (texts.map Prod.snd)
      = statementsInside depth (lines.map Prod.snd) := by
  induction h generalizing depth with
  | nil => rfl
  | @cons line text lines texts hsays _ ih =>
    obtain ⟨mark, line⟩ := line
    have hpart := hsays.2.part
    simp only [statementsInside, List.map_cons, Outline.statementsInside, hpart]
    cases line with
    | close =>
      cases depth with
      | zero => rfl
      | succ outer => exact ih outer
    | openDomain | openTable | openChain => exact ih (depth + 1)
    | statement => exact congrArg (1 + ·) (ih depth)
    | openBlock => exact congrArg (1 + ·) (ih (depth + 1))
    | _ => exact ih depth

/-- In the texts of lines the same chain blocks are marked. -/
theorem markedChains_texts {lines : List (Bool × ConfigLine)} {texts : List (Bool × String)}
    (h : List.Forall₂ (SaysMarked registry) lines texts) (blocks : List Part) :
    Outline.markedChains Outline.part (blocks.map Part.written) texts
      = (markedChains blocks lines).map fun (found, count) =>
        (found.map Part.written, count) := by
  induction h generalizing blocks with
  | nil => rfl
  | @cons line text lines texts hsays hrest ih =>
    obtain ⟨mark, line⟩ := line
    obtain ⟨mark', text⟩ := text
    obtain ⟨rfl, hline⟩ := hsays
    have hpart := hline.part
    simp only [markedChains, Outline.markedChains, hpart]
    cases line with
    | openChain name =>
      have hinside := ih (.chain name :: blocks)
      cases mark with
      | false => exact hinside
      | true =>
        refine congr (congrArg List.cons ?_) hinside
        exact congrArg _ (statementsInside_texts hrest 0)
    | openDomain name => exact ih (.domain name :: blocks)
    | openTable name => exact ih (.table name :: blocks)
    | openBlock => exact ih (.block :: blocks)
    | close =>
      have hbehind := ih blocks.tail
      rw [List.map_tail] at hbehind
      exact hbehind
    | _ => exact ih blocks

end ConfigLine

/-- The chain block and those around it, with the number of statements. -/
def ChainSummary.place (s : ChainSummary) : List Outline.Part × Nat :=
  ([.chain s.chain, .table s.table, .domain s.domain], s.statements)

namespace Context
open Outline (Part)
open ConfigLine (marked markedChains statementsInside)

variable {settings : Settings} {registry : Registry} {ctx mid last : Context}
  {rest : List DumpLine} {lines : List (Bool × ConfigLine)} {summaries : List ChainSummary}
  {events : List Event}

theorem nonEmptyOr_ne (text : Option String) (domain : Domain) :
    nonEmptyOr text domain.name ≠ "" := by
  unfold nonEmptyOr
  split
  · split
    · cases domain <;> decide
    · assumption
  · cases domain <;> decide

/-- Every domain that is opened has a name. -/
theorem Did.named {line : DumpLine} (hd : ctx.domain ≠ some "")
    (h : Did settings registry ctx line events mid last) : last.domain ≠ some "" := by
  have hnames := h.names
  rw [h.last]
  cases line with
  | table name =>
    obtain ⟨-, -, hdomain⟩ := hnames
    rw [hdomain]
    exact fun heq => nonEmptyOr_ne _ _ (Option.some.inj heq)
  | rule chain options => rw [hnames.2.2]; exact hd
  | _ => rw [hnames.2]; exact hd

/-! ## What is still to be summed up -/

/-- The block of the open chain, with the statements still to be written. -/
def openBlock (ctx : Context) (lines : List (Bool × ConfigLine)) : List (List Part × Nat) :=
  ctx.chain.toList.map fun _ => (ctx.stack, statementsInside 0 (lines.map Prod.snd))

/-- The summaries that are still made account for the rules that are held, the rule
lines that come, and the chains that they open. -/
structure Tallies (registry : Registry) (ctx : Context) (rest : List DumpLine)
    (lines : List (Bool × ConfigLine)) (summaries : List ChainSummary) : Prop where
  read : (summaries.map ChainSummary.rules).sum
    = ctx.rules.length + rest.countP (·.isReadRule registry)
  blocks : summaries.map ChainSummary.place
    = ctx.openBlock lines ++ markedChains ctx.stack lines

namespace Tallies

theorem closeChain (hn : ctx.Nested) (hd : ctx.domain ≠ some "") (mark : Bool)
    (h : Tallies registry (ctx.closeChain settings).1 rest lines summaries) :
    Tallies registry ctx rest (marked mark (configLines (ctx.closeChain settings).2) ++ lines)
      (chainSummaries (ctx.closeChain settings).2 ++ summaries) := by
  cases hc : ctx.chain with
  | none =>
    rw [closeChain_of_none hc] at h ⊢
    exact h
  | some chain =>
    obtain ⟨table, ht⟩ := Option.isSome_iff_exists.mp (hn.chain (by rw [hc]; rfl))
    obtain ⟨domain, hdomain⟩ := Option.isSome_iff_exists.mp (hn.table (by rw [ht]; rfl))
    have hnamed : nonEmptyOr ctx.domain settings.domain.name = domain := by
      rw [hdomain] at hd ⊢
      exact if_neg fun heq => hd (congrArg some heq)
    have hlast : (ctx.closeChain settings).1 = { ctx with chain := none, rules := [] } := by
      simp only [Context.closeChain, hc]
    have hstack : ctx.stack = [.chain chain, .table table, .domain domain] := by
      rw [stack, outer, hc, ht, hdomain]
      rfl
    have houter : (ctx.closeChain settings).1.stack = [.table table, .domain domain] := by
      rw [hlast]
      simp [stack, outer, ht, hdomain]
    have hblock : (ctx.closeChain settings).1.openBlock lines = [] := by rw [hlast]; rfl
    obtain ⟨hread, hblocks⟩ := h
    rw [houter, hblock, List.nil_append] at hblocks
    rw [closeChain_lines hc, closeChain_summaries hc, ConfigLine.marked_append, List.append_assoc,
      List.singleton_append]
    constructor
    · rw [hlast] at hread
      rw [List.map_cons, List.sum_cons, hread]
      simp [ChainPart.summary, closingPart]
    · rw [List.map_cons, hblocks, openBlock, hstack, ConfigLine.markedChains_rules, hc,
        List.map_append, ConfigLine.map_snd_marked, ConfigLine.statementsInside_rules]
      simp [ChainSummary.place, ChainPart.summary, closingPart, hnamed, ht, marked,
        Outline.markedChains, Outline.statementsInside, ConfigLine.part, ← writtenRules_eq]

/-- A chain that a rule line opens is underway from then on. -/
theorem openChain (hc : ctx.chain = none) (chain : String)
    (h : Tallies registry (ctx.openChain chain).1 rest lines summaries) :
    Tallies registry ctx rest (marked true (configLines (ctx.openChain chain).2) ++ lines)
      (chainSummaries (ctx.openChain chain).2 ++ summaries) := by
  have hlines : ∀ policy : Option String,
      markedChains ctx.stack (marked true (policyLines chain policy) ++ lines)
        = (.chain chain :: ctx.stack, statementsInside 0 (lines.map Prod.snd))
          :: markedChains (.chain chain :: ctx.stack) lines := by
    intro policy
    cases policy with
    | none => rfl
    | some policy => rfl
  have hstack : (ctx.openChain chain).1.stack = .chain chain :: ctx.stack := by
    simp [stack, outer, Context.openChain, hc]
  have hblock : ctx.openBlock (marked true (policyLines chain (ctx.policies.lookup chain)) ++ lines)
      = [] := by rw [openBlock, hc]; rfl
  obtain ⟨hread, hblocks⟩ := h
  rw [hstack, openBlock, hstack] at hblocks
  rw [openChain_lines, Context.openChain, chainSummaries_ofLines, List.nil_append]
  constructor
  · exact hread
  · rw [hblock, hlines, hblocks]
    rfl

theorem closeTable_of_none (hc : ctx.chain = none)
    (h : Tallies registry (ctx.closeTable settings).1 rest lines summaries) :
    Tallies registry ctx rest
      (marked false (configLines (ctx.closeTable settings).2) ++ lines)
      (chainSummaries (ctx.closeTable settings).2 ++ summaries) := by
  cases ht : ctx.table with
  | none =>
    rw [Context.closeTable_of_none hc ht] at h ⊢
    exact h
  | some table =>
    rw [closeTable_lines hc ht, ConfigLine.marked_append, List.append_assoc]
    rw [closeTable_of_some hc ht] at h ⊢
    obtain ⟨hread, hblocks⟩ := h
    rw [chainSummaries_ofLines, List.nil_append]
    constructor
    · exact hread
    · rw [hblocks, ConfigLine.markedChains_policies]
      simp [openBlock, stack, outer, hc, ht, marked, Outline.markedChains, ConfigLine.part]

theorem closeTable (hn : ctx.Nested) (hd : ctx.domain ≠ some "")
    (h : Tallies registry (ctx.closeTable settings).1 rest lines summaries) :
    Tallies registry ctx rest
      (marked false (configLines (ctx.closeTable settings).2) ++ lines)
      (chainSummaries (ctx.closeTable settings).2 ++ summaries) := by
  rw [closeTable_eq] at h ⊢
  rw [Traced.andThen, configLines_append, ConfigLine.marked_append, List.append_assoc,
    chainSummaries_append, List.append_assoc]
  exact closeChain hn hd false (closeTable_of_none (closeChain_last settings ctx).1 h)

/-- Lines around tables belong to no chain. -/
theorem outside (h : Tallies registry mid rest lines summaries) (more : List ConfigLine)
    (hmid : mid.chain = none) (hc : ctx.chain = none) (hrules : mid.rules = ctx.rules)
    (hlines : markedChains ctx.stack (marked false more ++ lines)
      = markedChains mid.stack lines) :
    Tallies registry ctx rest (marked false more ++ lines) summaries := by
  obtain ⟨hread, hblocks⟩ := h
  rw [openBlock, hmid] at hblocks
  constructor
  · rw [← hrules]
    exact hread
  · rw [openBlock, hc, hlines]
    exact hblocks

theorem closeDomain (hn : ctx.Nested) (hd : ctx.domain ≠ some "")
    (h : Tallies registry (ctx.closeDomain settings).1 rest lines summaries) :
    Tallies registry ctx rest
      (marked false (configLines (ctx.closeDomain settings).2) ++ lines)
      (chainSummaries (ctx.closeDomain settings).2 ++ summaries) := by
  obtain ⟨hchain, htable, hdomain, _⟩ := closeTable_last settings ctx
  rw [closeDomain_eq] at h ⊢
  rw [Traced.andThen, configLines_append, ConfigLine.marked_append, List.append_assoc,
    chainSummaries_append, List.append_assoc]
  refine closeTable hn hd ?_
  rw [andThen_context] at h
  cases ho : ctx.domain with
  | none =>
    rw [closeDomain_of_none hchain htable (hdomain.trans ho)] at h ⊢
    exact h
  | some domain =>
    rw [closeDomain_of_some hchain htable (hdomain.trans ho)] at h ⊢
    refine h.outside [.close] hchain hchain rfl ?_
    simp [stack, outer, hchain, htable, hdomain, ho, marked, Outline.markedChains, ConfigLine.part]

theorem openDomain (hc : ctx.chain = none) (ht : ctx.table = none) (domain : String)
    (h : Tallies registry (ctx.openDomain domain).1 rest lines summaries) :
    Tallies registry ctx rest
      (marked false (configLines (ctx.openDomain domain).2) ++ lines)
      (chainSummaries (ctx.openDomain domain).2 ++ summaries) := by
  cases hd : ctx.domain with
  | some other =>
    simp only [Context.openDomain, hd] at h ⊢
    exact h
  | none =>
    simp only [Context.openDomain, hd] at h ⊢
    refine h.outside [.openDomain domain] hc hc rfl ?_
    simp [stack, outer, hc, ht, hd, marked, Outline.markedChains, ConfigLine.part]

theorem openTable (hc : ctx.chain = none) (ht : ctx.table = none) (name : String)
    (h : Tallies registry (ctx.openTable name).1 rest lines summaries) :
    Tallies registry ctx rest
      (marked false (configLines (ctx.openTable name).2) ++ lines)
      (chainSummaries (ctx.openTable name).2 ++ summaries) := by
  refine h.outside [.openTable name] hc hc rfl ?_
  simp [stack, outer, hc, ht, Context.openTable, marked, Outline.markedChains, ConfigLine.part]

theorem startTable (hn : ctx.Nested) (hd : ctx.domain ≠ some "") (name : String)
    (h : Tallies registry (ctx.startTable settings name).1 rest lines summaries) :
    Tallies registry ctx rest
      (marked false (configLines (ctx.startTable settings name).2) ++ lines)
      (chainSummaries (ctx.startTable settings name).2 ++ summaries) := by
  obtain ⟨closed, hclosed, heq, hc, ht, -⟩ := startTable_cases settings name ctx
  rw [heq] at h ⊢
  obtain ⟨hchain, htable, -⟩ :=
    openDomain_last closed.1 (nonEmptyOr ctx.hint settings.domain.name)
  have htableLine := openTable (hchain.trans hc) (htable.trans ht) name h
  have hdomainLine := openDomain hc ht _ htableLine
  simp only [Traced.andThen, configLines_append, chainSummaries_append, ConfigLine.marked_append,
    List.append_assoc]
  rcases hclosed with rfl | rfl
  · exact closeTable hn hd hdomainLine
  · exact closeDomain hn hd hdomainLine

theorem enterChain (hn : ctx.Nested) (hd : ctx.domain ≠ some "") (chain : String)
    (h : Tallies registry (ctx.enterChain settings chain).1 rest lines summaries) :
    Tallies registry ctx rest
      (marked true (configLines (ctx.enterChain settings chain).2) ++ lines)
      (chainSummaries (ctx.enterChain settings chain).2 ++ summaries) := by
  unfold Context.enterChain at h ⊢
  split at h
  · rename_i hc
    rw [if_pos hc]
    exact h
  · rename_i hc
    rw [if_neg hc, Traced.andThen, configLines_append, ConfigLine.marked_append,
      List.append_assoc, chainSummaries_append, List.append_assoc]
    exact closeChain hn hd true (openChain (closeChain_last settings ctx).1 chain h)

/-- A line that is no rule leaves the count of those that are read. -/
theorem other {line : DumpLine} (hline : line.isRule = false)
    (h : Tallies registry ctx rest lines summaries) :
    Tallies registry ctx (line :: rest) lines summaries := by
  refine ⟨?_, h.blocks⟩
  rw [List.countP_cons_of_neg (by simp [DumpLine.isReadRule, hline])]
  exact h.read

/-- A rule that is read goes to the chain that is open. -/
theorem held {chain options : String}
    (h : Tallies registry { ctx with
      rules := ctx.rules ++ (LeafRule.ofText registry options).toOption.toList }
      rest lines summaries) :
    Tallies registry ctx (.rule chain options :: rest) lines summaries := by
  refine ⟨?_, h.blocks⟩
  have hlength := DumpLine.length_rules registry (.rule chain options)
  have hread := h.read
  rw [List.length_append] at hread
  rw [hread, List.countP_cons, ← hlength, DumpLine.rules]
  omega

/-- What a line writes and sums up is what it adds to what is still to come. -/
theorem step {line : DumpLine} {number : Int} (hn : ctx.Nested) (hd : ctx.domain ≠ some "")
    (hfault : ∀ fault, (ctx.step settings registry number line).2 = some fault →
      fault.isFatal = false)
    (h : Tallies registry (ctx.step settings registry number line).1.1 rest lines summaries) :
    Tallies registry ctx (line :: rest)
      (marked line.isRule (configLines (ctx.step settings registry number line).1.2) ++ lines)
      (chainSummaries (ctx.step settings registry number line).1.2 ++ summaries) := by
  cases line with
  | blank | unknown => exact other rfl h
  | comment text =>
    refine other rfl ?_
    rw [Context.step] at h ⊢
    split at h
    · exact ⟨h.read, h.blocks⟩
    · exact h
  | table name => exact other rfl (startTable hn hd name h)
  | chain name policy =>
    obtain ⟨table, ht⟩ := open_of_step .chain (fun ht => by simp [Context.step, ht]) hfault
    have hopen : ctx.table.isNone = false := by rw [ht]; rfl
    refine other rfl ?_
    simp only [Context.step, hopen, Bool.false_eq_true, ite_false] at h ⊢
    cases policy with
    | none =>
      obtain ⟨hchain, -⟩ := closeChain_last settings ctx
      simp only [Traced.andThen, configLines_append, ConfigLine.marked_append, List.append_assoc,
        chainSummaries_append] at h ⊢
      exact closeChain hn hd false (h.outside [.emptyChain name] hchain hchain rfl rfl)
    | some policy =>
      dsimp only at h ⊢
      split at h
      · rename_i hp
        rw [if_pos hp]
        exact ⟨h.read, h.blocks⟩
      · rename_i hp
        rw [if_neg hp]
        exact h
  | rule chain options =>
    obtain ⟨table, ht⟩ := open_of_step .rule (fun ht => by simp [Context.step, ht]) hfault
    obtain ⟨names, hnames⟩ := addRule_events registry number options
      (ctx.enterChain settings chain).1
    obtain ⟨_, hlast⟩ := addRule_moves settings registry number options
      (ctx.enterChain settings chain).1
    obtain ⟨-, hlines, hsummaries⟩ := unknownModules_silent names number
    simp only [Context.step, ht, Option.isNone_some, Bool.false_eq_true, ite_false,
      Traced.andThen] at h ⊢
    rw [hnames, configLines_append, hlines, List.append_nil, chainSummaries_append, hsummaries,
      List.append_nil]
    rw [hlast] at h
    obtain ⟨hread, hblocks⟩ := enterChain hn hd chain (held h)
    exact ⟨hread, hblocks⟩
  | commit =>
    obtain ⟨table, ht⟩ := open_of_step .commit (fun ht => by simp [Context.step, ht]) hfault
    simp only [Context.step, ht, Option.isNone_some, Bool.false_eq_true, ite_false] at h ⊢
    exact other rfl (closeChain hn hd false h)

end Tallies

end Context

namespace Conversion
open ConfigLine (marked markedChains)

/-- The lines of a conversion from this dump line on. Those are marked that a rule line has had
written. -/
def markedFrom (settings : Settings) (registry : Registry) (number : Int) (ctx : Context) :
    List String → List (Bool × ConfigLine)
  | [] => marked false (configLines (ctx.closeDomain settings).2)
  | text :: rest =>
    let handled := ctx.handle settings registry number (.ofText text)
    marked (DumpLine.ofText text).isRule (configLines handled.1.2)
      ++ (if handled.2.isSome then []
        else markedFrom settings registry (number + 1) handled.1.1 rest)

def markedLines (settings : Settings) (registry : Registry) (lines : List String) :
    List (Bool × ConfigLine) :=
  marked false (configLines (headerEvents settings)) ++ markedFrom settings registry 1 {} lines

variable {settings : Settings} {registry : Registry} {number : Int} {ctx : Context}

theorem map_snd_markedFrom (settings : Settings) (registry : Registry) (number : Int)
    (ctx : Context) (lines : List String) :
    (markedFrom settings registry number ctx lines).map Prod.snd
      = configLines (run settings registry number ctx lines).events := by
  induction lines generalizing number ctx with
  | nil => exact ConfigLine.map_snd_marked _ _
  | cons text rest ih =>
    rcases hh : ctx.handle settings registry number (.ofText text) with ⟨⟨last, events⟩, fault⟩
    cases fault with
    | some fault => simp [markedFrom, run, hh, ConfigLine.map_snd_marked]
    | none => simp [markedFrom, run, hh, ConfigLine.map_snd_marked, ih, configLines_append]

theorem map_snd_markedLines (settings : Settings) (registry : Registry) (lines : List String) :
    (markedLines settings registry lines).map Prod.snd
      = configLines (ofLines settings registry lines).events := by
  rw [markedLines, List.map_append, ConfigLine.map_snd_marked, map_snd_markedFrom, ofLines_events,
    configLines_append]

theorem tallies_run {lines : List String} (hn : ctx.Nested) (hd : ctx.domain ≠ some "")
    (h : (run settings registry number ctx lines).fault = none) :
    Context.Tallies registry ctx (lines.map .ofText)
      (markedFrom settings registry number ctx lines)
      (chainSummaries (run settings registry number ctx lines).events) := by
  induction lines generalizing number ctx with
  | nil =>
    obtain ⟨hchain, htable, hdomain, _⟩ := Context.closeDomain_last settings ctx
    have hrules := ((Context.Moves.closeDomain settings ctx).nested hn).rules_of_none hchain
    have hend : Context.Tallies registry (ctx.closeDomain settings).1 [] [] [] :=
      ⟨by rw [hrules]; rfl, by rw [Context.openBlock, hchain]; rfl⟩
    have hclosed := Context.Tallies.closeDomain hn hd hend
    rw [List.append_nil, List.append_nil] at hclosed
    exact hclosed
  | cons text rest ih =>
    obtain ⟨last, events, hhandle, hfault, hevents⟩ := run_uncons h
    obtain ⟨mid, hdid⟩ := Context.did_of_handle hhandle
    have hrest := ih (hdid.nested hn) (hdid.named hd) hfault
    obtain ⟨hstep, rfl, -⟩ := Context.handled_step hhandle
    obtain ⟨-, hlines, hsummaries⟩ := Context.handled_views hhandle
    have hline := hrest.step hn hd hstep
    rw [hevents, chainSummaries_append, hsummaries]
    simp only [List.map_cons, markedFrom, hhandle, Option.isSome_none, Bool.false_eq_true,
      ite_false, hlines]
    exact hline

/-- The messages stand in the order of the lines, each with the number of its line. -/
theorem diagnostics_run {lines : List String} {k : Nat}
    (h : (run settings registry k ctx lines).fault = none) :
    diagnostics (run settings registry k ctx lines).events
      = ((lines.map DumpLine.ofText).zipIdx k).filterMap fun (line, n) =>
        (line.refusal? registry).map fun fault => (LocatedFault.mk fault (some n)).message := by
  induction lines generalizing k ctx with
  | nil => exact diagnostics_of_inner (Context.closeDomain_inner settings ctx)
  | cons text rest ih =>
    obtain ⟨last, events, hhandle, hfault, hevents⟩ := run_uncons h
    have hnumber : ((k + 1 : Nat) : Int) = k + 1 := rfl
    rw [← hnumber] at hfault hevents
    obtain ⟨hreported, -⟩ := Context.handled_views hhandle
    rw [hevents, diagnostics_append, hreported, List.map_cons, List.zipIdx_cons,
      List.filterMap_cons, ih hfault]
    dsimp only
    cases (DumpLine.ofText text).refusal? registry with
    | none => rfl
    | some fault => rfl

/-- The report accounts for every line of the dump, if none is fatal. There is one message for each
line at fault, in order, and for no other one. The rules of the summaries are the rule lines that
have no message. There is one summary for each chain block that a rule line has opened, in order,
with the block and those around it and with the number of statements in it. Where rules cannot be
taken for other lines, these blocks and statements are those of the output. -/
theorem report_accounts_for_lines {settings : Settings} {registry : Registry}
    {lines : List String} (h : (ofLines settings registry lines).fault = none) :
    let events := (ofLines settings registry lines).events
    let dump := lines.map DumpLine.ofText
    let marks := (markedLines settings registry lines).map Prod.fst
    diagnostics events = (dump.zipIdx 1).filterMap (fun (line, n) =>
      (line.refusal? registry).map fun fault => (LocatedFault.mk fault (some n)).message) ∧
    ((chainSummaries events).map ChainSummary.rules).sum
      = dump.countP (·.isReadRule registry) ∧
    (markedLines settings registry lines).map Prod.snd = configLines events ∧
    (chainSummaries events).map ChainSummary.place
      = markedChains [] (markedLines settings registry lines) ∧
    (registry.Clear → ∃ texts,
      Outline.texts? ((ofLines settings registry lines).output settings registry) = some texts ∧
      texts.length = marks.length ∧
      (chainSummaries events).map (fun s =>
          ([.chain (Token.write s.chain), .table (Token.write s.table), .domain s.domain],
            s.statements))
        = Outline.markedChains Outline.part [] (marks.zip texts)) := by
  intro events dump marks
  have hrun : (run settings registry 1 {} lines).fault = none := h
  obtain ⟨hread, hblocks⟩ := tallies_run Context.nested_start nofun hrun
  have hheader : diagnostics (headerEvents settings) = [] ∧
      chainSummaries (headerEvents settings) = [] ∧
      ∀ more, markedChains [] (marked false (configLines (headerEvents settings)) ++ more)
        = markedChains [] more := by
    unfold headerEvents
    split
    · exact ⟨rfl, rfl, fun _ => rfl⟩
    · exact ⟨rfl, rfl, fun _ => rfl⟩
  obtain ⟨hquiet, hsilent, hfront⟩ := hheader
  have hevents : events = headerEvents settings ++ (run settings registry 1 {} lines).events :=
    ofLines_events settings registry lines
  have hplaces : (chainSummaries events).map ChainSummary.place
      = markedChains [] (markedLines settings registry lines) := by
    rw [hevents, chainSummaries_append, hsilent, markedLines, hfront]
    exact hblocks
  have hlines := map_snd_markedLines settings registry lines
  refine ⟨?_, ?_, hlines, hplaces, fun hr => ?_⟩
  · rw [hevents, diagnostics_append, hquiet]
    exact diagnostics_run hrun
  · rw [hevents, chainSummaries_append, hsilent, List.nil_append, hread]
    exact Nat.zero_add _
  · obtain ⟨texts, htexts, hsays⟩ := says_output hr settings lines
    rw [← hlines] at hsays
    have hmarked := ConfigLine.markedChains_texts (ConfigLine.saysMarked_zip hsays) []
    have hlength := hsays.length_eq
    refine ⟨texts, htexts, by simpa [marks] using hlength.symm, ?_⟩
    rw [List.map_nil, ← hplaces, List.map_map] at hmarked
    exact hmarked.symm

/-- Of three chains one is only declared with its policy and one is opened by a rule that is
skipped; a chain is opened a second time, and two of its rules share a block. -/
def reportedDump : List String :=
  ["*filter", ":INPUT ACCEPT [0:0]", ":FORWARD DROP [0:0]", ":mine - [0:0]", ":OUTPUT REFUSE [0:0]",
    "-A INPUT -p tcp -s 10.0.0.1 -j ACCEPT", "-A INPUT -p tcp -d 10.0.0.2 -j DROP",
    "-A OUTPUT --bogus", "nonsense", "-A INPUT -j RETURN", "-A INPUT -m comment --comment 'a",
    "COMMIT"]

theorem report_accounts_for_reportedDump :
    (ofLines {} .standard reportedDump).fault = none ∧
    diagnostics (ofLines {} .standard reportedDump).events
      = ["line 5: unknown policy 'REFUSE' for chain OUTPUT", "line 8: unknown option '--bogus'",
        "line 9: unrecognized line: nonsense", "line 11: unterminated quote at column 22"] ∧
    ((chainSummaries (ofLines {} .standard reportedDump).events).map ChainSummary.rules).sum = 3 ∧
    (chainSummaries (ofLines {} .standard reportedDump).events).map ChainSummary.place
      = [([.chain "INPUT", .table "filter", .domain "ip"], 3),
        ([.chain "OUTPUT", .table "filter", .domain "ip"], 0),
        ([.chain "INPUT", .table "filter", .domain "ip"], 1)] ∧
    Registry.standard.Clear ∧
    ∃ texts,
      Outline.texts? ((ofLines {} .standard reportedDump).output {} .standard) = some texts ∧
      texts.length = ((markedLines {} .standard reportedDump).map Prod.fst).length ∧
      (chainSummaries (ofLines {} .standard reportedDump).events).map (fun s =>
          ([.chain (Token.write s.chain), .table (Token.write s.table), .domain s.domain],
            s.statements))
        = Outline.markedChains Outline.part []
          (((markedLines {} .standard reportedDump).map Prod.fst).zip texts) := by
  have hfault : (ofLines {} .standard reportedDump).fault = none := by decide +kernel
  obtain ⟨hmessages, hread, -, hblocks, htexts⟩ := report_accounts_for_lines hfault
  refine ⟨hfault, ?_, ?_, ?_, Registry.clear_standard, htexts Registry.clear_standard⟩
  · rw [hmessages]
    decide +kernel
  · rw [hread]
    decide +kernel
  · rw [hblocks]
    decide +kernel

end Conversion

end FermRules
