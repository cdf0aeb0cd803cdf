import FermRules.Proofs.Merging
import FermRules.Proofs.Moves
import FermRules.Proofs.Writable

/-! # What all lines of a conversion have

The lines of a conversion stand around rules, or rules are written as them. So a
property of the lines around rules that the others have from the parts of the
rules, however these have been merged, is a property of all lines if it is one of
the parts that have been read. The held rules pass it on from line to line. In this
way all lines of a conversion can be written. -/
namespace FermRules

/-- The line has a text. -/
def ConfigLine.Writable (registry : Registry) (line : ConfigLine) : Prop :=
  ∃ text, line.render registry = .ok text

namespace Layout

theorem fault_of_writable {registry : Registry} {lines : List ConfigLine}
    (h : ∀ line ∈ lines, line.Writable registry) (layout : Layout) :
    (layout.write registry lines).fault = none := by
  induction lines generalizing layout with
  | nil => rfl
  | cons line lines ih =>
    obtain ⟨⟨text, ht⟩, hlines⟩ := List.forall_mem_cons.mp h
    rw [write, ht]
    exact ih hlines (layout.put text).2

end Layout

theorem ConfigLine.mapM_render {registry : Registry} {lines : List ConfigLine}
    (h : ∀ line ∈ lines, line.Writable registry) :
    ∃ texts, lines.mapM (render registry) = .ok texts := by
  induction lines with
  | nil => exact ⟨[], rfl⟩
  | cons line lines ih =>
    obtain ⟨⟨text, htext⟩, hlines⟩ := List.forall_mem_cons.mp h
    obtain ⟨texts, htexts⟩ := ih hlines
    refine ⟨text :: texts, ?_⟩
    rw [List.mapM_cons, htext, htexts]
    rfl

theorem ConfigLine.ofRules_map_leaf (rules : List LeafRule) :
    ofRules (rules.map .leaf) = rules.map statement := by
  induction rules with
  | nil => rfl
  | cons r rules ih =>
    rw [List.map_cons, ofRules, ofRule, ih, List.map_cons, List.singleton_append]

theorem Context.writtenRules_of_not {settings : Settings} (h : settings.optimize = false)
    (rules : List LeafRule) : writtenRules settings rules = rules.map .leaf := by
  rw [writtenRules, h, if_neg Bool.false_ne_true]

/-! ## What lines have from rules -/

/-- The conditions of the rule have one property, and its action has another. -/
structure LeafRule.Has (C : Clause → Prop) (A : Action → Prop) (r : LeafRule) : Prop where
  conditions : ∀ c ∈ r.conditions, C c
  action : ∀ a, r.action = some a → A a

/-- All lines have a property if the conditions of rules have one and their actions have
another. That of the conditions survives merging. -/
structure ConfigLine.Inherits (C : Clause → Prop) (A : Action → Prop) (P : ConfigLine → Prop) :
    Prop where
  frame : ∀ line : ConfigLine, line.isFrame = true → P line
  block : ∀ c, C c → P (.openBlock c)
  statement : ∀ r : LeafRule, r.Has C A → P (.statement r)
  merged : ∀ c d items more, C c → C d → c.value.items? = some items →
    d.value.items? = some more → C { c with value := .list (items ++ more) }

section
variable {C : Clause → Prop} {A : Action → Prop} {P : ConfigLine → Prop}

namespace ConfigLine.Inherits

mutual

theorem of_rule (h : Inherits C A P) : ∀ rule : Rule, Rule.Every C [rule] →
    (∀ a ∈ Rule.actionsAll [rule], A a) → ∀ line ∈ ofRule rule, P line
  | .leaf r, hclauses, hactions => by
    rw [Rule.actionsAll_leaf] at hactions
    have haction : ∀ a, r.action = some a → A a := fun a ha => hactions a (by simp [ha])
    rw [ofRule]
    exact List.forall_mem_singleton.mpr
      (h.statement r ⟨(Rule.Every.cons_leaf.mp hclauses).1, haction⟩)
  | .block c children, hclauses, hactions => by
    obtain ⟨hc, hchildren, _⟩ := Rule.Every.cons_block.mp hclauses
    rw [Rule.actionsAll_block, List.forall_mem_append] at hactions
    rw [ofRule]
    refine List.forall_mem_append.mpr ⟨List.forall_mem_cons.mpr ⟨h.block c hc, ?_⟩, ?_⟩
    · exact of_rules h children hchildren hactions.1
    · exact List.forall_mem_singleton.mpr (h.frame .close rfl)

/-- However deep the blocks are nested, the lines have it from all clauses and all
actions. -/
theorem of_rules (h : Inherits C A P) : ∀ rules : List Rule, Rule.Every C rules →
    (∀ a ∈ Rule.actionsAll rules, A a) → ∀ line ∈ ofRules rules, P line
  | [], _, _ => List.forall_mem_nil _
  | rule :: rest, hclauses, hactions => by
    obtain ⟨hrule, hrest⟩ := Rule.Every.cons.mp hclauses
    rw [Rule.actionsAll_cons, List.forall_mem_append] at hactions
    rw [ofRules]
    exact List.forall_mem_append.mpr
      ⟨of_rule h rule hrule hactions.1, of_rules h rest hrest hactions.2⟩

end

/-- No pass makes an action, and those that make a condition keep what it has. -/
theorem written (h : Inherits C A P) (settings : Settings) {rules : List LeafRule}
    (hrules : ∀ r ∈ rules, r.Has C A) :
    ∀ line ∈ ofRules (Context.writtenRules settings rules), P line := by
  have hclauses : Rule.Every C (rules.map .leaf) := by
    rw [Rule.Every, Rule.clausesAll_map_leaf]
    exact List.forall_mem_flatMap.mpr fun r hr => (hrules r hr).conditions
  have hactions : ∀ a ∈ Rule.actionsAll (rules.map .leaf), A a := by
    intro a ha
    rw [Rule.actionsAll, Rule.flattenAll_map_leaf] at ha
    obtain ⟨r, hr, hra⟩ := List.mem_filterMap.mp ha
    exact (hrules r hr).action a hra
  unfold Context.writtenRules
  split
  · exact h.of_rules _ (hclauses.optimize h.merged) fun a ha =>
      hactions a (Rule.actionsAll_optimize _ ha)
  · exact h.of_rules _ hclauses hactions

end ConfigLine.Inherits

namespace Context

variable {settings : Settings} {ctx mid : Context} {events : List Event}

theorem Move.lines (hs : ConfigLine.Inherits C A P) (hr : ∀ r ∈ ctx.rules, r.Has C A)
    (h : Move settings ctx events mid) :
    (∀ line ∈ configLines events, P line) ∧ ∀ r ∈ mid.rules, r.Has C A := by
  have hclose : P .close := hs.frame .close rfl
  cases h with
  | hint => exact ⟨List.forall_mem_nil _, hr⟩
  | policy => exact ⟨List.forall_mem_nil _, hr⟩
  | closeChain hc =>
    rw [closeChain_lines hc]
    refine ⟨List.forall_mem_append.mpr ⟨hs.written settings hr, ?_⟩, List.forall_mem_nil _⟩
    exact List.forall_mem_singleton.mpr hclose
  | closeTable hc ht =>
    rw [closeTable_lines hc ht]
    refine ⟨List.forall_mem_append.mpr ⟨fun line hline => ?_, ?_⟩, hr⟩
    · exact hs.frame line (frame_policies ctx.policies line hline)
    · exact List.forall_mem_singleton.mpr hclose
  | openChain chain =>
    rw [openChain_lines]
    exact ⟨fun line hline => hs.frame line (policyLines_frame chain _ line hline), hr⟩
  | closeDomain | openDomain | openTable | emptyChain =>
    exact ⟨List.forall_mem_singleton.mpr (hs.frame _ rfl), hr⟩
  | report he =>
    simp only [configLines, List.filterMap_cons, he]
    exact ⟨List.forall_mem_nil _, hr⟩

theorem Moves.lines (hs : ConfigLine.Inherits C A P) (hr : ∀ r ∈ ctx.rules, r.Has C A)
    (h : Moves settings ctx events mid) :
    (∀ line ∈ configLines events, P line) ∧ ∀ r ∈ mid.rules, r.Has C A := by
  induction h with
  | refl => exact ⟨List.forall_mem_nil _, hr⟩
  | step hm _ ih =>
    obtain ⟨hlines, hmid⟩ := hm.lines hs hr
    obtain ⟨hmore, hlast⟩ := ih hmid
    rw [configLines_append]
    exact ⟨List.forall_mem_append.mpr ⟨hlines, hmore⟩, hlast⟩

end Context

end

theorem DumpLine.rules_read {registry : Registry} {line : DumpLine} {r : LeafRule}
    (h : r ∈ line.rules registry) : ∃ options, LeafRule.ofText registry options = .ok r := by
  cases line with
  | rule chain options =>
    cases ho : LeafRule.ofText registry options with
    | error => simp [rules, ho, Except.toOption] at h
    | ok read =>
      have hread : r = read := by simpa [rules, ho, Except.toOption] using h
      exact ⟨options, hread ▸ ho⟩
  | _ => cases h

/-! ## Texts -/

theorem LeafRule.has_of_text {registry : Registry} {text : String} {r : LeafRule}
    (h : ofText registry text = .ok r) : r.Has Clause.Writable (Action.Writable registry) := by
  unfold ofText at h
  obtain ⟨tokens, _, hr⟩ := bind_ok h
  obtain ⟨hconditions, haction⟩ := writable_iff.mp (writable_of_tokens hr)
  exact ⟨hconditions, haction⟩

theorem ConfigLine.inherits_writable (registry : Registry) :
    Inherits Clause.Writable (Action.Writable registry) (Writable registry) where
  frame line hline := by
    cases line with
    | openBlock | statement => cases hline
    | _ => exact ⟨_, rfl⟩
  block c hc := by
    obtain ⟨text, htext⟩ := hc
    exact ⟨text ++ " \x7b", by rw [render, htext]; rfl⟩
  statement r hr := LeafRule.writable_iff.mpr ⟨hr.conditions, hr.action⟩
  merged _ _ _ _ _ _ _ _ := Clause.writable_list rfl

end FermRules
