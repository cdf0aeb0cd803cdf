import FermRules.Proofs.Joining
import FermRules.Proofs.Merging

/-! # Optimized rules are legal

The children of a block are read behind its header, so they have to be legal
there. Factoring moves a clause from the front of a rule to the header of the
block around it, which changes nothing for what follows. Merging makes an array
of two values, and the rest of the rule is legal behind the array as it was
legal behind each of the values. -/
namespace FermRules

namespace Rule

variable {registry : Registry}

mutual

/-- The rule is legal where the headers of the blocks around it have been read. -/
def LegalAt (registry : Registry) (e : Known) : Rule → Prop
  | leaf r => r.Legal registry e
  | block c children => c.Legal registry e ∧ AllLegalAt registry (e.after registry c) children

def AllLegalAt (registry : Registry) (e : Known) : List Rule → Prop
  | [] => True
  | rule :: rest => LegalAt registry e rule ∧ AllLegalAt registry e rest

end

theorem allLegalAt_leaf {e : Known} {r : LeafRule} {rest : List Rule} :
    AllLegalAt registry e (leaf r :: rest)
      ↔ r.Legal registry e ∧ AllLegalAt registry e rest := by
  rw [AllLegalAt, LegalAt]

theorem allLegalAt_block {e : Known} {c : Clause} {children rest : List Rule} :
    AllLegalAt registry e (block c children :: rest)
      ↔ c.Legal registry e ∧ AllLegalAt registry (e.after registry c) children
        ∧ AllLegalAt registry e rest := by
  rw [AllLegalAt, LegalAt, and_assoc]

theorem allLegalAt_map_leaf {e : Known} {rules : List LeafRule}
    (h : ∀ r ∈ rules, r.Legal registry e) : AllLegalAt registry e (rules.map leaf) := by
  induction rules with
  | nil => trivial
  | cons r rest ih =>
    obtain ⟨hr, hrest⟩ := List.forall_mem_cons.mp h
    exact allLegalAt_leaf.mpr ⟨hr, ih hrest⟩

/-! ## Factoring -/

theorem AllLegalAt.graft {e : Known} {action : Option Action} {conditions : List Clause}
    {rules : List Rule} (hr : LeafRule.Legal registry e ⟨conditions, action⟩)
    (h : AllLegalAt registry e rules) :
    AllLegalAt registry e (Rule.graft action conditions rules) := by
  fun_induction Rule.graft action conditions rules generalizing e with
  | case1 | case3 | case5 | case6 => exact allLegalAt_leaf.mpr ⟨hr, h⟩
  | case2 c conditions d others other rest hs ih =>
    obtain ⟨hd, hrest⟩ := allLegalAt_leaf.mp h
    obtain ⟨hc, hconditions⟩ := LeafRule.legal_under (r := ⟨conditions, action⟩) |>.mp hr
    obtain ⟨_, hothers⟩ := LeafRule.legal_under (r := ⟨others, other⟩) |>.mp hd
    rw [← e.after_of_same hs] at hothers
    exact allLegalAt_block.mpr ⟨hc, ih hconditions (allLegalAt_leaf.mpr ⟨hothers, trivial⟩), hrest⟩
  | case4 c conditions d children rest hs ih =>
    obtain ⟨_, hchildren, hrest⟩ := allLegalAt_block.mp h
    obtain ⟨hc, hconditions⟩ := LeafRule.legal_under (r := ⟨conditions, action⟩) |>.mp hr
    rw [← e.after_of_same hs] at hchildren
    exact allLegalAt_block.mpr ⟨hc, ih hconditions hchildren, hrest⟩

theorem AllLegalAt.factor {e : Known} {rules : List Rule} (h : AllLegalAt registry e rules) :
    AllLegalAt registry e (Rule.factor rules) := by
  fun_induction Rule.factor rules with
  | case1 => trivial
  | case2 r rest _ ih =>
    obtain ⟨hr, hrest⟩ := allLegalAt_leaf.mp h
    exact (ih hrest).graft hr
  | case3 r rest _ ih =>
    obtain ⟨hr, hrest⟩ := allLegalAt_leaf.mp h
    exact allLegalAt_leaf.mpr ⟨hr, ih hrest⟩
  | case4 c children rest ih =>
    obtain ⟨hc, hchildren, hrest⟩ := allLegalAt_block.mp h
    exact allLegalAt_block.mpr ⟨hc, hchildren, ih hrest⟩

end Rule

/-! ## Arrays -/

theorem Clause.Legal.items {registry : Registry} {e : Known} {c : Clause}
    (h : c.Legal registry e) {items : List String} (hi : c.value.items? = some items) :
    ∀ s ∈ items, Text.Over Value.noFeed s := by
  cases h with
  | modules _ _ _ hover _ =>
    cases hi
    exact hover
  | @option k p v _ _ _ hv =>
    cases p with
    | leading | trailing => cases hi
    | plain => exact hv.items hi

/-- A mergeable clause with items is no list of modules, and it carries no
negation. -/
theorem Clause.Legal.of_mergeable {registry : Registry} {e : Known} {c : Clause}
    (h : c.Legal registry e) (hm : c.mergeable = true) {items : List String}
    (hi : c.value.items? = some items) : ∃ k : Keyword,
      c = ⟨k.name, c.value, some k⟩ ∧ e.scope k.name = some k ∧ k.Legible registry ∧
      (k.shape = .scalar ∨ k.shape = .list) := by
  cases h with
  | modules => cases hm
  | @option k p v hk hleg _ hv =>
    have hkm : k.mergeable = true := hm
    simp only [Keyword.mergeable, Bool.and_eq_true, Bool.or_eq_true, decide_eq_true_eq] at hkm
    cases p with
    | leading | trailing => cases hi
    | plain => exact ⟨k, rfl, hk, hleg, hkm.1⟩

theorem Clause.Legal.ne_match {registry : Registry} {e : Known} {c : Clause}
    (h : c.Legal registry e) (hm : c.mergeable = true) : c.keyword ≠ "match" := by
  intro hk
  obtain ⟨names, rfl, _⟩ := h.modules_of_keyword hk
  cases hm

/-- The clause with an array of its items and more. -/
theorem Clause.Legal.array {registry : Registry} {e : Known} {c : Clause}
    (h : c.Legal registry e) (hm : c.mergeable = true) {items more : List String}
    (hi : c.value.items? = some items) (hmore : ∀ s ∈ more, Text.Over Value.noFeed s) :
    Clause.Legal registry e { c with value := .list (items ++ more) } := by
  obtain ⟨k, heq, hk, hleg, hshape⟩ := h.of_mergeable hm hi
  have hall : ∀ s ∈ items ++ more, Text.Over Value.noFeed s :=
    List.forall_mem_append.mpr ⟨h.items hi, hmore⟩
  have hfits : (Value.list (items ++ more)).Fits Value.noFeed k.shape := by
    rcases hshape with hs | hs
    · rw [hs]
      exact .array hall
    · rw [hs]
      exact .list hall
  rw [heq]
  exact .option (p := .plain) hk hleg trivial hfits

/-! ## Merging -/

namespace Rule

variable {registry : Registry}

theorem legal_unite (hr : registry.Legible) {e : Known} (he : e.Sound registry) {a b both : Rule}
    (h : Unites a b both) (ha : LegalAt registry e a) (hb : LegalAt registry e b) :
    LegalAt registry e both := by
  cases h with
  | @leaves c d items more conditions others action other hi hm hc hk hsame hact =>
    rw [LegalAt] at ha hb ⊢
    obtain ⟨hcl, hconditions⟩ := LeafRule.legal_under (r := ⟨conditions, action⟩) |>.mp ha
    obtain ⟨hdl, hothers⟩ := LeafRule.legal_under (r := ⟨others, other⟩) |>.mp hb
    have hjoins := Known.joins_array hr he hk (hcl.ne_match hc) hi hm
    obtain ⟨hall, hbehind⟩ := hjoins.legalAll hr hconditions.conditions hothers.conditions hsame
    refine ⟨⟨hcl.array hc hi (hdl.items hm), hall⟩, fun act heq => ?_⟩
    dsimp only at heq
    subst heq
    obtain ⟨twin, rfl, htwin⟩ := Option.map_eq_some_iff.mp hact.symm
    exact hbehind.action hr (hconditions.action act rfl) (hothers.action twin rfl) htwin.symm

theorem AllLegalAt.step (hr : registry.Legible) {rules merged : List Rule}
    (h : MergeStep rules merged) {e : Known} (he : e.Sound registry)
    (hl : AllLegalAt registry e rules) : AllLegalAt registry e merged := by
  induction h generalizing e with
  | unite hu => exact ⟨legal_unite hr he hu hl.1 hl.2.1, hl.2.2⟩
  | @collapse c r rest =>
    obtain ⟨hc, hr, hrest⟩ := allLegalAt_block.mp hl
    exact allLegalAt_leaf.mpr ⟨LeafRule.legal_under.mpr ⟨hc, (allLegalAt_leaf.mp hr).1⟩, hrest⟩
  | inside _ ih =>
    obtain ⟨hc, hchildren, hrest⟩ := allLegalAt_block.mp hl
    exact allLegalAt_block.mpr ⟨hc, ih (he.after _) hchildren, hrest⟩
  | behind _ ih => exact ⟨hl.1, ih he hl.2⟩

theorem AllLegalAt.optimize (hr : registry.Legible) {e : Known} (he : e.Sound registry)
    {rules : List Rule} (h : AllLegalAt registry e rules) :
    AllLegalAt registry e (Rule.optimize rules) :=
  merge_of_step (fun _ _ hs hl => hl.step hr hs he) h.factor

end Rule

end FermRules
