import FermRules.Rule.Meaning
import FermRules.Rule.Merge

/-! # What the passes do to the leaves

Flattening puts the conditions of the blocks around a leaf in front of it.
Factoring keeps the flattened leaves up to definitions: a grafted rule becomes
the first leaf, whatever it is joined with. It makes no clause and no action of
its own, so what holds of all that it is given holds of all that it returns. -/
namespace FermRules

namespace Rule

@[simp] theorem flattenAll_nil : flattenAll [] = [] := rfl

@[simp] theorem flattenAll_leaf (r : LeafRule) (rest : List Rule) :
    flattenAll (leaf r :: rest) = r :: flattenAll rest := by
  rw [flattenAll, flatten, List.singleton_append]

@[simp] theorem flattenAll_block (c : Clause) (children rest : List Rule) :
    flattenAll (block c children :: rest)
      = (flattenAll children).map (LeafRule.under c) ++ flattenAll rest := by
  rw [flattenAll, flatten]

theorem map_bare_under (c : Clause) (rules : List LeafRule) :
    (rules.map (LeafRule.under c)).map LeafRule.bare
      = (rules.map LeafRule.bare).map (LeafRule.under c.bare) := by
  simp [LeafRule.bare, LeafRule.under]

/-! ## Factoring -/

theorem bare_flattenAll_graft (action : Option Action) (conditions : List Clause)
    (rules : List Rule) :
    (flattenAll (graft action conditions rules)).map LeafRule.bare
      = LeafRule.bare ⟨conditions, action⟩ :: (flattenAll rules).map LeafRule.bare := by
  fun_induction graft action conditions rules with
  | case1 rules => rw [flattenAll_leaf, List.map_cons]
  | case2 c conditions d others other rest hs ih =>
    have hb : c.bare = d.bare := hs
    rw [flattenAll_block, List.map_append, map_bare_under, ih, hb]
    simp [LeafRule.under, LeafRule.bare, hb]
  | case3 c conditions d others other rest hs => rw [flattenAll_leaf, List.map_cons]
  | case4 c conditions d children rest hs ih =>
    have hb : c.bare = d.bare := hs
    rw [flattenAll_block, List.map_append, map_bare_under, ih, flattenAll_block,
      List.map_append, map_bare_under, hb]
    simp [LeafRule.under, LeafRule.bare, hb]
  | case5 c conditions d children rest hs => rw [flattenAll_leaf, List.map_cons]
  | case6 c conditions rules _ _ => rw [flattenAll_leaf, List.map_cons]

/-- Factoring loses no leaf and no condition, and keeps them in order. -/
theorem bare_flattenAll_factor (rules : List Rule) :
    (flattenAll (factor rules)).map LeafRule.bare = (flattenAll rules).map LeafRule.bare := by
  fun_induction factor rules with
  | case1 => rfl
  | case2 rule rest _ ih => rw [bare_flattenAll_graft, ih, flattenAll_leaf, List.map_cons]
  | case3 rule rest _ ih => rw [flattenAll_leaf, flattenAll_leaf, List.map_cons, List.map_cons, ih]
  | case4 shared children rest ih =>
    rw [flattenAll_block, flattenAll_block, List.map_append, List.map_append, ih]

/-! ## Properties of all conditions -/

mutual

/-- The conditions of a rule, those of its blocks included. -/
def clauses : Rule → List Clause
  | leaf r => r.conditions
  | block c children => c :: clausesAll children

def clausesAll : List Rule → List Clause
  | [] => []
  | rule :: rest => clauses rule ++ clausesAll rest

end

theorem clausesAll_map_leaf (rules : List LeafRule) :
    clausesAll (rules.map leaf) = rules.flatMap LeafRule.conditions := by
  induction rules with
  | nil => rfl
  | cons r rest ih => simp [clausesAll, clauses, ih]

def Every (P : Clause → Prop) (rules : List Rule) : Prop := ∀ c ∈ clausesAll rules, P c

namespace Every

variable {P : Clause → Prop}

theorem nil : Every P [] := fun _ hc => absurd hc List.not_mem_nil

theorem cons_leaf {r : LeafRule} {rest : List Rule} :
    Every P (leaf r :: rest) ↔ (∀ c ∈ r.conditions, P c) ∧ Every P rest := by
  simp only [Every, clausesAll, clauses, List.forall_mem_append]

theorem cons_block {c : Clause} {children rest : List Rule} :
    Every P (block c children :: rest) ↔ P c ∧ Every P children ∧ Every P rest := by
  simp only [Every, clausesAll, clauses, List.forall_mem_append, List.forall_mem_cons, and_assoc]

theorem cons {rule : Rule} {rest : List Rule} :
    Every P (rule :: rest) ↔ Every P [rule] ∧ Every P rest := by
  simp only [Every, clausesAll, List.forall_mem_append, List.append_nil]

theorem graft {action : Option Action} {conditions : List Clause} {rules : List Rule}
    (hc : ∀ c ∈ conditions, P c) (hr : Every P rules) :
    Every P (Rule.graft action conditions rules) := by
  fun_induction Rule.graft action conditions rules with
  | case1 rules => exact cons_leaf.mpr ⟨hc, hr⟩
  | case2 c conditions d others other rest hs ih =>
    obtain ⟨hd, hrest⟩ := cons_leaf.mp hr
    refine cons_block.mpr ⟨hc c List.mem_cons_self, ih ?_ ?_, hrest⟩
    · exact fun e he => hc e (List.mem_cons_of_mem _ he)
    · exact cons_leaf.mpr ⟨fun e he => hd e (List.mem_cons_of_mem _ he), nil⟩
  | case4 c conditions d children rest hs ih =>
    obtain ⟨_, hch, hrest⟩ := cons_block.mp hr
    refine cons_block.mpr ⟨hc c List.mem_cons_self, ih ?_ hch, hrest⟩
    exact fun e he => hc e (List.mem_cons_of_mem _ he)
  | case3 | case5 | case6 => exact cons_leaf.mpr ⟨hc, hr⟩

theorem factor {rules : List Rule} (h : Every P rules) : Every P (Rule.factor rules) := by
  fun_induction Rule.factor rules with
  | case1 => exact nil
  | case2 rule rest _ ih =>
    obtain ⟨hr, hrest⟩ := cons_leaf.mp h
    exact graft hr (ih hrest)
  | case3 rule rest _ ih =>
    obtain ⟨hr, hrest⟩ := cons_leaf.mp h
    exact cons_leaf.mpr ⟨hr, ih hrest⟩
  | case4 shared children rest ih =>
    obtain ⟨hc, hch, hrest⟩ := cons_block.mp h
    exact cons_block.mpr ⟨hc, hch, ih hrest⟩

end Every

/-! ## Actions -/

/-- The actions of the leaves, in order. -/
def actionsAll (rules : List Rule) : List Action := (flattenAll rules).filterMap LeafRule.action

theorem actionsAll_leaf (r : LeafRule) (rest : List Rule) :
    actionsAll (leaf r :: rest) = r.action.toList ++ actionsAll rest := by
  rw [actionsAll, flattenAll_leaf, List.filterMap_cons, actionsAll]
  cases r.action <;> rfl

theorem actionsAll_block (c : Clause) (children rest : List Rule) :
    actionsAll (block c children :: rest) = actionsAll children ++ actionsAll rest := by
  rw [actionsAll, flattenAll_block, List.filterMap_append, List.filterMap_map, actionsAll,
    actionsAll]
  rfl

theorem actionsAll_cons (rule : Rule) (rest : List Rule) :
    actionsAll (rule :: rest) = actionsAll [rule] ++ actionsAll rest := by
  cases rule with
  | leaf r => rw [actionsAll_leaf, actionsAll_leaf, actionsAll, List.append_assoc]; rfl
  | block c children =>
    rw [actionsAll_block, actionsAll_block, List.append_assoc]; rfl

theorem actionsAll_graft (action : Option Action) (conditions : List Clause)
    (rules : List Rule) :
    actionsAll (graft action conditions rules) = action.toList ++ actionsAll rules := by
  fun_induction graft action conditions rules with
  | case2 c conditions d others other rest hs ih =>
    rw [actionsAll_block, ih, actionsAll_leaf, actionsAll_leaf]
    simp [actionsAll]
  | case4 c conditions d children rest hs ih =>
    rw [actionsAll_block, ih, actionsAll_block, List.append_assoc]
  | case1 | case3 | case5 | case6 => rw [actionsAll_leaf]

theorem actionsAll_factor (rules : List Rule) : actionsAll (factor rules) = actionsAll rules := by
  fun_induction factor rules with
  | case1 => rfl
  | case2 rule rest _ ih => rw [actionsAll_graft, ih, actionsAll_leaf]
  | case3 rule rest _ ih => rw [actionsAll_leaf, actionsAll_leaf, ih]
  | case4 shared children rest ih => rw [actionsAll_block, actionsAll_block, ih]

mutual

theorem clauses_flatten {P : Clause → Prop} : ∀ rule : Rule, (∀ c ∈ clauses rule, P c) →
    ∀ r ∈ flatten rule, ∀ c ∈ r.conditions, P c
  | leaf r, h => by simpa [flatten, clauses] using h
  | block shared children, h => by
    obtain ⟨hs, hch⟩ := List.forall_mem_cons.mp h
    intro r hr
    obtain ⟨s, hm, rfl⟩ := List.mem_map.mp hr
    exact List.forall_mem_cons.mpr ⟨hs, clauses_flattenAll children hch s hm⟩

theorem clauses_flattenAll {P : Clause → Prop} : ∀ rules : List Rule, Every P rules →
    ∀ r ∈ flattenAll rules, ∀ c ∈ r.conditions, P c
  | [], _ => by simp
  | rule :: rest, h => by
    obtain ⟨hr, hrest⟩ := List.forall_mem_append.mp h
    exact List.forall_mem_append.mpr
      ⟨clauses_flatten rule hr, clauses_flattenAll rest hrest⟩

end

end Rule

end FermRules
