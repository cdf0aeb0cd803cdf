import FermRules.Proofs.FactorRuns

/-! # Factored lists are normal forests

In a normal forest no two neighbours begin with the same condition, so each block
takes in all that it could, and no block stands for less than two leaves. A run of
leaves that a block of such a forest stands for ends where the block ends: the next
tree begins with another condition. Factoring the leaves therefore gives back the
forest, and there is no other one with these leaves. -/
namespace FermRules

namespace Rule

/-! ## Heads -/

/-- The condition that a rule begins with, if it has one. -/
def head? : Rule → Option Clause
  | leaf rule => rule.conditions.head?
  | block shared _ => some shared

/-- Both rules begin with a condition, and with the same one. -/
def SameHead (rule other : Rule) : Prop :=
  ∃ c ∈ rule.head?, ∃ d ∈ other.head?, c.Same d

theorem not_sameHead_bare (action : Option Action) (other : Rule) :
    ¬SameHead (leaf ⟨[], action⟩) other := by
  rintro ⟨c, hc, -⟩
  cases hc

theorem not_sameHead_congr {rule replaced other : Rule} {c d : Clause} (hsame : c.Same d)
    (hrule : replaced.head? = some d) (hreplaced : rule.head? = some c)
    (h : ¬SameHead replaced other) : ¬SameHead rule other := by
  rintro ⟨e, he, f, hf, hef⟩
  obtain rfl : c = e := Option.some.inj (hreplaced.symm.trans he)
  exact h ⟨d, hrule, f, hf, hsame.symm.trans hef⟩

theorem sharesFirst_iff {c : Clause} {r : LeafRule} :
    sharesFirst c (leaf r) = true ↔ ∃ d ∈ r.conditions.head?, d.Same c := by
  obtain ⟨conditions, action⟩ := r
  cases conditions with
  | nil => simp [sharesFirst]
  | cons d conditions => simp [sharesFirst]

/-! ## Normal forests -/

mutual

/-- Every block of the tree stands for at least two leaves. -/
def Normal : Rule → Prop
  | leaf _ => True
  | block shared children => 2 ≤ (flatten (block shared children)).length ∧ AllNormal children

/-- No two trees side by side, on any level, begin with the same condition. -/
def AllNormal : List Rule → Prop
  | [] => True
  | rule :: rest => Normal rule ∧ (∀ next ∈ rest.head?, ¬SameHead rule next) ∧ AllNormal rest

end

theorem length_flatten_block (c : Clause) (children : List Rule) :
    (flatten (block c children)).length = (flattenAll children).length := by
  rw [flatten, List.length_map]

theorem allNormal_singleton (r : LeafRule) : AllNormal [leaf r] :=
  ⟨trivial, fun _ h => (Option.not_mem_none _ h).elim, trivial⟩

/-- The first of the leaves begins with what the tree begins with. -/
theorem flatten_head {rule : Rule} (h : Normal rule) :
    ∃ r rest, flatten rule = r :: rest ∧ r.conditions.head? = rule.head? := by
  cases rule with
  | leaf r => exact ⟨r, [], rfl, rfl⟩
  | block c children =>
    obtain ⟨hlength, -⟩ := h
    rw [length_flatten_block] at hlength
    rw [flatten]
    cases hleaves : flattenAll children with
    | nil =>
      rw [hleaves] at hlength
      cases hlength
    | cons r rest => exact ⟨r.under c, rest.map (LeafRule.under c), rfl, rfl⟩

/-- The leaves behind a tree do not go on with its run. -/
theorem no_run_behind {rule : Rule} {rest : List Rule} {c : Clause} (hc : rule.head? = some c)
    (hapart : ∀ next ∈ rest.head?, ¬SameHead rule next) (h : AllNormal rest) :
    ∀ next ∈ ((flattenAll rest).map leaf).head?, sharesFirst c next = false := by
  cases rest with
  | nil =>
    intro next hnext
    cases hnext
  | cons other rest =>
    obtain ⟨r, more, hflat, hhead⟩ := flatten_head h.1
    intro next hnext
    rw [flattenAll, hflat] at hnext
    obtain rfl : leaf r = next := Option.some.inj hnext
    refine Bool.eq_false_iff.mpr fun hshares => hapart other rfl ?_
    obtain ⟨d, hd, hsame⟩ := sharesFirst_iff.mp hshares
    exact ⟨c, hc, d, hhead ▸ hd, hsame.symm⟩

theorem mapM_stripped?_under (c : Clause) (rules : List LeafRule) :
    ((rules.map (LeafRule.under c)).map leaf).mapM stripped? = some rules := by
  induction rules with
  | nil => rfl
  | cons r rest ih => rw [List.map_cons, List.map_cons, List.mapM_cons, ih]; rfl

/-- Factoring the leaves of a normal forest gives the forest. -/
theorem factor_flattenAll : ∀ forest : List Rule, AllNormal forest →
    factor ((flattenAll forest).map leaf) = forest
  | [], _ => rfl
  | leaf r :: rest, ⟨_, hapart, hrest⟩ => by
    obtain ⟨conditions, action⟩ := r
    rw [flattenAll_leaf, List.map_cons]
    cases conditions with
    | nil => rw [factor_bare, factor_flattenAll rest hrest]
    | cons c conditions =>
      have hbehind := no_run_behind (c := c) rfl hapart hrest
      have hfactor := factor_apart ⟨conditions, action⟩ hbehind
      rw [factor_flattenAll rest hrest] at hfactor
      exact hfactor
  | block c children :: rest, ⟨⟨hlength, hchildren⟩, hapart, hrest⟩ => by
    have hbehind := no_run_behind (c := c) rfl hapart hrest
    have hinner := factor_flattenAll children hchildren
    rw [length_flatten_block] at hlength
    rw [flattenAll_block, List.map_append]
    -- a block of two leaves and more is a run: one rule in front and others behind it
    obtain ⟨r, s, more, hleaves⟩ : ∃ r s more, flattenAll children = r :: s :: more := by
      match flattenAll children, hlength with
      | r :: s :: more, _ => exact ⟨r, s, more, rfl⟩
    rw [hleaves] at hinner ⊢
    have hmembers : ∀ m ∈ ((s :: more).map (LeafRule.under c)).map leaf,
        sharesFirst c m = true := by
      intro m hm
      obtain ⟨t, -, rfl⟩ := List.mem_map.mp (List.map_map ▸ hm)
      exact sharesFirst_iff.mpr ⟨c, rfl, rfl⟩
    have hfactor := factor_run (r := r) (List.cons_ne_nil _ _) hmembers hbehind
      (mapM_stripped?_under c (s :: more))
    rw [List.map_cons] at hinner
    rw [hinner, factor_flattenAll rest hrest] at hfactor
    exact hfactor

/-! ## Factoring makes normal forests -/

theorem length_flattenAll_graft (action : Option Action) (conditions : List Clause)
    (rules : List Rule) :
    (flattenAll (graft action conditions rules)).length = (flattenAll rules).length + 1 := by
  have hlength := congrArg List.length (bare_flattenAll_graft action conditions rules)
  rwa [List.length_map, List.length_cons, List.length_map] at hlength

theorem AllNormal.graft {action : Option Action} {conditions : List Clause} {rules : List Rule}
    (h : AllNormal rules) : AllNormal (Rule.graft action conditions rules) := by
  fun_induction Rule.graft action conditions rules with
  | case1 rules => exact ⟨trivial, fun _ _ => not_sameHead_bare _ _, h⟩
  | case2 c conditions d others other rest hsame ih =>
    obtain ⟨-, hapart, hrest⟩ := h
    have hlength := length_flattenAll_graft action conditions [leaf ⟨others, other⟩]
    refine ⟨⟨?_, ih (allNormal_singleton _)⟩, fun next hnext => ?_, hrest⟩
    · rw [length_flatten_block, hlength]
      exact Nat.le_refl _
    · exact not_sameHead_congr hsame rfl rfl (hapart next hnext)
  | case3 c conditions d others other rest hdiffer =>
    refine ⟨trivial, fun next hnext => ?_, h⟩
    obtain rfl := Option.some.inj hnext
    rintro ⟨_, ⟨⟩, _, ⟨⟩, hsame⟩
    exact hdiffer hsame
  | case4 c conditions d children rest hsame ih =>
    obtain ⟨⟨hlength, hchildren⟩, hapart, hrest⟩ := h
    rw [length_flatten_block] at hlength
    refine ⟨⟨?_, ih hchildren⟩, fun next hnext => ?_, hrest⟩
    · rw [length_flatten_block, length_flattenAll_graft]
      exact Nat.le_succ_of_le hlength
    · exact not_sameHead_congr hsame rfl rfl (hapart next hnext)
  | case5 c conditions d children rest hdiffer =>
    refine ⟨trivial, fun next hnext => ?_, h⟩
    obtain rfl := Option.some.inj hnext
    rintro ⟨_, ⟨⟩, _, ⟨⟩, hsame⟩
    exact hdiffer hsame
  | case6 c conditions rules hleaf hblock =>
    refine ⟨trivial, fun next hnext => ?_, h⟩
    rintro ⟨_, -, d, hd, -⟩
    cases rules with
    | nil => cases hnext
    | cons rule rest =>
      obtain rfl := Option.some.inj hnext
      cases rule with
      | block d children => exact hblock d children rest rfl
      | leaf r =>
        obtain ⟨conditions, other⟩ := r
        cases conditions with
        | nil => cases hd
        | cons d others => exact hleaf d others other rest rfl

theorem allNormal_factor (rules : List LeafRule) : AllNormal (factor (rules.map leaf)) := by
  induction rules with
  | nil => exact trivial
  | cons r rest ih =>
    cases rest with
    | nil => exact allNormal_singleton r
    | cons s rest =>
      rw [List.map_cons, List.map_cons, factor_leaf]
      exact AllNormal.graft ih

/-! ## Factoring what is normal -/

theorem graft_apart (r : LeafRule) {rules : List Rule}
    (h : ∀ next ∈ rules.head?, ¬SameHead (leaf r) next) :
    graft r.action r.conditions rules = leaf r :: rules := by
  obtain ⟨conditions, action⟩ := r
  fun_cases graft action conditions rules with
  | case2 c conditions d others other rest hsame
  | case4 c conditions d children rest hsame => exact (h _ rfl ⟨c, rfl, d, rfl, hsame⟩).elim
  | case1 | case3 | case5 | case6 => rfl

theorem factor_of_normal {forest : List Rule} (h : AllNormal forest) : factor forest = forest := by
  fun_induction factor forest with
  | case1 => rfl
  | case2 r rest _ ih =>
    obtain ⟨-, hapart, hrest⟩ := h
    rw [ih hrest, graft_apart r hapart]
  | case3 r rest _ ih => rw [ih h.2.2]
  | case4 c children rest ih => rw [ih h.2.2]

/-! ## Forests without definitions -/

mutual

/-- The rule with the definitions of its clauses forgotten. -/
def bare : Rule → Rule
  | leaf rule => leaf rule.bare
  | block shared children => block shared.bare (bareAll children)

def bareAll : List Rule → List Rule
  | [] => []
  | rule :: rest => bare rule :: bareAll rest

end

theorem flattenAll_bareAll : ∀ forest : List Rule,
    flattenAll (bareAll forest) = (flattenAll forest).map LeafRule.bare
  | [] => rfl
  | leaf r :: rest => by
    rw [bareAll, bare, flattenAll_leaf, flattenAll_bareAll rest, flattenAll_leaf, List.map_cons]
  | block c children :: rest => by
    rw [bareAll, bare, flattenAll_block, flattenAll_bareAll children, flattenAll_bareAll rest,
      flattenAll_block, List.map_append, map_bare_under]

theorem head?_bare (rule : Rule) : rule.bare.head? = rule.head?.map Clause.bare := by
  cases rule with
  | leaf r => exact List.head?_map
  | block => rfl

theorem sameHead_bare (rule other : Rule) :
    SameHead rule.bare other.bare ↔ SameHead rule other := by
  cases hrule : rule.head? with
  | none => simp [SameHead, head?_bare, hrule]
  | some c =>
    cases hother : other.head? with
    | none => simp [SameHead, head?_bare, hother]
    | some d =>
      simp only [SameHead, head?_bare, hrule, hother, Option.map_some, Option.mem_some_iff,
        exists_eq_left']
      exact Iff.rfl

theorem allNormal_bareAll (forest : List Rule) : AllNormal (bareAll forest) ↔ AllNormal forest := by
  cases forest with
  | nil => exact Iff.rfl
  | cons rule rest =>
    have hrest := allNormal_bareAll rest
    have hapart : (∀ next ∈ (bareAll rest).head?, ¬SameHead rule.bare next) ↔
        ∀ next ∈ rest.head?, ¬SameHead rule next := by
      cases rest with
      | nil => simp [bareAll]
      | cons next rest => simp [bareAll, sameHead_bare]
    have hrule : Normal rule.bare ↔ Normal rule := by
      cases rule with
      | leaf => exact Iff.rfl
      | block c children =>
        have hchildren := allNormal_bareAll children
        rw [bare, Normal, Normal, length_flatten_block, length_flatten_block,
          flattenAll_bareAll, List.length_map, hchildren]
    rw [bareAll, AllNormal, AllNormal, hrule, hapart, hrest]

/-- Up to definitions a normal forest is known by its leaves. -/
theorem bareAll_eq_of_flattenAll {forest other : List Rule} (h : AllNormal forest)
    (hother : AllNormal other)
    (hleaves : (flattenAll forest).map LeafRule.bare = (flattenAll other).map LeafRule.bare) :
    bareAll forest = bareAll other := by
  have hforest := factor_flattenAll _ ((allNormal_bareAll forest).mpr h)
  have hsame := factor_flattenAll _ ((allNormal_bareAll other).mpr hother)
  rw [flattenAll_bareAll, hleaves, ← flattenAll_bareAll] at hforest
  exact hforest.symm.trans hsame

/-- Factoring makes the one normal forest that has these leaves, up to definitions, and factoring
it once more changes nothing. -/
theorem factored_is_the_normal_forest (rules : List LeafRule) :
    ∃ factored, factorRuns (rules.map leaf) = some factored ∧
      factor (rules.map leaf) = factored ∧ AllNormal factored ∧
      (∀ forest, (AllNormal forest ∧
          (flattenAll forest).map LeafRule.bare = rules.map LeafRule.bare) ↔
        bareAll forest = bareAll factored) ∧
      factorRuns factored = some factored ∧ factor factored = factored := by
  have hnormal := allNormal_factor rules
  have hleaves := bare_flattenAll_factor (rules.map leaf)
  rw [flattenAll_map_leaf] at hleaves
  have hagain := factor_of_normal hnormal
  refine ⟨_, factorRuns_eq _, rfl, hnormal, fun forest => ⟨?_, fun hbare => ⟨?_, ?_⟩⟩, ?_, hagain⟩
  · rintro ⟨hforest, hsame⟩
    exact bareAll_eq_of_flattenAll hforest hnormal (hsame.trans hleaves.symm)
  · exact (allNormal_bareAll forest).mp (hbare ▸ (allNormal_bareAll _).mpr hnormal)
  · rw [← flattenAll_bareAll, hbare, flattenAll_bareAll, hleaves]
  · rw [factorRuns_eq, hagain]

end Rule

end FermRules
