import FermRules.Proofs.Flatten
import Mathlib.Logic.Relation

/-! # Merging in small steps

Merging is a sequence of steps, each of which unites two neighbours, collapses
one block, or does either of these further inside or further behind. A property
that no step destroys is a property of the merged rules, so the recursion of
the pass is followed here once and for all. -/
namespace FermRules

namespace Rule

open Relation (ReflTransGen)

/-- Two leaves that agree behind their first conditions, and the leaf that
stands for both. -/
inductive Unites : Rule → Rule → Rule → Prop
  | leaves {c d : Clause} {items more : List String} {conditions others : List Clause}
      {action other : Option Action} :
      c.value.items? = some items → d.value.items? = some more →
      c.mergeable = true → c.keyword = d.keyword →
      conditions.map Clause.bare = others.map Clause.bare →
      action.map Action.bare = other.map Action.bare →
      Unites (leaf ⟨c :: conditions, action⟩) (leaf ⟨d :: others, other⟩)
        (leaf ⟨{ c with value := .list (items ++ more) } :: conditions, action⟩)

theorem unites_of_unite? {a b both : Rule} (h : unite? a b = some both) : Unites a b both := by
  unfold unite? at h
  split at h
  case h_2 => cases h
  case h_1 a b =>
    obtain ⟨r, hr, rfl⟩ := Option.map_eq_some_iff.mp h
    unfold LeafRule.unite? at hr
    split at hr
    case h_2 => cases hr
    case h_1 c conditions action d others other =>
      split at hr
      case isFalse => cases hr
      case isTrue hs =>
        obtain ⟨head, hu, rfl⟩ := Option.map_eq_some_iff.mp hr
        simp only [LeafRule.sameBehind, Bool.and_eq_true, decide_eq_true_eq] at hs
        unfold Clause.unite? at hu
        split at hu
        case h_2 => cases hu
        case h_1 items more hi hm =>
          split at hu
          case isFalse => cases hu
          case isTrue hc =>
            simp only [Bool.and_eq_true, decide_eq_true_eq] at hc
            cases hu
            exact .leaves hi hm hc.1 hc.2 hs.1 hs.2

inductive MergeStep : List Rule → List Rule → Prop
  | unite {a b both : Rule} {rest : List Rule} :
      Unites a b both → MergeStep (a :: b :: rest) (both :: rest)
  | collapse {c : Clause} {r : LeafRule} {rest : List Rule} :
      MergeStep (block c [leaf r] :: rest) (leaf (r.under c) :: rest)
  | inside {c : Clause} {children merged rest : List Rule} :
      MergeStep children merged → MergeStep (block c children :: rest) (block c merged :: rest)
  | behind {rule : Rule} {rest merged : List Rule} :
      MergeStep rest merged → MergeStep (rule :: rest) (rule :: merged)

theorem steps_behind {rule : Rule} {rest merged : List Rule}
    (h : ReflTransGen MergeStep rest merged) :
    ReflTransGen MergeStep (rule :: rest) (rule :: merged) :=
  h.lift (rule :: ·) fun _ _ => .behind

theorem steps_inside {c : Clause} {children merged rest : List Rule}
    (h : ReflTransGen MergeStep children merged) :
    ReflTransGen MergeStep (block c children :: rest) (block c merged :: rest) :=
  h.lift (block c · :: rest) fun _ _ => .inside

theorem steps_absorb (rule : Rule) (rest : List Rule) :
    ReflTransGen MergeStep (rule :: rest) (absorb rule rest) := by
  induction rest generalizing rule with
  | nil => exact .refl
  | cons next rest ih =>
    unfold absorb
    split
    case h_1 both h => exact .head (.unite (unites_of_unite? h)) (ih both)
    case h_2 => exact steps_behind (ih next)

theorem steps_mergeSiblings (rules : List Rule) :
    ReflTransGen MergeStep rules (mergeSiblings rules) := by
  cases rules with
  | nil => exact .refl
  | cons first rest => exact steps_absorb first rest

theorem steps_collapse (c : Clause) (children rest : List Rule) :
    ReflTransGen MergeStep (block c children :: rest) (collapse c children :: rest) := by
  unfold collapse
  split
  · exact .single .collapse
  · exact .refl

mutual

theorem steps_mergeInside : ∀ (rule : Rule) (rest : List Rule),
    ReflTransGen MergeStep (rule :: rest) (mergeInside rule :: rest)
  | leaf _, _ => .refl
  | block c children, rest => by
    have hch := (steps_mergeInsideAll children).trans (steps_mergeSiblings _)
    exact (steps_inside hch).trans (steps_collapse c _ rest)

theorem steps_mergeInsideAll : ∀ rules : List Rule,
    ReflTransGen MergeStep rules (mergeInsideAll rules)
  | [] => .refl
  | rule :: rest =>
    (steps_mergeInside rule rest).trans (steps_behind (steps_mergeInsideAll rest))

end

theorem steps_merge (rules : List Rule) : ReflTransGen MergeStep rules (merge rules) :=
  (steps_mergeInsideAll rules).trans (steps_mergeSiblings _)

/-- What no step destroys holds of the merged rules. -/
theorem merge_of_step {P : List Rule → Prop} (hP : ∀ a b, MergeStep a b → P a → P b)
    {rules : List Rule} (h : P rules) : P (merge rules) := by
  have hall : ∀ merged, ReflTransGen MergeStep rules merged → P merged := by
    intro merged hs
    induction hs with
    | refl => exact h
    | tail _ hlast ih => exact hP _ _ hlast ih
  exact hall _ (steps_merge rules)

/-! ## Properties of all conditions and actions -/

/-- A condition that is no array from the start becomes one only with items of
conditions that were there. -/
theorem Every.step {P : Clause → Prop}
    (hv : ∀ c d items more, P c → P d → c.value.items? = some items →
      d.value.items? = some more → P { c with value := .list (items ++ more) })
    {a b : List Rule} (h : MergeStep a b) (ha : Every P a) : Every P b := by
  induction h with
  | unite hu =>
    cases hu with
    | leaves hi hm =>
      obtain ⟨hc, hrest⟩ := cons_leaf.mp ha
      obtain ⟨hd, hrest⟩ := cons_leaf.mp hrest
      obtain ⟨hfirst, hconditions⟩ := List.forall_mem_cons.mp hc
      have hunited := hv _ _ _ _ hfirst (hd _ List.mem_cons_self) hi hm
      exact cons_leaf.mpr ⟨List.forall_mem_cons.mpr ⟨hunited, hconditions⟩, hrest⟩
  | collapse =>
    obtain ⟨hc, hr, hrest⟩ := cons_block.mp ha
    exact cons_leaf.mpr ⟨List.forall_mem_cons.mpr ⟨hc, (cons_leaf.mp hr).1⟩, hrest⟩
  | inside _ ih =>
    obtain ⟨hc, hch, hrest⟩ := cons_block.mp ha
    exact cons_block.mpr ⟨hc, ih hch, hrest⟩
  | behind _ ih =>
    obtain ⟨hr, hrest⟩ := cons.mp ha
    exact cons.mpr ⟨hr, ih hrest⟩

theorem Every.optimize {P : Clause → Prop}
    (hv : ∀ c d items more, P c → P d → c.value.items? = some items →
      d.value.items? = some more → P { c with value := .list (items ++ more) })
    {rules : List Rule} (h : Every P rules) : Every P (Rule.optimize rules) :=
  merge_of_step (fun _ _ hs ha => ha.step hv hs) h.factor

/-- Of two leaves that are united the second loses its action, which is that of
the first. -/
theorem actionsAll_step {a b : List Rule} (h : MergeStep a b) : actionsAll b ⊆ actionsAll a := by
  induction h with
  | unite hu =>
    cases hu with
    | leaves =>
      rw [actionsAll_leaf, actionsAll_leaf, actionsAll_leaf]
      exact List.append_subset.mpr ⟨List.subset_append_left _ _,
        List.Subset.trans (List.subset_append_right _ _) (List.subset_append_right _ _)⟩
  | @collapse c r rest =>
    rw [actionsAll_leaf, actionsAll_block, actionsAll_leaf]
    simp [actionsAll, LeafRule.under]
  | inside _ ih =>
    rw [actionsAll_block, actionsAll_block]
    exact List.append_subset.mpr ⟨List.Subset.trans ih (List.subset_append_left _ _),
      List.subset_append_right _ _⟩
  | @behind rule rest merged _ ih =>
    rw [actionsAll_cons rule merged, actionsAll_cons rule rest]
    exact List.append_subset.mpr ⟨List.subset_append_left _ _,
      List.Subset.trans ih (List.subset_append_right _ _)⟩

theorem actionsAll_optimize (rules : List Rule) :
    actionsAll (optimize rules) ⊆ actionsAll rules := by
  have hmerged : actionsAll (merge (factor rules)) ⊆ actionsAll (factor rules) :=
    merge_of_step (P := fun merged => actionsAll merged ⊆ actionsAll (factor rules))
      (fun _ _ hs ha => List.Subset.trans (actionsAll_step hs) ha) (List.Subset.refl _)
  rwa [actionsAll_factor] at hmerged

end Rule

end FermRules
