import FermRules.Proofs.MergeRuns

/-! # Merged forests

In a merged forest no candidate stands in front of a rule that it could be merged
with, and no block holds a single leaf, on any level. Merging makes such forests. A
rule that takes in the one behind it keeps all but the items of its first condition,
so the rule in front of it is apart from it just as it was before; and where a block
collapses, its leaf is compared with its neighbours afterwards. Merging a forest
that is merged finds nothing to do, so it comes to its end in one pass. -/
namespace FermRules

namespace Rule

/-! ## Neighbours -/

/-- The rule may hold an array, and the one behind it differs from it in the value of the first
condition only. -/
def Joins (rule next : Rule) : Prop :=
  isCandidate? rule = some true ∧ differsInFirst? rule next = some true

theorem joins_of_unites {rule next both : Rule} (h : Unites rule next both) : Joins rule next := by
  refine ⟨candidate_of_unites h, ?_⟩
  cases h with
  | @leaves c d items more conditions others action other hc hd hm hk hbehind haction =>
    have hunites := Unites.leaves hc hd hm hk hbehind haction
    have hdiffers : differsInFirst c ⟨conditions, action⟩ (leaf ⟨d :: others, other⟩) = true :=
      differs_of_unites hunites
    exact (differsInFirst?_under c ⟨conditions, action⟩ _).trans (congrArg some hdiffers)

theorem unites_of_joins {rule next : Rule} (h : Joins rule next) :
    ∃ both, unite? rule next = some both := by
  obtain ⟨hcandidate, hdiffers⟩ := h
  rcases isCandidate?_cases rule with hnone | ⟨c, r, items, rfl, hitems, hmergeable⟩
  · rw [hnone] at hcandidate
    cases hcandidate
  · rw [differsInFirst?_under] at hdiffers
    obtain ⟨d, s, more, rfl, hk, hmore, hsame⟩ := under_of_differs (Option.some.inj hdiffers)
    exact ⟨_, unite?_under hitems hmergeable hk hmore hsame⟩

/-- A rule and the one behind it stay apart just if they do not join. -/
theorem unite?_eq_none {rule next : Rule} : unite? rule next = none ↔ ¬Joins rule next := by
  constructor
  · intro hnone hjoins
    obtain ⟨both, hboth⟩ := unites_of_joins hjoins
    rw [hnone] at hboth
    cases hboth
  · intro hapart
    by_contra hne
    obtain ⟨both, hboth⟩ := Option.ne_none_iff_exists'.mp hne
    exact hapart (joins_of_unites (unites_of_unite? hboth))

/-- What a run is compared with does not change when the run grows. -/
theorem differsInFirst?_united {rule next both : Rule} (h : Unites rule next both)
    (front : Rule) : differsInFirst? front both = differsInFirst? front rule := by
  cases h with
  | @leaves c d items more conditions others action other hc =>
    have hlist : (Value.list (items ++ more)).items? = some (items ++ more) := rfl
    simp [differsInFirst?, hasFirst, first?, stripped?, hlist, hc]

/-! ## Merged forests -/

mutual

/-- Every block of the tree holds more than a single leaf. -/
def Merged : Rule → Prop
  | leaf _ => True
  | block _ children => (∀ r, children ≠ [leaf r]) ∧ AllMerged children

/-- No two trees side by side, on any level, join. -/
def AllMerged : List Rule → Prop
  | [] => True
  | rule :: rest => Merged rule ∧ (∀ next ∈ rest.head?, ¬Joins rule next) ∧ AllMerged rest

end

/-- What absorbing puts in front joins a rule before it only if the absorbing rule does. -/
theorem absorb_head (rule : Rule) (rest : List Rule) :
    ∃ first more, absorb rule rest = first :: more ∧
      ∀ front, Joins front first → Joins front rule := by
  induction rest generalizing rule with
  | nil => exact ⟨rule, [], rfl, fun _ h => h⟩
  | cons next rest ih =>
    unfold absorb
    split
    · rename_i both hboth
      obtain ⟨first, more, heq, hfront⟩ := ih both
      refine ⟨first, more, heq, fun front hjoins => ?_⟩
      obtain ⟨hcandidate, hdiffers⟩ := hfront front hjoins
      exact ⟨hcandidate, differsInFirst?_united (unites_of_unite? hboth) front ▸ hdiffers⟩
    · exact ⟨rule, _, rfl, fun _ h => h⟩

theorem merged_of_unites {rule next both : Rule} (h : Unites rule next both) : Merged both := by
  cases h with
  | leaves => exact trivial

/-- Trees that are merged in themselves are merged with each other. -/
theorem allMerged_absorb {rule : Rule} {rest : List Rule} (h : Merged rule)
    (hrest : ∀ r ∈ rest, Merged r) : AllMerged (absorb rule rest) := by
  induction rest generalizing rule with
  | nil => exact ⟨h, fun _ hn => (Option.not_mem_none _ hn).elim, trivial⟩
  | cons next rest ih =>
    obtain ⟨hnext, hbehind⟩ := List.forall_mem_cons.mp hrest
    unfold absorb
    split
    · rename_i both hboth
      exact ih (merged_of_unites (unites_of_unite? hboth)) hbehind
    · rename_i hapart
      refine ⟨h, fun first hfirst hjoins => ?_, ih hnext hbehind⟩
      obtain ⟨head, more, heq, hfront⟩ := absorb_head next rest
      rw [heq] at hfirst
      obtain rfl : head = first := Option.some.inj hfirst
      exact unite?_eq_none.mp hapart (hfront rule hjoins)

theorem allMerged_mergeSiblings {rules : List Rule} (h : ∀ r ∈ rules, Merged r) :
    AllMerged (mergeSiblings rules) := by
  cases rules with
  | nil => exact trivial
  | cons first rest =>
    obtain ⟨hfirst, hrest⟩ := List.forall_mem_cons.mp h
    exact allMerged_absorb hfirst hrest

/-- A block that keeps its children is none that could collapse. -/
theorem merged_collapse (c : Clause) {children : List Rule} (h : AllMerged children) :
    Merged (collapse c children) := by
  unfold collapse
  split
  · exact trivial
  · rename_i hne
    exact ⟨fun r he => hne r he, h⟩

mutual

theorem merged_mergeInside : ∀ rule : Rule, Merged (mergeInside rule)
  | leaf _ => trivial
  | block c children =>
    merged_collapse c (allMerged_mergeSiblings (merged_mergeInsideAll children))

theorem merged_mergeInsideAll : ∀ rules : List Rule, ∀ r ∈ mergeInsideAll rules, Merged r
  | [] => List.forall_mem_nil _
  | rule :: rest =>
    List.forall_mem_cons.mpr ⟨merged_mergeInside rule, merged_mergeInsideAll rest⟩

end

theorem allMerged_merge (rules : List Rule) : AllMerged (merge rules) :=
  allMerged_mergeSiblings (merged_mergeInsideAll rules)

/-! ## Merging what is merged -/

theorem mergeSiblings_of_merged {rules : List Rule} (h : AllMerged rules) :
    mergeSiblings rules = rules := by
  induction rules with
  | nil => rfl
  | cons rule rest ih =>
    obtain ⟨-, hapart, hrest⟩ := h
    rw [mergeSiblings, absorb_apart fun next hnext => unite?_eq_none.mpr (hapart next hnext),
      ih hrest]

theorem collapse_of_ne {c : Clause} {children : List Rule} (h : ∀ r, children ≠ [leaf r]) :
    collapse c children = block c children := by
  unfold collapse
  split
  · rename_i r
    exact (h r rfl).elim
  · rfl

mutual

theorem mergeInside_of_merged : ∀ rule : Rule, Merged rule → mergeInside rule = rule
  | leaf _, _ => rfl
  | block _ children, ⟨hne, hchildren⟩ => by
    rw [mergeInside, mergeInsideAll_of_merged children hchildren,
      mergeSiblings_of_merged hchildren, collapse_of_ne hne]

theorem mergeInsideAll_of_merged : ∀ rules : List Rule, AllMerged rules →
    mergeInsideAll rules = rules
  | [], _ => rfl
  | rule :: rest, ⟨hrule, _, hrest⟩ => by
    rw [mergeInsideAll, mergeInside_of_merged rule hrule, mergeInsideAll_of_merged rest hrest]

end

theorem merge_of_merged {rules : List Rule} (h : AllMerged rules) : merge rules = rules := by
  rw [merge, mergeInsideAll_of_merged rules h, mergeSiblings_of_merged h]

/-! ## Run by run -/

/-- Merges what is inside the blocks and then one run after the other. -/
def mergeAllRuns (rules : List Rule) : Option (List Rule) := do
  let inside ← mergeBlocks? rules
  mergeRuns inside

theorem mergeAllRuns_eq (rules : List Rule) : mergeAllRuns rules = some (merge rules) := by
  simp [mergeAllRuns, mergeBlocks?_eq, mergeRuns_eq, merge]

/-- Merging, run by run or rule by rule, makes one merged forest, and merging it once more changes
nothing. -/
theorem merging_ends_in_one_pass (rules : List Rule) :
    ∃ merged, mergeAllRuns rules = some merged ∧ merge rules = merged ∧ AllMerged merged ∧
      mergeAllRuns merged = some merged ∧ merge merged = merged := by
  have hmerged := allMerged_merge rules
  have hagain := merge_of_merged hmerged
  refine ⟨merge rules, mergeAllRuns_eq rules, rfl, hmerged, ?_, hagain⟩
  rw [mergeAllRuns_eq, hagain]

end Rule

end FermRules
