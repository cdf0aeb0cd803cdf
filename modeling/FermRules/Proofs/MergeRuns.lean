import FermRules.Proofs.FactorRuns
import FermRules.Proofs.Merging

/-! # Merging run by run

The rules behind a candidate that differ from it in the value of the first condition
only are found first and then merged all at once. Each of them is compared with the
candidate and not with what has been merged so far, but merging changes nothing else
than that value. The values are wanted of rules that have a first condition with
items, and no other rules are candidates or follow one, so every list is merged. -/
namespace FermRules.Rule

/-! ## Runs -/

/-- The rule begins with a condition that may hold an array. -/
def isCandidate? (rule : Rule) : Option Bool :=
  if !rule.hasFirst then some false
  else do
    let c ← rule.first?
    return c.value.items?.isSome && c.mergeable

/-- The other rule has items in its first condition and agrees with the rule in all the rest. -/
def differsInFirst? (rule other : Rule) : Option Bool :=
  if !other.hasFirst then some false
  else do
    let d ← other.first?
    let c ← rule.first?
    let s ← other.stripped?
    let r ← rule.stripped?
    return d.keyword = c.keyword && d.value.items?.isSome && decide (s.Same r)

/-- The rules that are merged with the rule in front of them, and those behind. -/
def mergeable? (rule : Rule) (rest : List Rule) : Option (List Rule × List Rule) := do
  if ← isCandidate? rule then span? (differsInFirst? rule) rest else return ([], rest)

def firstItems? (rule : Rule) : Option (List String) := do
  let c ← rule.first?
  c.value.items?

/-- The rule with the items of all members of its run. -/
def mergeRun? (rule : Rule) (members : List Rule) : Option Rule := do
  let items ← (rule :: members).mapM firstItems?
  let c ← rule.first?
  let r ← rule.stripped?
  return leaf (r.under { c with value := .list items.flatten })

def differsInFirst (c : Clause) (r : LeafRule) : Rule → Bool
  | leaf ⟨d :: conditions, action⟩ =>
    d.keyword = c.keyword && d.value.items?.isSome && decide (LeafRule.Same ⟨conditions, action⟩ r)
  | _ => false

theorem differsInFirst?_under (c : Clause) (r : LeafRule) (other : Rule) :
    differsInFirst? (leaf (r.under c)) other = some (differsInFirst c r other) := by
  unfold differsInFirst?
  cases ho : other.hasFirst with
  | true =>
    obtain ⟨d, s, rfl⟩ := under_of_hasFirst ho
    rfl
  | false => obtain ⟨_, _, rfl⟩ | ⟨_, rfl⟩ := eq_of_no_first ho <;> rfl

theorem under_of_differs {c : Clause} {r : LeafRule} {rule : Rule}
    (h : differsInFirst c r rule = true) :
    ∃ d s items, rule = leaf (LeafRule.under d s) ∧ d.keyword = c.keyword ∧
      d.value.items? = some items ∧ s.Same r := by
  unfold differsInFirst at h
  split at h
  · rename_i d conditions action
    simp only [Bool.and_eq_true, decide_eq_true_eq] at h
    obtain ⟨items, hitems⟩ := Option.isSome_iff_exists.mp h.1.2
    exact ⟨d, ⟨conditions, action⟩, items, rfl, h.1.1, hitems, h.2⟩
  · cases h

theorem isCandidate?_cases (rule : Rule) :
    isCandidate? rule = some false ∨
      ∃ c r items, rule = leaf (LeafRule.under c r) ∧ c.value.items? = some items ∧
        c.mergeable = true := by
  cases h : rule.hasFirst with
  | true =>
    obtain ⟨c, r, rfl⟩ := under_of_hasFirst h
    cases hcandidate : c.value.items?.isSome && c.mergeable with
    | true =>
      obtain ⟨hitems, hmergeable⟩ := Bool.and_eq_true_iff.mp hcandidate
      obtain ⟨items, hitems⟩ := Option.isSome_iff_exists.mp hitems
      exact .inr ⟨c, r, items, rfl, hitems, hmergeable⟩
    | false => exact .inl (congrArg some hcandidate)
  | false => exact .inl (by simp [isCandidate?, h])

theorem mergeable?_of_not_candidate {rule : Rule} (h : isCandidate? rule = some false)
    (rest : List Rule) : mergeable? rule rest = some ([], rest) := by
  simp [mergeable?, h]

theorem mergeable?_of_candidate {c : Clause} {items : List String}
    (hitems : c.value.items? = some items) (hmergeable : c.mergeable = true) (r : LeafRule)
    (rest : List Rule) :
    mergeable? (leaf (r.under c)) rest = span? (differsInFirst? (leaf (r.under c))) rest := by
  simp [mergeable?, isCandidate?, hitems, hmergeable]

theorem mergeable?_isSome (rule : Rule) (rest : List Rule) :
    ∃ run, mergeable? rule rest = some run := by
  rcases isCandidate?_cases rule with h | ⟨c, r, items, rfl, hitems, hmergeable⟩
  · exact ⟨_, mergeable?_of_not_candidate h rest⟩
  · rw [mergeable?_of_candidate hitems hmergeable, span?_eq (differsInFirst?_under c r)]
    exact ⟨_, rfl⟩

/-- A rule is merged with those behind it as far as they differ in the value only. -/
theorem mergeable?_cases {rule : Rule} {rest members behind : List Rule}
    (h : mergeable? rule rest = some (members, behind)) :
    (isCandidate? rule = some false ∧ members = [] ∧ behind = rest) ∨
      ∃ c r items, rule = leaf (LeafRule.under c r) ∧ c.value.items? = some items ∧
        c.mergeable = true ∧ members ++ behind = rest ∧
          (∀ m ∈ members, differsInFirst c r m = true) ∧
            ∀ next ∈ behind.head?, differsInFirst c r next = false := by
  rcases isCandidate?_cases rule with hnone | ⟨c, r, items, rfl, hitems, hmergeable⟩
  · rw [mergeable?_of_not_candidate hnone] at h
    cases h
    exact .inl ⟨hnone, rfl, rfl⟩
  · rw [mergeable?_of_candidate hitems hmergeable] at h
    exact .inr ⟨c, r, items, rfl, hitems, hmergeable, span?_spec (differsInFirst?_under c r) h⟩

theorem mergeable?_append {rule : Rule} {rest members behind : List Rule}
    (h : mergeable? rule rest = some (members, behind)) : members ++ behind = rest := by
  rcases mergeable?_cases h with ⟨-, rfl, rfl⟩ | ⟨_, _, _, -, -, -, hrest, -⟩
  · rfl
  · exact hrest

/-! ## What absorbing makes of a run -/

theorem unite?_under {c d : Clause} {r s : LeafRule} {items more : List String}
    (hitems : c.value.items? = some items) (hmergeable : c.mergeable = true)
    (hk : d.keyword = c.keyword) (hmore : d.value.items? = some more) (hs : s.Same r) :
    unite? (leaf (r.under c)) (leaf (s.under d))
      = some (leaf (r.under { c with value := .list (items ++ more) })) := by
  have hbare : s.bare = r.bare := hs
  simp only [LeafRule.bare, LeafRule.mk.injEq] at hbare
  simp [unite?, LeafRule.unite?, LeafRule.under, LeafRule.sameBehind, Clause.unite?, hitems, hmore,
    hmergeable, hk, hbare]

theorem differs_of_unites {c : Clause} {r : LeafRule} {next both : Rule}
    (h : Unites (leaf (r.under c)) next both) : differsInFirst c r next = true := by
  rw [LeafRule.under] at h
  cases h with
  | leaves _ hd _ hk hbehind haction =>
    have hsame : LeafRule.Same ⟨_, _⟩ r := congrArg₂ LeafRule.mk hbehind.symm haction.symm
    simp [differsInFirst, hd, hk, hsame]

theorem candidate_of_unites {rule next both : Rule} (h : Unites rule next both) :
    isCandidate? rule = some true := by
  cases h with
  | leaves hc _ hm => simp [isCandidate?, hasFirst, first?, hc, hm]

theorem unite?_of_not_differs {c : Clause} {r : LeafRule} {next : Rule}
    (h : differsInFirst c r next = false) : unite? (leaf (r.under c)) next = none := by
  by_contra hne
  obtain ⟨both, hboth⟩ := Option.ne_none_iff_exists'.mp hne
  rw [differs_of_unites (unites_of_unite? hboth)] at h
  cases h

theorem unite?_of_not_candidate {rule : Rule} (h : isCandidate? rule = some false) (next : Rule) :
    unite? rule next = none := by
  by_contra hne
  obtain ⟨both, hboth⟩ := Option.ne_none_iff_exists'.mp hne
  rw [candidate_of_unites (unites_of_unite? hboth)] at h
  cases h

theorem absorb_apart {rule : Rule} {rest : List Rule}
    (h : ∀ next ∈ rest.head?, unite? rule next = none) :
    absorb rule rest = rule :: mergeSiblings rest := by
  cases rest with
  | nil => rfl
  | cons next rest => simp only [absorb, h next rfl, mergeSiblings]

/-- The items of a run are gathered one rule after the other. The array that is
gathered so far does not matter for what joins the run. -/
theorem absorb_run {members behind : List Rule} {c : Clause} {r : LeafRule}
    {items : List String} {more : List (List String)} (hne : members ≠ [])
    (hitems : c.value.items? = some items) (hmergeable : c.mergeable = true)
    (hmembers : ∀ m ∈ members, differsInFirst c r m = true)
    (hbehind : ∀ next ∈ behind.head?, differsInFirst c r next = false)
    (hmore : members.mapM firstItems? = some more) :
    absorb (leaf (r.under c)) (members ++ behind)
      = leaf (r.under { c with value := .list (items ++ more.flatten) })
        :: mergeSiblings behind := by
  induction members generalizing c items more with
  | nil => exact absurd rfl hne
  | cons m members ih =>
    obtain ⟨hm, hrest⟩ := List.forall_mem_cons.mp hmembers
    obtain ⟨d, s, first, rfl, hk, hfirst, hsame⟩ := under_of_differs hm
    obtain ⟨_, rest, hitemsd, hrestitems, rfl⟩ := mapM_cons_eq_some hmore
    obtain rfl := Option.some.inj (hfirst.symm.trans hitemsd)
    rw [List.cons_append, absorb, unite?_under hitems hmergeable hk hfirst hsame, List.flatten_cons,
      ← List.append_assoc]
    cases members with
    | nil =>
      obtain rfl : rest = [] := (Option.some.inj hrestitems).symm
      rw [List.nil_append, List.flatten_nil, List.append_nil]
      exact absorb_apart fun next hnext => unite?_of_not_differs (hbehind next hnext)
    | cons m' members =>
      exact ih (c := { c with value := .list (items ++ first) }) (List.cons_ne_nil _ _) rfl
        hmergeable hrest hbehind hrestitems

/-! ## Merging -/

/-- Merges one run after the other. -/
def mergeRuns : List Rule → Option (List Rule)
  | [] => some []
  | rule :: rest =>
    match _hrun : mergeable? rule rest with
    | none => none
    | some ([], behind) => (mergeRuns behind).map (rule :: ·)
    | some (next :: members, behind) => do
      let merged ← mergeRun? rule (next :: members)
      let more ← mergeRuns behind
      return merged :: more
termination_by rules => rules.length
decreasing_by
  all_goals
    rw [← mergeable?_append _hrun, List.length_cons, List.length_append]
    omega

theorem firstItems?_of_differs {c : Clause} {r : LeafRule} {rule : Rule}
    (h : differsInFirst c r rule = true) : ∃ items, rule.firstItems? = some items := by
  obtain ⟨d, s, items, rfl, -, hitems, -⟩ := under_of_differs h
  exact ⟨items, hitems⟩

theorem mergeRun?_eq {c : Clause} {items : List String} {members : List Rule}
    {more : List (List String)} (hitems : c.value.items? = some items)
    (hmore : members.mapM firstItems? = some more) (r : LeafRule) :
    mergeRun? (leaf (r.under c)) members
      = some (leaf (r.under { c with value := .list (items ++ more.flatten) })) := by
  have hfirst : firstItems? (leaf (r.under c)) = some items := hitems
  simp [mergeRun?, List.mapM_cons, hfirst, hmore]

/-- Every list of rules is merged, into the same arrays. -/
theorem mergeRuns_eq (rules : List Rule) : mergeRuns rules = some (mergeSiblings rules) := by
  fun_induction mergeRuns rules with
  | case1 => rfl
  | case2 rule rest hrun =>
    obtain ⟨run, hsome⟩ := mergeable?_isSome rule rest
    rw [hrun] at hsome
    cases hsome
  | case3 rule rest behind hrun ih =>
    have hapart : ∀ next ∈ rest.head?, unite? rule next = none := by
      intro next hnext
      rcases mergeable?_cases hrun with ⟨hnone, -, rfl⟩ | ⟨c, r, _, rfl, -, -, rfl, -, hbehind⟩
      · exact unite?_of_not_candidate hnone next
      · exact unite?_of_not_differs (hbehind next hnext)
    obtain rfl : behind = rest := mergeable?_append hrun
    rw [ih, mergeSiblings, absorb_apart hapart]
    rfl
  | case4 rule rest next members behind hrun ih =>
    rcases mergeable?_cases hrun with ⟨-, hnil, -⟩ |
      ⟨c, r, items, rfl, hitems, hmergeable, rfl, hmembers, hbehind⟩
    · cases hnil
    obtain ⟨more, hmore⟩ := mapM_isSome fun m hm => firstItems?_of_differs (hmembers m hm)
    rw [mergeRun?_eq hitems hmore, ih, mergeSiblings,
      absorb_run (List.cons_ne_nil _ _) hitems hmergeable hmembers hbehind hmore]
    rfl

mutual

/-- What is inside a block is merged first. -/
def mergeBlock? : Rule → Option Rule
  | leaf rule => some (leaf rule)
  | block shared children => do
    let inside ← mergeBlocks? children
    let merged ← mergeRuns inside
    return collapse shared merged

def mergeBlocks? : List Rule → Option (List Rule)
  | [] => some []
  | rule :: rest => do
    let first ← mergeBlock? rule
    let more ← mergeBlocks? rest
    return first :: more

end

mutual

theorem mergeBlock?_eq : ∀ rule : Rule, mergeBlock? rule = some (mergeInside rule)
  | leaf _ => rfl
  | block _ children => by simp [mergeBlock?, mergeInside, mergeBlocks?_eq children, mergeRuns_eq]

theorem mergeBlocks?_eq : ∀ rules : List Rule, mergeBlocks? rules = some (mergeInsideAll rules)
  | [] => rfl
  | rule :: rest => by
    simp [mergeBlocks?, mergeInsideAll, mergeBlock?_eq rule, mergeBlocks?_eq rest]

end

def optimizeRuns (rules : List Rule) : Option (List Rule) := do
  let factored ← factorRuns rules
  let inside ← mergeBlocks? factored
  mergeRuns inside

theorem optimizeRuns_eq (rules : List Rule) : optimizeRuns rules = some (optimize rules) := by
  simp [optimizeRuns, factorRuns_eq, mergeBlocks?_eq, mergeRuns_eq, optimize, merge]

end FermRules.Rule
