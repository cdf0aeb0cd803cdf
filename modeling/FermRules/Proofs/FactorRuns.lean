import FermRules.Proofs.Flatten
import Mathlib.Data.List.TakeWhile

/-! # Factoring run by run

A run is a rule together with those behind it that begin with the same condition.
To factor it, the condition is taken from the first of its rules and stripped from
all of them. That a rule has a first condition cannot be taken for granted, for a
block has no conditions and a leaf may have none. But only a leaf with a condition
begins a run, only such leaves go on with it, and so every run is factored, into
the blocks that come from grafting one rule after the other. -/
namespace FermRules

theorem mapM_cons_eq_some {α β : Type} {f : α → Option β} {a : α} {as : List α} {bs : List β}
    (h : (a :: as).mapM f = some bs) :
    ∃ b rest, f a = some b ∧ as.mapM f = some rest ∧ bs = b :: rest := by
  rw [List.mapM_cons] at h
  obtain ⟨b, hb, h⟩ := Option.bind_eq_some_iff.mp h
  obtain ⟨rest, hrest, h⟩ := Option.bind_eq_some_iff.mp h
  exact ⟨b, rest, hb, hrest, (Option.some.inj h).symm⟩

theorem mapM_isSome {α β : Type} {f : α → Option β} {as : List α}
    (h : ∀ a ∈ as, ∃ b, f a = some b) : ∃ bs, as.mapM f = some bs := by
  induction as with
  | nil => exact ⟨[], rfl⟩
  | cons a as ih =>
    obtain ⟨⟨b, hb⟩, hrest⟩ := List.forall_mem_cons.mp h
    obtain ⟨bs, hbs⟩ := ih hrest
    exact ⟨b :: bs, by rw [List.mapM_cons, hb, hbs]; rfl⟩

namespace Rule

/-! ## First conditions -/

def hasFirst : Rule → Bool
  | leaf rule => !rule.conditions.isEmpty
  | block _ _ => false

/-- The first condition, of a leaf that has one. -/
def first? : Rule → Option Clause
  | leaf rule => rule.conditions.head?
  | block _ _ => none

/-- The leaf without its first condition. -/
def stripped? : Rule → Option LeafRule
  | leaf rule => some ⟨rule.conditions.tail, rule.action⟩
  | block _ _ => none

@[simp] theorem hasFirst_under (c : Clause) (r : LeafRule) : hasFirst (leaf (r.under c)) = true :=
  rfl

@[simp] theorem first?_under (c : Clause) (r : LeafRule) : first? (leaf (r.under c)) = some c := rfl

@[simp] theorem stripped?_under (c : Clause) (r : LeafRule) :
    stripped? (leaf (r.under c)) = some r := rfl

theorem under_of_hasFirst {rule : Rule} (h : rule.hasFirst = true) :
    ∃ c r, rule = leaf (LeafRule.under c r) := by
  cases rule with
  | leaf r =>
    obtain ⟨conditions, action⟩ := r
    cases conditions with
    | nil => cases h
    | cons c conditions => exact ⟨c, ⟨conditions, action⟩, rfl⟩
  | block => cases h

theorem eq_of_no_first {rule : Rule} (h : rule.hasFirst = false) :
    (∃ c children, rule = block c children) ∨ ∃ action, rule = leaf ⟨[], action⟩ := by
  cases rule with
  | block c children => exact .inl ⟨c, children, rfl⟩
  | leaf r =>
    obtain ⟨conditions, action⟩ := r
    cases conditions with
    | nil => exact .inr ⟨action, rfl⟩
    | cons => cases h

/-- The longest list of rules in front that pass a test, and those behind. The test
may fail to give an answer. -/
def span? (test : Rule → Option Bool) : List Rule → Option (List Rule × List Rule)
  | [] => some ([], [])
  | rule :: rest => do
    if ← test rule then
      let (members, behind) ← span? test rest
      return (rule :: members, behind)
    else return ([], rule :: rest)

theorem span?_eq {test : Rule → Option Bool} {p : Rule → Bool}
    (h : ∀ rule, test rule = some (p rule)) (rules : List Rule) :
    span? test rules = some (rules.takeWhile p, rules.dropWhile p) := by
  induction rules with
  | nil => rfl
  | cons rule rest ih =>
    cases hp : p rule with
    | true => simp [span?, h, ih, hp]
    | false => simp [span?, h, hp]

theorem span?_spec {test : Rule → Option Bool} {p : Rule → Bool}
    (htest : ∀ rule, test rule = some (p rule)) {rules members behind : List Rule}
    (h : span? test rules = some (members, behind)) :
    members ++ behind = rules ∧ (∀ m ∈ members, p m = true) ∧
      ∀ next ∈ behind.head?, p next = false := by
  rw [span?_eq htest] at h
  cases h
  refine ⟨List.takeWhile_append_dropWhile, fun m => List.mem_takeWhile_imp, fun next hnext => ?_⟩
  have := List.head?_dropWhile_not p rules
  rw [Option.mem_def.mp hnext] at this
  exact this

/-! ## Runs -/

/-- The other rule also begins with the first condition of the rule. -/
def sharesFirst? (rule other : Rule) : Option Bool :=
  if !other.hasFirst then some false
  else do
    let d ← other.first?
    let c ← rule.first?
    return decide (d.Same c)

/-- The rules that form a run with the rule in front of them, and those behind. -/
def run? (rule : Rule) (rest : List Rule) : Option (List Rule × List Rule) :=
  if !rule.hasFirst then some ([], rest) else span? (sharesFirst? rule) rest

def sharesFirst (c : Clause) : Rule → Bool
  | leaf ⟨d :: _, _⟩ => decide (d.Same c)
  | _ => false

theorem sharesFirst?_under (c : Clause) (r : LeafRule) (other : Rule) :
    sharesFirst? (leaf (r.under c)) other = some (sharesFirst c other) := by
  unfold sharesFirst?
  cases ho : other.hasFirst with
  | true =>
    obtain ⟨d, s, rfl⟩ := under_of_hasFirst ho
    rfl
  | false => obtain ⟨_, _, rfl⟩ | ⟨_, rfl⟩ := eq_of_no_first ho <;> rfl

theorem under_of_sharesFirst {c : Clause} {rule : Rule} (h : sharesFirst c rule = true) :
    ∃ d s, d.Same c ∧ rule = leaf (LeafRule.under d s) := by
  unfold sharesFirst at h
  split at h
  · rename_i d conditions action
    exact ⟨d, ⟨conditions, action⟩, by simpa using h, rfl⟩
  · cases h

theorem sharesFirst_congr {c d : Clause} (h : d.Same c) (rule : Rule) :
    sharesFirst d rule = sharesFirst c rule := by
  unfold sharesFirst
  split
  · exact decide_eq_decide.mpr ⟨fun hsame => hsame.trans h, fun hsame => hsame.trans h.symm⟩
  · rfl

theorem run?_isSome (rule : Rule) (rest : List Rule) : ∃ run, run? rule rest = some run := by
  cases h : rule.hasFirst with
  | true =>
    obtain ⟨c, r, rfl⟩ := under_of_hasFirst h
    exact ⟨_, span?_eq (sharesFirst?_under c r) rest⟩
  | false => exact ⟨([], rest), by simp [run?, h]⟩

/-- The run of a rule goes on as far as its first condition does. -/
theorem run?_cases {rule : Rule} {rest members behind : List Rule}
    (h : run? rule rest = some (members, behind)) :
    (rule.hasFirst = false ∧ members = [] ∧ behind = rest) ∨
      ∃ c r, rule = leaf (LeafRule.under c r) ∧ members ++ behind = rest ∧
        (∀ m ∈ members, sharesFirst c m = true) ∧
          ∀ next ∈ behind.head?, sharesFirst c next = false := by
  cases hfirst : rule.hasFirst with
  | true =>
    obtain ⟨c, r, rfl⟩ := under_of_hasFirst hfirst
    exact .inr ⟨c, r, rfl, span?_spec (sharesFirst?_under c r) h⟩
  | false =>
    simp only [run?, hfirst, Bool.not_false, if_true, Option.some.injEq, Prod.mk.injEq] at h
    exact .inl ⟨rfl, h.1.symm, h.2.symm⟩

/-- What does not belong to a run is left as it is. -/
theorem run?_append {rule : Rule} {rest members behind : List Rule}
    (h : run? rule rest = some (members, behind)) : members ++ behind = rest := by
  rcases run?_cases h with ⟨-, rfl, rfl⟩ | ⟨c, r, -, hrest, -⟩
  · rfl
  · exact hrest

/-! ## Factoring -/

def weight : Rule → Nat
  | leaf rule => rule.conditions.length + 1
  | block _ _ => 1

def weightAll : List Rule → Nat
  | [] => 0
  | rule :: rest => weight rule + weightAll rest

theorem weightAll_append (rules more : List Rule) :
    weightAll (rules ++ more) = weightAll rules + weightAll more := by
  induction rules with
  | nil => rw [List.nil_append, weightAll, Nat.zero_add]
  | cons rule rest ih => rw [List.cons_append, weightAll, weightAll, ih, Nat.add_assoc]

theorem weight_pos (rule : Rule) : 0 < weight rule := by
  cases rule with
  | leaf => exact Nat.succ_pos _
  | block => exact Nat.one_pos

theorem weightAll_run {rule : Rule} {rest members behind : List Rule}
    (h : run? rule rest = some (members, behind)) :
    weightAll members + weightAll behind = weightAll rest := by
  rw [← run?_append h, weightAll_append]

theorem weight_stripped {rule : Rule} {s : LeafRule} (h : rule.stripped? = some s) :
    weight (leaf s) ≤ weight rule := by
  cases rule with
  | leaf r =>
    cases h
    simp [weight]
  | block => cases h

theorem weight_lt_of_first {rule : Rule} {c : Clause} {s : LeafRule} (hc : rule.first? = some c)
    (h : rule.stripped? = some s) : weight (leaf s) < weight rule := by
  cases rule with
  | leaf r =>
    obtain ⟨conditions, action⟩ := r
    cases conditions with
    | nil => cases hc
    | cons =>
      cases h
      simp [weight]
  | block => cases h

theorem weightAll_stripped {rules : List Rule} {stripped : List LeafRule}
    (h : rules.mapM stripped? = some stripped) :
    weightAll (stripped.map leaf) ≤ weightAll rules := by
  induction rules generalizing stripped with
  | nil =>
    cases h
    exact Nat.le_refl _
  | cons rule rest ih =>
    obtain ⟨s, ss, hs, hss, rfl⟩ := mapM_cons_eq_some h
    exact Nat.add_le_add (weight_stripped hs) (ih hss)

/-- A run without its first conditions weighs less than the rules it comes from. -/
theorem weightAll_stripped_lt {rule : Rule} {rest members behind : List Rule} {c : Clause}
    {stripped : List LeafRule} (hrun : run? rule rest = some (members, behind))
    (hc : rule.first? = some c) (h : (rule :: members).mapM stripped? = some stripped) :
    weightAll (stripped.map leaf) < weightAll (rule :: rest) := by
  obtain ⟨s, ss, hs, hss, rfl⟩ := mapM_cons_eq_some h
  have hfirst := weight_lt_of_first hc hs
  have hmembers := weightAll_stripped hss
  have hrest := weightAll_run hrun
  rw [List.map_cons, weightAll, weightAll]
  omega

theorem weightAll_lt_cons {rule : Rule} {rest members behind : List Rule}
    (hrun : run? rule rest = some (members, behind)) :
    weightAll behind < weightAll (rule :: rest) := by
  have hpos := weight_pos rule
  have hrest := weightAll_run hrun
  rw [weightAll]
  omega

/-- Factors one run after the other; there is no result where the first condition of
a rule is wanted that has none. -/
def factorRuns : List Rule → Option (List Rule)
  | [] => some []
  | rule :: rest =>
    match _hrun : run? rule rest with
    | none => none
    | some ([], behind) => (factorRuns behind).map (rule :: ·)
    | some (next :: members, behind) =>
      match _hfirst : rule.first?, _hstripped : (rule :: next :: members).mapM stripped? with
      | some c, some stripped => do
        let inner ← factorRuns (stripped.map leaf)
        let more ← factorRuns behind
        return collapse c inner :: more
      | _, _ => none
termination_by rules => weightAll rules
decreasing_by
  · exact weightAll_lt_cons _hrun
  · exact weightAll_stripped_lt _hrun _hfirst _hstripped
  · exact weightAll_lt_cons _hrun

/-! ## The blocks that grafting makes -/

theorem graft_leaf (action : Option Action) (c d : Clause) (conditions : List Clause)
    (s : LeafRule) (rest : List Rule) :
    graft action (c :: conditions) (leaf (s.under d) :: rest)
      = if c.Same d then block c (graft action conditions [leaf s]) :: rest
        else leaf ⟨c :: conditions, action⟩ :: leaf (s.under d) :: rest := by
  rw [LeafRule.under, graft]

/-- A grafted rule stands in front as it is, or its first condition does. -/
theorem graft_head (action : Option Action) (c : Clause) (conditions : List Clause)
    (rules : List Rule) :
    (∃ more, graft action (c :: conditions) rules = leaf ⟨c :: conditions, action⟩ :: more) ∨
      ∃ children more, graft action (c :: conditions) rules = block c children :: more := by
  generalize h : c :: conditions = all
  fun_cases graft action all rules with
  | case1 => cases h
  | case2 | case4 =>
    cases h
    exact .inr ⟨_, _, rfl⟩
  | case3 | case5 | case6 =>
    cases h
    exact .inl ⟨_, rfl⟩

theorem factor_leaf (r s : LeafRule) (rest : List Rule) :
    factor (leaf r :: leaf s :: rest) = graft r.action r.conditions (factor (leaf s :: rest)) := by
  rw [factor.eq_def]
  rfl

theorem factor_head (d : Clause) (s : LeafRule) (rest : List Rule) :
    (∃ more, factor (leaf (s.under d) :: rest) = leaf (s.under d) :: more) ∨
      ∃ children more, factor (leaf (s.under d) :: rest) = block d children :: more := by
  rw [factor.eq_def]
  dsimp only
  split
  · exact graft_head _ _ _ _
  · exact .inl ⟨_, rfl⟩

theorem factor_bare (action : Option Action) (rest : List Rule) :
    factor (leaf ⟨[], action⟩ :: rest) = leaf ⟨[], action⟩ :: factor rest := by
  rw [factor.eq_def]
  dsimp only
  split
  · rw [graft]
  · rfl

/-- A rule stays as it is before one that does not begin with its first condition. -/
theorem factor_apart {c : Clause} (r : LeafRule) {rest : List Rule}
    (h : ∀ next ∈ rest.head?, sharesFirst c next = false) :
    factor (leaf (r.under c) :: rest) = leaf (r.under c) :: factor rest := by
  cases rest with
  | nil => rfl
  | cons next rest =>
    cases next with
    | block => rw [factor.eq_def]; rfl
    | leaf s =>
      obtain ⟨conditions, action⟩ := s
      rw [factor_leaf]
      cases conditions with
      | nil =>
        rw [factor_bare]
        rfl
      | cons d conditions =>
        have hdiffer : ¬d.Same c := by simpa [sharesFirst] using h _ rfl
        have hne : ¬c.Same d := fun hs => hdiffer hs.symm
        have hhead := factor_head d ⟨conditions, action⟩ rest
        rw [LeafRule.under] at hhead
        rcases hhead with ⟨more, hf⟩ | ⟨children, more, hf⟩
        · rw [hf, LeafRule.under, graft, if_neg hne]
        · rw [hf, LeafRule.under, graft, if_neg hne]

/-- The rules of a run come together under its first condition. -/
theorem factor_run {members : List Rule} {c : Clause} {r : LeafRule} {behind : List Rule}
    {stripped : List LeafRule} (hne : members ≠ [])
    (hmembers : ∀ m ∈ members, sharesFirst c m = true)
    (hbehind : ∀ next ∈ behind.head?, sharesFirst c next = false)
    (hstripped : members.mapM stripped? = some stripped) :
    factor (leaf (r.under c) :: members ++ behind)
      = block c (factor (leaf r :: stripped.map leaf)) :: factor behind := by
  -- the members are a run of their own, and the rule in front is grafted on what it becomes
  induction members generalizing c r stripped with
  | nil => exact absurd rfl hne
  | cons m members ih =>
    obtain ⟨hm, hrest⟩ := List.forall_mem_cons.mp hmembers
    obtain ⟨s, ss, hs, hss, rfl⟩ := mapM_cons_eq_some hstripped
    obtain ⟨d, s, hdc, rfl⟩ := under_of_sharesFirst hm
    cases hs
    have hshares := sharesFirst_congr hdc
    have hcd : c.Same d := hdc.symm
    rw [List.cons_append, List.cons_append, factor_leaf, List.map_cons, factor_leaf]
    cases members with
    | nil =>
      cases hss
      have hnext : ∀ next ∈ behind.head?, sharesFirst d next = false := by
        simpa only [hshares] using hbehind
      rw [List.nil_append, factor_apart s hnext, LeafRule.under, graft_leaf, if_pos hcd]
      rfl
    | cons m' members =>
      have hfactor := ih (c := d) (r := s) (List.cons_ne_nil _ _)
        (by simpa only [hshares] using hrest) (by simpa only [hshares] using hbehind) hss
      rw [List.cons_append] at hfactor
      rw [hfactor, LeafRule.under, graft, if_pos hcd]
      rfl

/-- Two rules are not factored into a single one, for no leaf is lost. -/
theorem collapse_factor (c : Clause) (r s : LeafRule) (rest : List Rule) :
    collapse c (factor (leaf r :: leaf s :: rest))
      = block c (factor (leaf r :: leaf s :: rest)) := by
  unfold collapse
  split
  · rename_i t ht
    have hlength := congrArg List.length (bare_flattenAll_factor (leaf r :: leaf s :: rest))
    rw [ht] at hlength
    simp at hlength
  · rfl

theorem factor_no_first {rule : Rule} (h : rule.hasFirst = false) (rest : List Rule) :
    factor (rule :: rest) = rule :: factor rest := by
  obtain ⟨_, _, rfl⟩ | ⟨action, rfl⟩ := eq_of_no_first h
  · rw [factor]
  · exact factor_bare action rest

theorem stripped?_of_sharesFirst {c : Clause} {rule : Rule} (h : sharesFirst c rule = true) :
    ∃ s, rule.stripped? = some s := by
  obtain ⟨d, s, -, rfl⟩ := under_of_sharesFirst h
  exact ⟨s, rfl⟩

/-- Every list of rules is factored, into the same blocks. -/
theorem factorRuns_eq (rules : List Rule) : factorRuns rules = some (factor rules) := by
  fun_induction factorRuns rules with
  | case1 => rfl
  | case2 rule rest hrun =>
    obtain ⟨run, hsome⟩ := run?_isSome rule rest
    rw [hrun] at hsome
    cases hsome
  | case3 rule rest behind hrun ih =>
    rw [ih, Option.map_some]
    rcases run?_cases hrun with ⟨hfirst, -, rfl⟩ | ⟨c, r, rfl, rfl, -, hbehind⟩
    · rw [factor_no_first hfirst]
    · rw [List.nil_append, factor_apart r hbehind]
  | case4 rule rest next members behind hrun c stripped hfirst hstripped ihinner ihmore =>
    rcases run?_cases hrun with ⟨-, hnil, -⟩ | ⟨c, r, rfl, rfl, hmembers, hbehind⟩
    · cases hnil
    obtain ⟨_, ss, hr, hss, rfl⟩ := mapM_cons_eq_some hstripped
    cases hfirst
    cases hr
    rw [ihinner, ihmore, ← List.cons_append,
      factor_run (List.cons_ne_nil _ _) hmembers hbehind hss]
    obtain ⟨s, ss, -, -, rfl⟩ := mapM_cons_eq_some hss
    exact congrArg (fun block => some (block :: factor behind)) (collapse_factor c r s _)
  | case5 rule rest next members behind hrun hnone =>
    rcases run?_cases hrun with ⟨-, hnil, -⟩ | ⟨c, r, rfl, -, hmembers, -⟩
    · cases hnil
    obtain ⟨stripped, hstripped⟩ :=
      mapM_isSome fun m hm => stripped?_of_sharesFirst (hmembers m hm)
    exact (hnone c (r :: stripped) rfl (by rw [List.mapM_cons, hstripped]; rfl)).elim

/-- Factoring loses nothing: written out in full, the rules are the same and in the same order, up
to the definitions of their clauses. -/
theorem factored_rules_mean_the_same (rules : List Rule) :
    ∃ factored, factorRuns rules = some factored ∧ factor rules = factored ∧
      (flattenAll factored).map LeafRule.bare = (flattenAll rules).map LeafRule.bare :=
  ⟨_, factorRuns_eq rules, rfl, bare_flattenAll_factor rules⟩

end Rule

end FermRules
