import FermRules.Proofs.Merging

/-! # Optimizing keeps the effects of rules

A leaf takes its action as often as there are ways to meet its conditions, and
these are counted by a product over the conditions. Hence a block repeats every
action of its children equally often, and whatever keeps the effects of the
children keeps those of the block: the ways themselves come in another order,
but equal actions stand next to each other.

Factoring joins clauses that are equal up to their definitions, and merging
makes the array of a mergeable clause from a clause of the same keyword. Both
keep the effects if a keyword alone tells whether its clauses are mergeable. -/
namespace FermRules

open Rule

variable (holds : String → Value → Bool)

/-- The alternatives of a clause that hold. -/
def Clause.count (c : Clause) : Nat := c.alternatives.countP fun d => holds d.keyword d.value

/-- The ways to meet all of the conditions. -/
def Clause.countAll : List Clause → Nat
  | [] => 1
  | c :: rest => c.count holds * countAll rest

theorem Clause.choices_count (conditions : List Clause) :
    (Clause.choices conditions).countP (·.all fun c => holds c.keyword c.value)
      = Clause.countAll holds conditions := by
  induction conditions with
  | nil => rfl
  | cons c rest ih =>
    have hd : ∀ ds : List Clause,
        (ds.flatMap fun d => (Clause.choices rest).map (d :: ·)).countP
            (·.all fun c => holds c.keyword c.value)
          = ds.countP (fun d => holds d.keyword d.value) * Clause.countAll holds rest := by
      intro ds
      induction ds with
      | nil => simp
      | cons d ds ihd =>
        rw [List.flatMap_cons, List.countP_append, ihd, List.countP_map, List.countP_cons]
        by_cases h : holds d.keyword d.value = true
        · simp [Function.comp_def, h, ih, Nat.add_mul, Nat.add_comm]
        · simp [Function.comp_def, h]
    exact hd c.alternatives

theorem LeafRule.effects_eq (r : LeafRule) :
    r.effects holds
      = List.replicate (Clause.countAll holds r.conditions) (r.action.map Action.bare) := by
  rw [LeafRule.effects, List.map_const', ← List.countP_eq_length_filter, Clause.choices_count]

/-- One more condition repeats the action as often as the condition can be met. -/
theorem LeafRule.effects_under (c : Clause) (r : LeafRule) :
    (r.under c).effects holds
      = (r.effects holds).flatMap (List.replicate (c.count holds)) := by
  rw [effects_eq, effects_eq]
  simp only [LeafRule.under, Clause.countAll]
  generalize Clause.countAll holds r.conditions = n
  induction n with
  | zero => simp
  | succ n ih =>
    rw [List.replicate_succ, List.flatMap_cons, ← ih, Nat.mul_succ, Nat.add_comm,
      List.replicate_append_replicate]

namespace Rule

theorem effects_leaf (r : LeafRule) (rest : List Rule) :
    effects holds (leaf r :: rest) = r.effects holds ++ effects holds rest := by
  simp [effects]

theorem effects_block (c : Clause) (children rest : List Rule) :
    effects holds (block c children :: rest)
      = (effects holds children).flatMap (List.replicate (c.count holds))
        ++ effects holds rest := by
  simp only [effects, flattenAll_block, List.flatMap_append, List.flatMap_map,
    LeafRule.effects_under, List.flatMap_assoc]

theorem effects_cons (rule : Rule) (rest : List Rule) :
    effects holds (rule :: rest) = effects holds [rule] ++ effects holds rest :=
  effects_append holds [rule] rest

end Rule

/-! ## Clauses up to definitions -/

/-- A clause is mergeable just if its keyword is. -/
def Clause.Follows (mergeable : String → Bool) (c : Clause) : Prop :=
  c.mergeable = mergeable c.keyword

variable {mergeable : String → Bool}

theorem Clause.count_congr {c d : Clause} (hb : c.bare = d.bare)
    (hm : c.mergeable = d.mergeable) : c.count holds = d.count holds := by
  simp only [Clause.bare, Clause.mk.injEq, and_true] at hb
  obtain ⟨hk, hv⟩ := hb
  unfold Clause.count Clause.alternatives
  rw [hv, hm]
  split
  · split
    · simp [List.countP_map, Function.comp_def, hk]
    · simp [hk, hv]
  · simp [hk, hv]

theorem Clause.countAll_congr {cs ds : List Clause}
    (hb : cs.map Clause.bare = ds.map Clause.bare)
    (hc : ∀ c ∈ cs, c.Follows mergeable) (hd : ∀ d ∈ ds, d.Follows mergeable) :
    countAll holds cs = countAll holds ds := by
  induction cs generalizing ds with
  | nil => rw [List.map_eq_nil_iff.mp hb.symm]
  | cons c cs ih =>
    cases ds with
    | nil => cases hb
    | cons d ds =>
      obtain ⟨hhead, hrest⟩ := List.cons.inj hb
      obtain ⟨hc, hcs⟩ := List.forall_mem_cons.mp hc
      obtain ⟨hd, hds⟩ := List.forall_mem_cons.mp hd
      have hk : c.bare.keyword = d.bare.keyword := congrArg Clause.keyword hhead
      have hm : c.mergeable = d.mergeable := hc.trans ((congrArg mergeable hk).trans hd.symm)
      rw [countAll, countAll, ih hrest hcs hds, Clause.count_congr holds hhead hm]

theorem LeafRule.effects_congr {r s : LeafRule} (hb : r.bare = s.bare)
    (hr : ∀ c ∈ r.conditions, c.Follows mergeable)
    (hs : ∀ c ∈ s.conditions, c.Follows mergeable) : r.effects holds = s.effects holds := by
  simp only [LeafRule.bare, LeafRule.mk.injEq] at hb
  rw [effects_eq, effects_eq, hb.2, Clause.countAll_congr holds hb.1 hr hs]

namespace Rule

theorem effects_congr {rules others : List Rule}
    (hb : (flattenAll rules).map LeafRule.bare = (flattenAll others).map LeafRule.bare)
    (hr : Every (Clause.Follows mergeable) rules)
    (ho : Every (Clause.Follows mergeable) others) :
    effects holds rules = effects holds others := by
  have hr := clauses_flattenAll rules hr
  have ho := clauses_flattenAll others ho
  unfold effects
  generalize flattenAll rules = rs, flattenAll others = ss at *
  induction rs generalizing ss with
  | nil => rw [List.map_eq_nil_iff.mp hb.symm]
  | cons r rs ih =>
    cases ss with
    | nil => cases hb
    | cons s ss =>
      obtain ⟨hhead, hrest⟩ := List.cons.inj hb
      obtain ⟨hr, hrs⟩ := List.forall_mem_cons.mp hr
      obtain ⟨hs, hss⟩ := List.forall_mem_cons.mp ho
      rw [List.flatMap_cons, List.flatMap_cons, ih ss hrest hrs hss,
        LeafRule.effects_congr holds hhead hr hs]

/-! ## The two passes -/

theorem effects_factor {rules : List Rule} (h : Every (Clause.Follows mergeable) rules) :
    effects holds (factor rules) = effects holds rules :=
  effects_congr holds (bare_flattenAll_factor rules) h.factor h

/-- A merged array has the alternatives of both arrays, in order. -/
theorem count_array {c d : Clause} {items more : List String}
    (hi : c.value.items? = some items) (hm : d.value.items? = some more)
    (hc : c.mergeable = true) (hd : d.mergeable = true) (hk : c.keyword = d.keyword) :
    Clause.count holds { c with value := .list (items ++ more) }
      = c.count holds + d.count holds := by
  have hu : Clause.mergeable { c with value := .list (items ++ more) } = true := hc
  unfold Clause.count Clause.alternatives
  rw [hi, hm, hu, hc, hd]
  simp [Value.items?, List.countP_map, Function.comp_def, hk]

theorem effects_unite {a b both : Rule} (h : Unites a b both) (rest : List Rule)
    (ha : Every (Clause.Follows mergeable) [a]) (hb : Every (Clause.Follows mergeable) [b]) :
    effects holds (both :: rest) = effects holds (a :: b :: rest) := by
  cases h with
  | @leaves c d items more conditions others action other hi hm hc hk hcs hact =>
    obtain ⟨hcf, hcsf⟩ := List.forall_mem_cons.mp (Every.cons_leaf.mp ha).1
    obtain ⟨hdf, hdsf⟩ := List.forall_mem_cons.mp (Every.cons_leaf.mp hb).1
    have hd : d.mergeable = true := by rw [hdf, ← hk, ← hcf, hc]
    simp only [effects_leaf, LeafRule.effects_eq, Clause.countAll]
    rw [count_array holds hi hm hc hd hk, Clause.countAll_congr holds hcs hcsf hdsf, hact,
      Nat.add_mul, ← List.replicate_append_replicate, List.append_assoc]

theorem effects_step {a b : List Rule} (h : MergeStep a b)
    (ha : Every (Clause.Follows mergeable) a) : effects holds b = effects holds a := by
  induction h with
  | unite hu =>
    obtain ⟨ha, hrest⟩ := Every.cons.mp ha
    exact effects_unite holds hu _ ha (Every.cons.mp hrest).1
  | collapse => simp [effects]
  | inside _ ih => rw [effects_block, effects_block, ih (Every.cons_block.mp ha).2.1]
  | behind _ ih => rw [effects_cons, ih (Every.cons.mp ha).2, ← effects_cons]

theorem effects_merge {rules : List Rule} (h : Every (Clause.Follows mergeable) rules) :
    effects holds (merge rules) = effects holds rules := by
  have hstep : ∀ a b, MergeStep a b →
      Every (Clause.Follows mergeable) a ∧ effects holds a = effects holds rules →
      Every (Clause.Follows mergeable) b ∧ effects holds b = effects holds rules :=
    fun a b hs ⟨he, heq⟩ =>
      ⟨he.step (fun _ _ _ _ hc _ _ _ => hc) hs, (effects_step holds hs he).trans heq⟩
  exact (merge_of_step hstep ⟨h, rfl⟩).2

end Rule

end FermRules
