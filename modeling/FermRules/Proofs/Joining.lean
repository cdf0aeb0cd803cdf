import FermRules.Proofs.LegalReading

/-! # Joined alternatives

Behind an array of protocols all of them are declared. What was legal behind
each of two clauses is legal behind the clause that joins them: a keyword in
scope behind the first is in scope behind both, and a module is implied behind
both only if it is implied behind one of them. This is kept by all clauses that
follow, so a whole rule stays legal when its first condition becomes an array. -/
namespace FermRules

variable {registry : Registry}

/-- What is known behind two alternatives, and what behind the clause that joins
them. -/
structure Known.Joins (registry : Registry) (first second both : Known) : Prop where
  scope : ∀ k, first.scope.Holds k → both.scope.Holds k
  protocols : ∀ p ∈ both.protocols, p ∈ first.protocols ∨ p ∈ second.protocols
  last : both.last = first.last
  sound : both.Sound registry

theorem Scope.holds_extendAll_mono {scope larger : Scope}
    (h : ∀ k, scope.Holds k → larger.Holds k) (tables : List Keywords) :
    ∀ k, (scope.extendAll tables).Holds k → (larger.extendAll tables).Holds k := by
  induction tables generalizing scope larger with
  | nil => exact h
  | cons keywords rest ih =>
    refine ih fun k hk => ?_
    rcases Option.or_eq_some_iff.mp hk with hf | ⟨hf, hk⟩
    · exact Option.or_eq_some_iff.mpr (.inl hf)
    · exact Option.or_eq_some_iff.mpr (.inr ⟨hf, h k hk⟩)

namespace Known.Joins

variable {first second both : Known}

theorem jumped (h : Joins registry first second both) (target : String) :
    Joins registry (first.jumped registry target) (second.jumped registry target)
      (both.jumped registry target) :=
  ⟨fun _ hk => hk, h.protocols, rfl, Sound.jumped _ _⟩

theorem after (h : Joins registry first second both) (c : Clause) :
    Joins registry (first.after registry c) (second.after registry c)
      (both.after registry c) := by
  refine ⟨Scope.holds_extendAll_mono h.scope _, fun p hm => ?_, rfl, h.sound.after c⟩
  rcases List.mem_append.mp hm with hm | hm
  · exact (h.protocols p hm).imp (List.mem_append_left _) (List.mem_append_left _)
  · exact .inl (List.mem_append_right _ hm)

/-- A clause that is legal behind both alternatives is legal behind what joins
them. -/
theorem legal (hr : registry.Legible) (h : Joins registry first second both) {c d : Clause}
    (hc : c.Legal registry first) (hd : d.Legal registry second) (hs : c.Same d) :
    c.Legal registry both := by
  have hb : c.bare = d.bare := hs
  simp only [Clause.bare, Clause.mk.injEq, and_true] at hb
  cases hc with
  | option hk hleg hp hv => exact .option (h.scope _ hk) hleg hp hv
  | @modules names hmatch hlast hne hover himp =>
    obtain ⟨others, rfl, _, himp', _⟩ := hd.modules_of_keyword hb.1.symm
    have hnames : names = others := by simpa [Clause.ofModules] using hb.2
    subst hnames
    refine .modules (hr.scope_reserved h.sound (by decide)) (h.last ▸ hlast) hne hover ?_
    intro s hs hi
    obtain ⟨p, hp, rfl⟩ := List.mem_map.mp hi
    rcases h.protocols p hp with hp | hp
    · exact himp _ hs (List.mem_map_of_mem hp)
    · exact himp' _ hs (List.mem_map_of_mem hp)

theorem legalAll (hr : registry.Legible) (h : Joins registry first second both)
    {cs ds : List Clause} (hc : LegalAll registry first cs) (hd : LegalAll registry second ds)
    (hs : cs.map Clause.bare = ds.map Clause.bare) :
    LegalAll registry both cs ∧ Joins registry (first.afterAll registry cs)
      (second.afterAll registry ds) (both.afterAll registry cs) := by
  induction cs generalizing ds first second both with
  | nil =>
    obtain rfl := List.map_eq_nil_iff.mp hs.symm
    exact ⟨trivial, h⟩
  | cons c cs ih =>
    cases ds with
    | nil => cases hs
    | cons d ds =>
      obtain ⟨hsame, hrest⟩ := List.cons.inj hs
      have hafter := h.after c
      rw [second.after_of_same hsame] at hafter
      obtain ⟨hlegal, hjoins⟩ := ih hafter hc.2 hd.2 hrest
      exact ⟨⟨h.legal hr hc.1 hd.1 hsame, hlegal⟩, hjoins⟩

theorem action (hr : registry.Legible) (h : Joins registry first second both) {a b : Action}
    (ha : a.Legal registry first) (hb : b.Legal registry second) (hs : a.bare = b.bare) :
    a.Legal registry both := by
  cases ha with
  | goto ht => exact .goto ht
  | @jump target params ht hparams =>
    cases hb with
    | goto => cases hs
    | @jump target' params' _ hparams' =>
      simp only [Action.bare, Action.mk.injEq, true_and] at hs
      obtain ⟨rfl, hsame⟩ := hs
      exact .jump ht ((h.jumped target).legalAll hr hparams hparams' hsame).1

end Known.Joins

/-! ## Arrays -/

/-- A keyword in scope is not displaced by the keywords of protocols. -/
theorem Scope.Holds.extend_protocols (hr : registry.Legible) {scope : Scope} {k : Keyword}
    (hk : k ∈ registry.keywords) {tables : List Keywords}
    (hsub : ∀ keywords ∈ tables, keywords ⊆ registry.protocolTable) (h : scope.Holds k) :
    (scope.extendAll tables).Holds k := by
  induction tables generalizing scope with
  | nil => exact h
  | cons keywords rest ih =>
    obtain ⟨hkeywords, hrest⟩ := List.forall_mem_cons.mp hsub
    refine ih hrest ?_
    unfold Holds Scope.extend
    cases hf : keywords.find? k.name with
    | none => exact h
    | some l =>
      have hl := hkeywords (List.mem_of_find?_eq_some hf)
      rw [hr.coherent k hk l hl (Scope.find?_name hf).symm]
      rfl

theorem Known.joins_array (hr : registry.Legible) {e : Known} (he : e.Sound registry)
    {c d : Clause} (hk : c.keyword = d.keyword) (hne : c.keyword ≠ "match")
    {items more : List String} (hi : c.value.items? = some items)
    (hm : d.value.items? = some more) :
    Known.Joins registry (e.after registry c) (e.after registry d)
      (e.after registry { c with value := .list (items ++ more) }) := by
  have hdeclares : Clause.declares { c with value := .list (items ++ more) }
      = c.declares ++ d.declares := by
    unfold Clause.declares
    rw [← hk, hi, hm]
    split <;> rfl
  have hbrings : Clause.brings registry { c with value := .list (items ++ more) }
      = c.brings registry ++ d.declares.map registry.protocolKeywords := by
    rw [Clause.brings, Clause.brings, if_neg hne, if_neg hne, hdeclares, List.map_append]
  have hsound : (e.after registry c).Sound registry := he.after c
  refine ⟨fun k hk => ?_, fun p hp => ?_, rfl, he.after _⟩
  · have htables : ∀ keywords ∈ d.declares.map registry.protocolKeywords,
        keywords ⊆ registry.protocolTable := by
      simp only [List.forall_mem_map]
      exact fun name _ => registry.protocolKeywords_subset_table name
    have hboth := Scope.Holds.extend_protocols hr (hsound _ _ hk).2 htables hk
    simp only [Known.after, Scope.extendAll, hbrings, List.foldl_append] at hboth ⊢
    exact hboth
  · simp only [Known.after, hdeclares, List.mem_append] at hp ⊢
    rcases hp with hp | hp | hp
    · exact .inl (.inl hp)
    · exact .inl (.inr hp)
    · exact .inr (.inr hp)

end FermRules
