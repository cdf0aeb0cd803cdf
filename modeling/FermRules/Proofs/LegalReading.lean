import FermRules.Proofs.Taking

/-! # What is read is legal

While a rule is read, the clauses read so far are legal, and what is known
behind them is what the reader knows. This would fail where a module is left out
that brings keywords of its own along: they are in scope, but no clause tells so.
It does not fail if each module that is left out is covered, which means that a
declared protocol has brought all its keywords along already. Declared keywords
stay in scope up to a jump, for a legible registry gives their names to no other
keyword. -/
namespace FermRules

/-! ## Keywords of declared protocols -/

namespace Scope

/-- The scope finds the keyword under its name. -/
def Holds (scope : Scope) (k : Keyword) : Prop := scope k.name = some k

variable {registry : Registry}

/-- More keywords do not displace a keyword of a protocol. -/
theorem Holds.extend (hr : registry.Legible) {scope : Scope} {k : Keyword}
    (hk : k ∈ registry.protocolTable) {keywords : Keywords} (hsub : keywords ⊆ registry.keywords)
    (h : scope.Holds k ∨ k ∈ keywords) : (scope.extend keywords).Holds k := by
  unfold Holds Scope.extend
  cases hf : keywords.find? k.name with
  | some l =>
    have hl := hr.coherent l (hsub (List.mem_of_find?_eq_some hf)) k hk (find?_name hf)
    rw [Option.some_or, hl]
  | none =>
    rw [Option.none_or]
    rcases h with h | hmem
    · exact h
    · have := List.find?_eq_none.mp hf k hmem
      simp at this

theorem Holds.extendAll (hr : registry.Legible) {scope : Scope} {k : Keyword}
    (hk : k ∈ registry.protocolTable) {tables : List Keywords}
    (hsub : ∀ keywords ∈ tables, keywords ⊆ registry.keywords)
    (h : scope.Holds k ∨ ∃ keywords ∈ tables, k ∈ keywords) : (scope.extendAll tables).Holds k := by
  induction tables generalizing scope with
  | nil => simpa [Scope.extendAll] using h
  | cons keywords rest ih =>
    obtain ⟨hkeywords, hrest⟩ := List.forall_mem_cons.mp hsub
    refine ih hrest ?_
    rcases h with h | ⟨table, ht, hmem⟩
    · exact .inl (Holds.extend hr hk hkeywords (.inl h))
    · rcases List.mem_cons.mp ht with rfl | ht
      · exact .inl (Holds.extend hr hk hkeywords (.inr hmem))
      · exact .inr ⟨table, ht, hmem⟩

/-- Keywords that are in scope under their names already add nothing. -/
theorem extend_of_holds {scope : Scope} {keywords : Keywords}
    (h : ∀ k ∈ keywords, scope.Holds k) : scope.extend keywords = scope := by
  funext name
  unfold extend
  cases hf : keywords.find? name with
  | none => rw [Option.none_or]
  | some k =>
    rw [Option.some_or, ← h k (List.mem_of_find?_eq_some hf), find?_name hf]

end Scope

namespace Reading

variable {registry : Registry}

/-! ## Left-out modules -/

/-- The modules that are named and left out, each with what has been read in
front of the option that names it. -/
def leftOut (registry : Registry) (r : Reading) : List Token → List (Reading × String)
  | [] => []
  | t :: rest =>
    match _h : r.step registry t rest with
    | .error _ => []
    | .ok (r', rest') =>
      ((r.modulesAt registry t rest).filter
          (r.protocols.map registry.moduleForProtocol).contains).map (r, ·)
        ++ leftOut registry r' rest'
termination_by tokens => tokens.length
decreasing_by
  have := step_within registry r t rest r' rest' _h
  simp only [List.length_cons]
  omega

/-- The module is named in front of any jump, and one of the protocols declared
by then has brought all its keywords along. -/
def Covers (registry : Registry) (r : Reading) (name : String) : Prop :=
  r.inTarget = false ∧
    ∃ p ∈ r.protocols, ∀ k ∈ registry.moduleKeywords name, k ∈ registry.protocolKeywords p

def Covered (registry : Registry) (r : Reading) (tokens : List Token) : Prop :=
  ∀ x ∈ r.leftOut registry tokens, x.1.Covers registry x.2

instance (registry : Registry) (r : Reading) (name : String) :
    Decidable (r.Covers registry name) :=
  inferInstanceAs (Decidable (_ ∧ ∃ p ∈ r.protocols, ∀ k ∈ registry.moduleKeywords name,
    k ∈ registry.protocolKeywords p))

instance (registry : Registry) (r : Reading) (tokens : List Token) :
    Decidable (r.Covered registry tokens) :=
  inferInstanceAs (Decidable (∀ x ∈ r.leftOut registry tokens, x.1.Covers registry x.2))

theorem Covered.cons {r r' : Reading} {t : Token} {tokens rest : List Token}
    (h : r.Covered registry (t :: tokens)) (hs : r.step registry t tokens = .ok (r', rest)) :
    (∀ name ∈ r.modulesAt registry t tokens, name ∈ r.protocols.map registry.moduleForProtocol →
      r.Covers registry name) ∧ r'.Covered registry rest := by
  unfold Covered at h
  rw [leftOut] at h
  split at h
  · rename_i hs'
    rw [hs] at hs'
    cases hs'
  · rename_i hs'
    rw [hs] at hs'
    cases hs'
    obtain ⟨hhere, hbehind⟩ := List.forall_mem_append.mp h
    refine ⟨fun name hn hi => ?_, hbehind⟩
    refine hhere (r, name) (List.mem_map.mpr ⟨name, ?_, rfl⟩)
    exact List.mem_filter.mpr ⟨hn, by simpa using hi⟩

/-! ## The invariant -/

/-- What is known in front of the current list. -/
def base (registry : Registry) (r : Reading) : Known :=
  match r.action with
  | some ⟨.jump, target, _⟩ =>
    ((Known.start registry).afterAll registry r.conditions).jumped registry target
  | _ => Known.start registry

/-- The protocols that have been declared have their keywords in scope. -/
def Declared (registry : Registry) (e : Known) : Prop :=
  ∀ p ∈ e.protocols, ∀ k ∈ registry.protocolKeywords p, e.scope.Holds k

structure Legal (registry : Registry) (r : Reading) : Prop where
  conditions : LegalAll registry (.start registry) r.conditions
  current : LegalAll registry (r.base registry) r.current
  known : r.known = (r.base registry).afterAll registry r.current
  declared : r.inTarget = false → Declared registry r.known
  target : ∀ a, r.action = some a → Text.Over Value.noFeed a.target
  goto : ∀ a, r.action = some a → a.kind = .goto → a.params = []

theorem base_last (r : Reading) : (r.base registry).last = none := by
  unfold base
  split <;> rfl

theorem base_sound (r : Reading) : (r.base registry).Sound registry := by
  unfold base
  split
  · exact .jumped _ _
  · exact Known.sound_start

theorem base_withCurrent (r : Reading) (cs : List Clause) :
    (r.withCurrent cs).base registry = r.base registry := by
  obtain ⟨scope, conditions, action, negated, protocols⟩ := r
  rcases action with _ | ⟨kind, target, params⟩
  · rfl
  · cases kind <;> rfl

theorem Legal.sound {r : Reading} (h : r.Legal registry) : r.known.Sound registry := by
  rw [h.known]
  exact (base_sound r).afterAll _

theorem legal_start : (start registry).Legal registry where
  conditions := trivial
  current := trivial
  known := rfl
  declared _ _ hp := nomatch hp
  target _ ha := nomatch ha
  goto _ ha := nomatch ha

/-- The current list may be replaced by any legal one, if what is known is what
that list tells. -/
theorem Legal.replace {r : Reading} (h : r.Legal registry) {cs : List Clause}
    (hcs : LegalAll registry (r.base registry) cs)
    (hdecl : r.inTarget = false → Declared registry ((r.base registry).afterAll registry cs)) :
    ((r.inform ((r.base registry).afterAll registry cs)).withCurrent cs).Legal registry := by
  have hknown : ((r.inform ((r.base registry).afterAll registry cs)).withCurrent cs).known
      = (r.base registry).afterAll registry cs := by
    have hlast : ((r.base registry).afterAll registry cs).last = _ := Known.afterAll_last _ cs
    rw [base_last, Option.or_none] at hlast
    rw [known_withCurrent, ← hlast]
    rfl
  have hbase : ((r.inform ((r.base registry).afterAll registry cs)).withCurrent cs).base registry
      = r.base registry := base_withCurrent _ cs
  have hrest := h.conditions
  have htarget := h.target
  have hgoto := h.goto
  constructor
  case current =>
    rw [hbase, current_withCurrent]
    exact hcs
  case known => rw [hbase, current_withCurrent, hknown]
  case declared =>
    intro hin
    rw [hknown]
    exact hdecl (by simpa using hin)
  -- the other parts change with the list that is the current one
  all_goals
    obtain ⟨scope, conditions, action, negated, protocols⟩ := r
    rcases action with _ | ⟨kind, target, params⟩
    on_goal 2 => cases kind
  case conditions.none | conditions.some.goto => exact hcs
  case conditions.some.jump => exact hrest
  case target.some.jump =>
    intro a ha
    cases ha
    exact htarget ⟨.jump, target, params⟩ rfl
  case goto.some.jump =>
    intro a ha hk
    cases ha
    cases hk
  all_goals assumption

/-! ## Options -/

theorem Declared.after (hr : registry.Legible) {e : Known} (h : Declared registry e)
    (c : Clause) : Declared registry (e.after registry c) := by
  intro p hp k hk
  refine Scope.Holds.extendAll hr (registry.protocolKeywords_subset_table p hk)
    (fun keywords hm => List.Subset.trans (c.brings_subset registry keywords hm)
      registry.brought_subset_keywords) ?_
  rcases List.mem_append.mp hp with hp | hp
  · exact .inl (h p hp k hk)
  · refine .inr ⟨registry.protocolKeywords p, ?_, hk⟩
    unfold Clause.declares at hp
    split at hp
    · rename_i hkey
      rw [Clause.brings, if_neg (by simp [hkey]), Clause.declares, if_pos hkey]
      exact List.mem_map_of_mem hp
    · cases hp

/-- A legal clause may be put behind the others. -/
theorem Legal.append (hr : registry.Legible) {r : Reading} (h : r.Legal registry) {c : Clause}
    (hc : c.Legal registry r.known) : (r.taking registry c).Legal registry := by
  have hknown : r.known.after registry c
      = (r.base registry).afterAll registry (r.current ++ [c]) := by
    rw [Known.afterAll_append, ← h.known]
    rfl
  rw [taking, hknown]
  refine h.replace (legalAll_concat.mpr ⟨h.current, h.known ▸ hc⟩) fun hin => ?_
  rw [← hknown]
  exact (h.declared hin).after hr c

theorem Legal.unnegated {r : Reading} (h : r.Legal registry) (b : Bool) :
    { r with negated := b }.Legal registry :=
  ⟨h.conditions, h.current, h.known, h.declared, h.target, h.goto⟩

theorem Legal.option (hr : registry.Legible) {r : Reading} (h : r.Legal registry) {name : String}
    {k : Keyword} {p : Polarity} {v : Value} (hk : r.scope name = some k) (hp : p.Allowed k)
    (hv : v.Fits Value.noFeed k.shape) :
    ((r.learn registry k p v).push ⟨k.name, p.wrap v, some k⟩).Legal registry := by
  obtain ⟨hname, hmem⟩ := h.sound name k hk
  have hleg := hr.keyword k hmem
  have hne : k.name ≠ "match" := fun he => hleg.free (by simp [he, Registry.reserved])
  have hlegal : Clause.Legal registry r.known ⟨k.name, p.wrap v, some k⟩ :=
    .option (hname ▸ hk) hleg hp hv
  have htaking := h.append hr hlegal
  rw [taking] at htaking
  rw [push_eq, learn_eq r hne, current_inform,
    pushClause_apart fun last _ => last.accumulate?_single rfl hleg.single]
  exact htaking

/-! ## Modules -/

/-- Covered modules add nothing to a scope that holds what was declared. -/
theorem extendAll_filter (hr : registry.Legible) {scope : Scope} {protocols : List String}
    (hd : Declared registry ⟨scope, protocols, none⟩) {names : List String} {keep : String → Bool}
    (hc : ∀ name ∈ names, keep name = false → ∃ p ∈ protocols,
      ∀ k ∈ registry.moduleKeywords name, k ∈ registry.protocolKeywords p) :
    scope.extendAll (names.map registry.moduleKeywords)
      = scope.extendAll ((names.filter keep).map registry.moduleKeywords) := by
  induction names generalizing scope with
  | nil => rfl
  | cons name names ih =>
    obtain ⟨hname, hnames⟩ := List.forall_mem_cons.mp hc
    have hd' : Declared registry ⟨scope.extend (registry.moduleKeywords name), protocols, none⟩ :=
      fun p hp k hk => Scope.Holds.extend hr (registry.protocolKeywords_subset_table p hk)
        (List.Subset.trans (registry.moduleKeywords_subset name) registry.brought_subset_keywords)
        (.inl (hd p hp k hk))
    have htail := ih hd' hnames
    simp only [Scope.extendAll, List.map_cons, List.foldl_cons] at htail ⊢
    rw [htail]
    cases hk : keep name with
    | true => rw [List.filter_cons_of_pos hk, List.map_cons, List.foldl_cons]
    | false =>
      obtain ⟨p, hp, hsub⟩ := hname hk
      rw [List.filter_cons_of_neg (by simp [hk]),
        Scope.extend_of_holds fun k hk => hd p hp k (hsub k hk)]

/-- Left-out modules change nothing that is known. -/
theorem activate_kept (hr : registry.Legible) {r : Reading} (h : r.Legal registry)
    {names : List String}
    (hc : ∀ name ∈ names, name ∈ r.protocols.map registry.moduleForProtocol →
      r.Covers registry name) :
    r.activate registry names = r.activate registry (r.kept registry names) := by
  unfold activate
  congr 1
  by_cases hin : r.inTarget = true
  · -- behind a jump nothing may be left out
    have hall : r.kept registry names = names := by
      refine List.filter_eq_self.mpr fun name hn => ?_
      have : name ∉ r.protocols.map registry.moduleForProtocol := fun hi => by
        rw [(hc name hn hi).1] at hin
        cases hin
      simpa using this
    rw [hall]
  · have hd := h.declared (by simpa using hin)
    have hcovers : ∀ name ∈ names, (!(r.protocols.map registry.moduleForProtocol).contains name)
        = false → ∃ p ∈ r.protocols, ∀ k ∈ registry.moduleKeywords name,
          k ∈ registry.protocolKeywords p :=
      fun name hn hk => (hc name hn (by simpa using hk)).2
    exact extendAll_filter hr hd hcovers

/-- Modules that are read behind another list of modules join it. -/
theorem Legal.join (hr : registry.Legible) {r : Reading} (h : r.Legal registry)
    {names : List String} (hlast : r.known.last = some "match") (hne : names ≠ [])
    (hover : ∀ s ∈ names, Text.Over Value.noFeed s)
    (himp : ∀ s ∈ names, s ∉ r.protocols.map registry.moduleForProtocol) :
    ((r.activate registry names).push (Clause.ofModules names)).Legal registry := by
  rcases List.eq_nil_or_concat r.current with hnil | ⟨front, last, hcur⟩
  · simp [Reading.known, hnil] at hlast
  rw [List.concat_eq_append] at hcur
  have hcurrent := h.current
  rw [hcur, legalAll_concat] at hcurrent
  obtain ⟨hfront, hlegal⟩ := hcurrent
  have hkey : last.keyword = "match" := by simpa [Reading.known, hcur] using hlast
  obtain ⟨names₀, rfl, hover₀, himp₀, hbefore⟩ := hlegal.modules_of_keyword hkey
  have hsound : ((r.base registry).afterAll registry front).Sound registry :=
    (base_sound r).afterAll front
  have hknown := h.known
  rw [hcur, Known.afterAll_append] at hknown
  generalize he : (r.base registry).afterAll registry front = e at *
  -- the two lists tell the same as one with the modules of both
  have hprotocols : r.protocols = e.protocols :=
    congrArg Known.protocols (hknown.trans (e.after_match names₀ _))
  have hafter : (r.base registry).afterAll registry
      (front ++ [Clause.ofModules (names₀ ++ names)])
      = r.known.after registry (Clause.ofModules names) := by
    rw [Known.afterAll_append, he, hknown]
    exact (e.after_ofModules_append names₀ names).symm
  have hjoined : (Clause.ofModules (names₀ ++ names)).Legal registry e := by
    refine .modules (hr.scope_reserved hsound (by decide)) hbefore (by simp [hne]) ?_ ?_
    · exact List.forall_mem_append.mpr ⟨hover₀, hover⟩
    · exact List.forall_mem_append.mpr ⟨himp₀, hprotocols ▸ himp⟩
  have hreplace := h.replace (legalAll_concat.mpr ⟨hfront, he ▸ hjoined⟩) fun hin => by
    rw [hafter]
    exact (h.declared hin).after hr _
  rw [push_eq, activate_eq r names (some matchKeyword), current_inform, hcur, pushClause_concat,
    Clause.accumulate?_ofModules]
  rw [hafter] at hreplace
  exact hreplace

theorem Legal.modules (hr : registry.Legible) {r : Reading} (h : r.Legal registry)
    {names : List String} (hne : names ≠ []) (hover : ∀ s ∈ names, Text.Over Value.noFeed s)
    (himp : ∀ s ∈ names, s ∉ r.protocols.map registry.moduleForProtocol) :
    ((r.activate registry names).push (Clause.ofModules names)).Legal registry := by
  by_cases hlast : r.known.last = some "match"
  · exact h.join hr hlast hne hover himp
  · have hlegal : (Clause.ofModules names).Legal registry r.known :=
      .modules (hr.scope_reserved h.sound (by decide)) hlast hne hover himp
    have hapart : ∀ last, r.current.getLast? = some last →
        last.accumulate? (Clause.ofModules names) = none := by
      intro last hl
      have hkey : last.keyword ≠ "match" := by simpa [Reading.known, hl] using hlast
      exact Clause.accumulate?_of_ne hkey
    have htaking := h.append hr hlegal
    rw [taking] at htaking
    rw [push_eq, activate_eq r names (some matchKeyword), current_inform, pushClause_apart hapart]
    exact htaking

/-! ## Steps -/

theorem Legal.addModules (hr : registry.Legible) {r : Reading} (h : r.Legal registry)
    {names : List String} (hover : ∀ s ∈ names, Text.Over Value.noFeed s)
    (hc : ∀ name ∈ names, name ∈ r.protocols.map registry.moduleForProtocol →
      r.Covers registry name) : (r.addModules registry names).Legal registry := by
  rw [addModules_eq, activate_kept hr h hc]
  split
  · rename_i hnil
    rw [hnil]
    exact h
  · rename_i hne
    refine h.modules hr hne (fun s hs => hover s (List.mem_of_mem_filter hs)) fun s hs => ?_
    simpa using List.of_mem_filter hs

/-- An action ends what is known about the conditions only if it is a jump. -/
theorem Legal.withAction {r : Reading} (h : r.Legal registry) (ha : r.action = none)
    {kind : ActionKind} {target : String} (ht : Text.Over Value.noFeed target) :
    (r.withAction registry kind target).Legal registry := by
  obtain ⟨scope, conditions, action, negated, protocols⟩ := r
  dsimp only at ha
  subst ha
  have hknown := h.known
  cases kind with
  | goto =>
    refine ⟨h.conditions, h.current, hknown, h.declared, fun a ha => ?_, fun a ha _ => ?_⟩
    · cases ha
      exact ht
    · cases ha
      rfl
  | jump =>
    refine ⟨h.conditions, trivial, ?_, nofun, fun a ha => ?_, fun a ha hk => ?_⟩
    · have hprotocols : protocols
          = ((Known.start registry).afterAll registry conditions).protocols :=
        congrArg Known.protocols hknown
      rw [hprotocols]
      rfl
    · cases ha
      exact ht
    · cases ha
      cases hk

theorem Names.over (hr : registry.Legible) {kind : ActionKind} {target : String}
    {tokens rest : List Token} (h : Names registry kind target tokens rest)
    (htokens : Token.AllOver Value.noFeed tokens) : Text.Over Value.noFeed target := by
  obtain ⟨u, rfl, rfl⟩ | ⟨_, _, htarget⟩ := h
  · exact htokens u List.mem_cons_self
  · exact fun c hc => Token.ne_of_isSimpleChar ((hr.target target htarget).simple c hc) (by decide)

theorem Legal.step (hr : registry.Legible) {r r' : Reading} (h : r.Legal registry) {t : Token}
    {tokens rest : List Token} (htokens : Token.AllOver Value.noFeed tokens)
    (hc : r.Covered registry (t :: tokens)) (hs : r.step registry t tokens = .ok (r', rest)) :
    r'.Legal registry := by
  cases steps_of_step hs with
  | negation => exact h.unnegated true
  | option hk hp hv =>
    have hfits := (Value.read_ok (htokens.of_suffix (Polarity.skip_suffix _ tokens)) hv).2
    exact (h.unnegated false).option hr hk (Polarity.allowed_of_read hp) hfits
  | @modules names _ _ _ ho hl =>
    have hnames : r.modulesAt registry t tokens = names := by rw [modulesAt, ho, hl]
    refine h.addModules hr (Value.readList_ok htokens hl).2 ?_
    rw [← hnames]
    exact (hc.cons hs).1
  | action _ ha hnames => exact h.withAction ha (hnames.over hr htokens)
  | nothing => exact h

/-- The rule that has been read is legal where rules begin. -/
theorem Legal.rule {r : Reading} (h : r.Legal registry) :
    LeafRule.Legal registry (.start registry) ⟨r.conditions, r.action⟩ := by
  refine ⟨h.conditions, fun a ha => ?_⟩
  obtain ⟨kind, target, params⟩ := a
  have htarget : Text.Over Value.noFeed target := h.target _ ha
  cases kind with
  | goto =>
    obtain rfl : params = [] := h.goto _ ha rfl
    exact .goto htarget
  | jump =>
    have hcurrent := h.current
    simp only [base, Reading.current, show r.action = some ⟨.jump, target, params⟩ from ha]
      at hcurrent
    exact .jump htarget hcurrent

end Reading

namespace LeafRule

/-- Each module that is left out of the rule is covered. -/
def Covered (registry : Registry) (tokens : List Token) : Prop :=
  (Reading.start registry).Covered registry (dropTerminator tokens)

instance (registry : Registry) (tokens : List Token) : Decidable (Covered registry tokens) :=
  inferInstanceAs (Decidable ((Reading.start registry).Covered registry (dropTerminator tokens)))

theorem legal_of_tokens {registry : Registry} (hr : registry.Legible) {tokens : List Token}
    (htokens : Token.AllOver Value.noFeed tokens) (hc : Covered registry tokens) {r : LeafRule}
    (h : ofTokens registry tokens = .ok r) : r.Legal registry (.start registry) := by
  obtain ⟨last, hrun, -, rfl⟩ := ofTokens_ok.mp h
  have hlast := Reading.run_induction (P := fun r tokens =>
      r.Legal registry ∧ Token.AllOver Value.noFeed tokens ∧ r.Covered registry tokens) ?_
    ⟨Reading.legal_start, dropTerminator_over htokens, hc⟩ hrun
  · exact hlast.1.rule
  · intro r t tokens r' rest ⟨hlegal, hover, hcov⟩ hs
    have htail : Token.AllOver Value.noFeed tokens := hover.of_suffix (List.suffix_cons t tokens)
    exact ⟨hlegal.step hr htail hcov hs, htail.of_suffix (Reading.steps_of_step hs).suffix,
      (hcov.cons hs).2⟩

theorem legal_of_text {registry : Registry} (hr : registry.Legible) {text : String}
    (hline : Text.Unbroken text) {tokens : List Token} (htokens : tokenize text = .ok tokens)
    (hc : Covered registry tokens) {r : LeafRule} (h : ofTokens registry tokens = .ok r) :
    r.Legal registry (.start registry) := by
  have hover : Text.Over Value.noFeed text := fun c hc he => hline (he ▸ hc)
  exact legal_of_tokens hr (over_of_tokenize htokens hover) hc h

end LeafRule

end FermRules
