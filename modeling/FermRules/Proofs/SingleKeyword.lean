import FermRules.Proofs.Growing

/-! # A registry of one keyword

Where one keyword is all that a registry knows, nothing brings other keywords along:
the keyword is in scope up to a jump, and nothing is in scope behind it. What is read
under such a registry is a sequence. Each clause is of the keyword or lists modules, and
none joins the one in front of it, for it would have been joined when it was read. A
keyword whose values are not read from their own text must not be met, but the rest of
a rule without it is such a sequence, too. -/
namespace FermRules

/-- The registry knows the keyword, and neither protocols, modules nor targets. -/
structure Registry.KnowsOnly (registry : Registry) (d : Keyword) : Prop where
  conditions : registry.conditions = [d]
  protocols : registry.protocols = []
  modules : registry.modules = []
  targets : registry.targets = []

theorem Keywords.find?_single (d : Keyword) (name : String) :
    Keywords.find? [d] name = if d.name = name then some d else none := by
  by_cases h : d.name = name
  · simp [Keywords.find?, h]
  · simp [Keywords.find?, h]

theorem Scope.extendAll_nil {tables : List Keywords} (h : ∀ keywords ∈ tables, keywords = [])
    (scope : Scope) : scope.extendAll tables = scope := by
  induction tables generalizing scope with
  | nil => rfl
  | cons keywords tables ih =>
    obtain ⟨rfl, hrest⟩ := List.forall_mem_cons.mp h
    exact ih hrest scope

namespace Registry.KnowsOnly

variable {registry : Registry} {d : Keyword} (h : registry.KnowsOnly d)

include h

theorem isTarget (name : String) : registry.isTarget name = false := by
  rw [Registry.isTarget, h.targets]
  rfl

theorem targetKeywords (name : String) : registry.targetKeywords name = [] := by
  rw [Registry.targetKeywords, h.targets]
  rfl

/-- Modules add nothing to the scope. -/
theorem activate (r : Reading) (names : List String) : r.activate registry names = r := by
  have hnone : ∀ keywords ∈ names.map registry.moduleKeywords, keywords = [] := by
    simp only [List.forall_mem_map, Registry.moduleKeywords, h.modules]
    exact fun _ _ => rfl
  rw [Reading.activate, Scope.extendAll_nil hnone]

/-- A clause teaches no more than the protocols that it declares. -/
theorem learn (r : Reading) (p : Polarity) (v : Value) (definition : Option Keyword) :
    r.learn registry d p v
      = { r with protocols := r.protocols ++ Clause.declares ⟨d.name, p.wrap v, definition⟩ } := by
  unfold Reading.learn
  by_cases hname : d.name = "protocol"
  · cases p with
    | plain =>
      have hnone : ∀ keywords ∈ (v.items?.getD []).map registry.protocolKeywords,
          keywords = [] := by
        simp only [List.forall_mem_map, Registry.protocolKeywords, h.protocols]
        exact fun _ _ => rfl
      have hscope := Scope.extendAll_nil hnone r.scope
      rw [Scope.extendAll, List.foldl_map] at hscope
      rw [if_pos (by simp [hname]), Reading.declare, hscope, Clause.declares, if_pos hname]
      rfl
    | leading | trailing =>
      rw [if_neg (by simp), Clause.declares, if_pos hname]
      simp [Polarity.wrap, Value.items?]
  · rw [if_neg (by simp [hname]), Clause.declares, if_neg hname, List.append_nil]

end Registry.KnowsOnly

/-! ## Clauses that follow each other -/

/-- Modules that may be listed behind these conditions. -/
structure KeptBehind (registry : Registry) (cs : List Clause) (names : List String) : Prop where
  ne : names ≠ []
  unbroken : ∀ s ∈ names, Text.Over Value.noFeed s
  apart : ∀ s ∈ names, s ∉ (cs.flatMap Clause.declares).map registry.moduleForProtocol

theorem KeptBehind.append {registry : Registry} {cs : List Clause} {names more : List String}
    (h : KeptBehind registry cs names) (h' : KeptBehind registry cs more) :
    KeptBehind registry cs (names ++ more) :=
  ⟨List.append_ne_nil_of_left_ne_nil h.ne _, List.forall_mem_append.mpr ⟨h.unbroken, h'.unbroken⟩,
    List.forall_mem_append.mpr ⟨h.apart, h'.apart⟩⟩

/-- What may be read behind these conditions, up to a jump. -/
inductive Clause.MayFollow (registry : Registry) (d : Keyword) (cs : List Clause) : Clause → Prop
  | option {p : Polarity} {v : Value} :
      d.shape.readsBack = true → p.Allowed d → v.Fits Value.noFeed d.shape →
      MayFollow registry d cs ⟨d.name, p.wrap v, some d⟩
  | modules {names : List String} :
      d.name ≠ "match" → KeptBehind registry cs names → MayFollow registry d cs (.ofModules names)

/-- Each clause follows those in front of it and does not join the last of them. -/
inductive Sequence (registry : Registry) (d : Keyword) : List Clause → Prop
  | nil : Sequence registry d []
  | concat {cs : List Clause} {c : Clause} :
      Sequence registry d cs → c.MayFollow registry d cs →
      (∀ last, cs.getLast? = some last → last.accumulate? c = none) →
      Sequence registry d (cs ++ [c])

/-- The action behind these conditions. The parameters of a jump are modules, if any. -/
inductive Action.MayFollow (registry : Registry) (d : Keyword) (cs : List Clause) : Action → Prop
  | plain {kind : ActionKind} {target : String} :
      d.name ≠ kind.name → Text.Over Value.noFeed target →
      MayFollow registry d cs ⟨kind, target, []⟩
  | modules {target : String} {names : List String} :
      d.name ≠ "jump" → Text.Over Value.noFeed target → KeptBehind registry cs names →
      MayFollow registry d cs ⟨.jump, target, [.ofModules names]⟩

namespace Value

/-- Two arrays of a shape make one, unless their words are of a fixed number. -/
theorem Fits.joined {q : Char → Prop} {shape : Shape} {items more : List String}
    (hback : shape.readsBack = true) (h : Fits q shape (.list items))
    (h' : Fits q shape (.list more)) : Fits q shape (.list (items ++ more)) := by
  have hall : ∀ s ∈ items ++ more, Text.Over q s :=
    List.forall_mem_append.mpr ⟨h.items rfl, h'.items rfl⟩
  generalize hv : Value.list items = v at h
  cases h with
  | flag | literal | scalar | composite => cases hv
  | array => exact .array hall
  | list => exact .list hall
  | @fixed texts =>
    have hlen : texts.length = 1 := by simpa [Shape.readsBack] using hback
    obtain ⟨text, rfl⟩ := List.length_eq_one_iff.mp hlen
    cases hv

end Value

namespace Clause

variable {registry : Registry} {d : Keyword} {cs : List Clause} {c last both : Clause}

/-- A clause that joins the one in front of it makes a clause of the same kind. -/
theorem MayFollow.joined (hlast : last.MayFollow registry d cs)
    (hc : c.MayFollow registry d (cs ++ [last])) (h : last.accumulate? c = some both) :
    both.MayFollow registry d cs := by
  obtain ⟨items, more, hitems, hmore, hkey, rfl⟩ := of_accumulate? h
  cases hlast with
  | option hback hp hv =>
    obtain ⟨rfl, rfl⟩ := Polarity.wrap_eq_list hitems
    cases hc with
    | option _ hp' hv' =>
      obtain ⟨rfl, rfl⟩ := Polarity.wrap_eq_list hmore
      exact .option (p := .plain) hback trivial (hv.joined hback hv')
    | modules hne => exact absurd hkey hne
  | modules hne hnames =>
    cases hitems
    cases hc with
    | option => exact absurd hkey.symm hne
    | modules _ hnames' =>
      cases hmore
      have hnone : (Clause.ofModules items).declares = [] := declares_match rfl
      have hapart := hnames'.apart
      rw [List.flatMap_append, List.flatMap_singleton, hnone, List.append_nil] at hapart
      exact .modules hne (hnames.append ⟨hnames'.ne, hnames'.unbroken, hapart⟩)

end Clause

namespace Sequence

variable {registry : Registry} {d : Keyword} {cs : List Clause} {c : Clause}

theorem of_concat (h : Sequence registry d (cs ++ [c])) :
    Sequence registry d cs ∧ c.MayFollow registry d cs ∧
      ∀ last, cs.getLast? = some last → last.accumulate? c = none := by
  generalize hall : cs ++ [c] = all at h
  cases h with
  | nil => simp at hall
  | concat hcs hc hapart =>
    obtain ⟨rfl, heq⟩ := List.append_inj' hall rfl
    cases heq
    exact ⟨hcs, hc, hapart⟩

theorem mem (h : Sequence registry d cs) : ∀ c ∈ cs, ∃ front, c.MayFollow registry d front := by
  induction h with
  | nil => exact List.forall_mem_nil _
  | concat _ hc _ ih =>
    exact List.forall_mem_append.mpr ⟨ih, List.forall_mem_singleton.mpr ⟨_, hc⟩⟩

/-- A clause that is read behind a sequence goes on with it. -/
theorem push (h : Sequence registry d cs) (hc : c.MayFollow registry d cs) :
    Sequence registry d (pushClause c cs) := by
  rcases List.eq_nil_or_concat cs with rfl | ⟨front, last, rfl⟩
  · exact .concat .nil hc nofun
  · rw [List.concat_eq_append] at h hc ⊢
    obtain ⟨hfront, hlast, hapart⟩ := h.of_concat
    rw [pushClause_concat]
    cases hboth : last.accumulate? c with
    | some both =>
      exact .concat hfront (hlast.joined hc hboth) fun before hbefore =>
        Clause.accumulate?_joined hboth (hapart before hbefore)
    | none =>
      have hnext : Sequence registry d ((front ++ [last]) ++ [c]) :=
        .concat h hc fun _ hl => by
          obtain rfl : last = _ := by simpa using hl
          exact hboth
      rwa [List.append_assoc] at hnext

end Sequence

/-! ## What is read is a sequence -/

theorem Action.MayFollow.goto {registry : Registry} {d : Keyword} {cs ds : List Clause} {a : Action}
    (h : a.MayFollow registry d cs) (ha : a.kind = .goto) : a.MayFollow registry d ds := by
  cases h with
  | plain hne htarget => exact .plain hne htarget
  | modules => cases ha

namespace Reading

variable {registry : Registry} {d : Keyword} {r : Reading}

/-- An option that is read in front of a jump is met among the conditions. -/
theorem keyword_mem (hin : r.inTarget = false) (p : Polarity) (v : Value) :
    d.name ∈ ((r.learn registry d p v).push ⟨d.name, p.wrap v, some d⟩).conditions.map
      Clause.keyword := by
  rw [push_conditions (by rwa [learn_inTarget])]
  exact LeafRule.keyword_mem_push.mpr (.inr rfl)

/-- What holds of a reading where the keyword is all that the registry knows. -/
structure Single (registry : Registry) (d : Keyword) (r : Reading) : Prop where
  scope : r.scope = Keywords.find? (if r.inTarget then [] else [d])
  conditions : Sequence registry d r.conditions
  protocols : r.protocols = r.conditions.flatMap Clause.declares
  action : ∀ a, r.action = some a → a.MayFollow registry d r.conditions

namespace Single

theorem start (hone : registry.KnowsOnly d) : (Reading.start registry).Single registry d :=
  ⟨congrArg Keywords.find? hone.conditions, .nil, rfl, nofun⟩

theorem name_ne (h : r.Single registry d) (hin : r.inTarget = false) {name : String}
    (hnone : r.scope name = none) : d.name ≠ name := by
  rw [h.scope, hin, if_neg Bool.false_ne_true, Keywords.find?_single] at hnone
  exact fun he => by simp [he] at hnone

/-- A keyword is met only in front of a jump. -/
theorem eq_of_scope (h : r.Single registry d) {name : String} {k : Keyword}
    (hk : r.scope name = some k) : r.inTarget = false ∧ k = d := by
  rw [h.scope] at hk
  cases hin : r.inTarget with
  | true =>
    rw [hin] at hk
    cases hk
  | false =>
    rw [hin, if_neg Bool.false_ne_true, Keywords.find?_single] at hk
    split at hk
    · cases hk
      exact ⟨rfl, rfl⟩
    · cases hk

theorem unnegated (h : r.Single registry d) (negated : Bool) :
    { r with negated }.Single registry d := ⟨h.scope, h.conditions, h.protocols, h.action⟩

/-- A clause in front of a jump goes on with the conditions. -/
theorem push (h : r.Single registry d) (hin : r.inTarget = false) {c : Clause}
    (hc : c.MayFollow registry d r.conditions) :
    ({ r with protocols := r.protocols ++ c.declares }.push c).Single registry d := by
  obtain ⟨scope, conditions, action, negated, protocols⟩ := r
  have hconditions := h.conditions.push hc
  have hprotocols : protocols ++ c.declares = (pushClause c conditions).flatMap Clause.declares :=
    (congrArg (· ++ c.declares) h.protocols).trans (Clause.declares_push c conditions).symm
  rcases action with _ | ⟨kind, target, params⟩
  · exact ⟨h.scope, hconditions, hprotocols, nofun⟩
  · cases kind with
    | goto =>
      refine ⟨h.scope, hconditions, hprotocols, fun a ha => (h.action a ha).goto ?_⟩
      cases ha
      rfl
    | jump => cases hin

/-- Behind a jump there are only modules, which join each other. -/
theorem pushModules (h : r.Single registry d) (hin : r.inTarget = true) {names : List String}
    (hnames : KeptBehind registry r.conditions names) :
    (r.push (.ofModules names)).Single registry d := by
  obtain ⟨scope, conditions, action, negated, protocols⟩ := r
  rcases action with _ | ⟨kind, target, params⟩
  · cases hin
  · cases kind with
    | goto => cases hin
    | jump =>
      refine ⟨h.scope, h.conditions, h.protocols, fun a ha => ?_⟩
      cases ha
      have haction : Action.MayFollow registry d conditions ⟨.jump, target, params⟩ :=
        h.action _ rfl
      cases haction with
      | plain hne htarget => exact .modules hne htarget hnames
      | modules hne htarget hbefore => exact .modules hne htarget (hbefore.append hnames)

theorem addModules (hone : registry.KnowsOnly d) (h : r.Single registry d)
    (hnone : r.scope "match" = none) {names : List String}
    (hover : ∀ s ∈ names, Text.Over Value.noFeed s) :
    (r.addModules registry names).Single registry d := by
  rw [addModules_eq, hone.activate]
  split
  · exact h
  · rename_i hne
    have hkept : KeptBehind registry r.conditions (r.kept registry names) :=
      ⟨hne, fun s hs => hover s (List.mem_of_mem_filter hs), fun s hs => by
        rw [← h.protocols]
        simpa using List.of_mem_filter hs⟩
    cases hin : r.inTarget with
    | true => exact h.pushModules hin hkept
    | false =>
      have hpush := h.push hin (.modules (h.name_ne hin hnone) hkept)
      rwa [Clause.declares_match rfl, List.append_nil] at hpush

theorem withAction (hone : registry.KnowsOnly d) (h : r.Single registry d) (ha : r.action = none)
    {kind : ActionKind} (hnone : r.scope kind.name = none) {target : String}
    (htarget : Text.Over Value.noFeed target) :
    (r.withAction registry kind target).Single registry d := by
  have hin : r.inTarget = false := by simp [inTarget, ha]
  have hne := h.name_ne hin hnone
  refine ⟨?_, h.conditions, h.protocols, fun a hsome => ?_⟩
  · cases kind with
    | jump => exact congrArg Keywords.find? (hone.targetKeywords target)
    | goto =>
      have hscope := h.scope
      rw [hin] at hscope
      exact hscope
  · cases hsome
    exact .plain hne htarget

theorem steps (hone : registry.KnowsOnly d) (h : r.Single registry d) {r' : Reading} {t : Token}
    {tokens rest : List Token} (htokens : Token.AllOver Value.noFeed tokens)
    (hs : Steps registry r t tokens r' rest)
    (hback : d.shape.readsBack = true ∨ d.name ∉ r'.conditions.map Clause.keyword) :
    r'.Single registry d := by
  cases hs with
  | negation => exact h.unnegated true
  | option hk hp hv =>
    obtain ⟨hin, rfl⟩ := h.eq_of_scope hk
    have hback := hback.resolve_right fun hnone =>
      hnone (keyword_mem (r := { r with negated := false }) hin _ _)
    have hfits := (Value.read_ok (htokens.of_suffix (Polarity.skip_suffix _ tokens)) hv).2
    rw [hone.learn]
    exact (h.unnegated false).push hin (.option hback (Polarity.allowed_of_read hp) hfits)
  | modules _ hnone _ hl => exact h.addModules hone hnone (Value.readList_ok htokens hl).2
  | @action kind target _ _ ha hnames hfree =>
    have hnot : ¬ registry.isTarget target = true := by simp [hone.isTarget]
    have hover : Text.Over Value.noFeed target := by
      obtain ⟨u, rfl, rfl⟩ | ⟨-, -, htarget⟩ := hnames
      · exact htokens u List.mem_cons_self
      · exact absurd htarget hnot
    exact h.withAction hone ha (hfree.resolve_right hnot) hover
  | nothing => exact h

/-- Where the keyword has not been met in the end, it has not been met on the way. -/
theorem of_run (hone : registry.KnowsOnly d) {tokens : List Token}
    (htokens : Token.AllOver Value.noFeed tokens) {last : Reading}
    (h : (Reading.start registry).run registry tokens = .ok last)
    (hback : d.shape.readsBack = true ∨ d.name ∉ last.conditions.map Clause.keyword) :
    last.Single registry d := by
  have hlast := run_induction (P := fun r tokens => r.Sound registry ∧
    r.run registry tokens = .ok last ∧ r.Single registry d ∧
    Token.AllOver Value.noFeed tokens) ?_ ⟨sound_start, h, start hone, htokens⟩ h
  · exact hlast.2.2.1
  · intro r t tokens r' rest ⟨hsound, hrun, hr, hover⟩ hs
    have hsteps := steps_of_step hs
    have htail : Token.AllOver Value.noFeed tokens := hover.of_suffix (List.suffix_cons t tokens)
    have hsound' := hsound.steps hsteps
    rw [run_cons, hs, ok_bind] at hrun
    have hback' := hback.imp_right fun hnone hname => hnone (run_keeps hsound' hrun hname)
    exact ⟨hsound', hrun, hr.steps hone htail hsteps hback', htail.of_suffix hsteps.suffix⟩

end Single

end Reading

/-- The conditions are a sequence, and the action stands behind them. -/
structure LeafRule.Single (registry : Registry) (d : Keyword) (r : LeafRule) : Prop where
  conditions : Sequence registry d r.conditions
  action : ∀ a, r.action = some a → a.MayFollow registry d r.conditions

theorem LeafRule.single_of_text {registry : Registry} {d : Keyword} (hone : registry.KnowsOnly d)
    {text : String} (hline : Text.Unbroken text) {r : LeafRule} (h : ofText registry text = .ok r)
    (hback : d.shape.readsBack = true ∨ d.name ∉ r.conditions.map Clause.keyword) :
    r.Single registry d := by
  obtain ⟨tokens, htokens, hread⟩ := tokens_of_text h
  obtain ⟨last, hrun, hfinish⟩ := bind_ok hread
  have hover : Text.Over Value.noFeed text := fun c hc he => hline (he ▸ hc)
  unfold Reading.finish at hfinish
  split at hfinish
  · cases hfinish
  · cases hfinish
    have hlast := Reading.Single.of_run hone
      (dropTerminator_over (over_of_tokenize htokens hover)) hrun hback
    exact ⟨hlast.conditions, hlast.action⟩

end FermRules
