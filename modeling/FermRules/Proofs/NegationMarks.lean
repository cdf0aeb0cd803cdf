import FermRules.Proofs.ClauseText
import FermRules.Proofs.Growing
import FermRules.Proofs.StandardKeywords

/-! # A marker negates one clause

Behind a marker `!` only an option can be read that may be negated in front, and it
takes the marker. Its value is read as without the marker, so the two readings behind
it differ in its clause only, unless it is the protocol, which brings its keywords
along if it is not negated. From then on no step tells the two readings apart. A
clause may join the one in front of it only if it lists modules, or its keyword
accumulates, and neither is so for an option of a legible registry. -/
namespace FermRules

namespace LeafRule

/-- Both rules go on behind what was read first, one with the clause `c` and the other with `d`,
and they agree in all that follows. -/
inductive Swaps (q : LeafRule) (c d : Clause) : LeafRule → LeafRule → Prop
  | condition {more : List Clause} {action : Option Action} :
      (∀ a, q.action = some a → a.kind = .goto) →
      Swaps q c d ⟨q.conditions ++ c :: more, action⟩ ⟨q.conditions ++ d :: more, action⟩
  | parameter {target : String} {params more : List Clause} :
      q.action = some ⟨.jump, target, params⟩ →
      Swaps q c d ⟨q.conditions, some ⟨.jump, target, params ++ c :: more⟩⟩
        ⟨q.conditions, some ⟨.jump, target, params ++ d :: more⟩⟩

/-- A clause that joins neither of the two is put behind both. -/
theorem Swaps.push {q r s : LeafRule} {c d x : Clause} (h : q.Swaps c d r s)
    (hc : c.accumulate? x = none) (hd : d.accumulate? x = none) :
    q.Swaps c d (r.push x) (s.push x) := by
  have hbehind : ∀ {e : Clause}, e.accumulate? x = none → ∀ front more : List Clause,
      pushClause x (front ++ e :: more) = front ++ e :: pushClause x more := by
    intro e he front more
    rw [pushClause_append x (List.cons_ne_nil e more), pushClause_cons he]
  cases h with
  | @condition more action hq =>
    rcases action with _ | ⟨kind, target, params⟩
    · simp only [LeafRule.push, hbehind hc, hbehind hd]
      exact .condition hq
    · cases kind with
      | jump => exact .condition hq
      | goto =>
        simp only [LeafRule.push, hbehind hc, hbehind hd]
        exact .condition hq
  | parameter hq =>
    simp only [LeafRule.push, hbehind hc, hbehind hd]
    exact .parameter hq

/-- Two clauses that do not join what is in front of them. -/
theorem swaps_push (q : LeafRule) {c d : Clause} (hc : ∀ e : Clause, e.accumulate? c = none)
    (hd : ∀ e : Clause, e.accumulate? d = none) : q.Swaps c d (q.push c) (q.push d) := by
  have hapart : ∀ {x : Clause}, (∀ e : Clause, e.accumulate? x = none) → ∀ cs : List Clause,
      pushClause x cs = cs ++ [x] := fun hx cs => pushClause_apart fun last _ => hx last
  obtain ⟨conditions, action⟩ := q
  rcases action with _ | ⟨kind, target, params⟩
  · simp only [LeafRule.push, hapart hc, hapart hd]
    exact .condition nofun
  · cases kind with
    | jump =>
      simp only [LeafRule.push, hapart hc, hapart hd]
      exact .parameter rfl
    | goto =>
      simp only [LeafRule.push, hapart hc, hapart hd]
      refine .condition fun a ha => ?_
      cases ha
      rfl

end LeafRule

namespace Reading

variable {registry : Registry} {q : LeafRule} {c d : Clause}

/-- The readings agree but for the one clause. -/
structure Swaps (q : LeafRule) (c d : Clause) (r s : Reading) : Prop where
  scope : r.scope = s.scope
  negated : r.negated = s.negated
  protocols : r.protocols = s.protocols
  rule : q.Swaps c d r.rule s.rule

namespace Swaps

variable {r s : Reading}

theorem inTarget (h : Swaps q c d r s) : r.inTarget = s.inTarget := by
  obtain ⟨scope, conditions, action, negated, protocols⟩ := r
  obtain ⟨scope', conditions', action', negated', protocols'⟩ := s
  cases h.rule <;> rfl

theorem isSome_action (h : Swaps q c d r s) : r.action.isSome = s.action.isSome := by
  obtain ⟨scope, conditions, action, negated, protocols⟩ := r
  obtain ⟨scope', conditions', action', negated', protocols'⟩ := s
  cases h.rule <;> rfl

theorem opening (h : Swaps q c d r s) (t : Token) :
    r.opening registry t = s.opening registry t := by
  simp only [Reading.opening, h.scope, h.negated, h.inTarget]

theorem push (h : Swaps q c d r s) {x : Clause} (hc : c.accumulate? x = none)
    (hd : d.accumulate? x = none) : Swaps q c d (r.push x) (s.push x) := by
  refine ⟨?_, ?_, ?_, ?_⟩
  · rw [push_scope, push_scope, h.scope]
  · rw [push_negated, push_negated, h.negated]
  · rw [push_protocols, push_protocols, h.protocols]
  · rw [rule_push, rule_push]
    exact h.rule.push hc hd

theorem setNegated (h : Swaps q c d r s) (negated : Bool) :
    Swaps q c d { r with negated } { s with negated } :=
  ⟨h.scope, rfl, h.protocols, h.rule⟩

theorem learn (h : Swaps q c d r s) (k : Keyword) (p : Polarity) (v : Value) :
    Swaps q c d (r.learn registry k p v) (s.learn registry k p v) := by
  unfold Reading.learn
  split
  · exact ⟨by simp only [declare, h.scope], h.negated, by simp only [declare, h.protocols], h.rule⟩
  · exact h

theorem activate (h : Swaps q c d r s) (names : List String) :
    Swaps q c d (r.activate registry names) (s.activate registry names) :=
  ⟨by simp only [Reading.activate, h.scope], h.negated, h.protocols, h.rule⟩

theorem addModules (h : Swaps q c d r s) (hc : c.keyword ≠ "match") (hd : d.keyword ≠ "match")
    (names : List String) :
    Swaps q c d (r.addModules registry names) (s.addModules registry names) := by
  have hkept : r.kept registry names = s.kept registry names := by
    simp only [kept, h.protocols]
  rw [addModules_eq, addModules_eq, hkept]
  split
  · exact h.activate names
  · exact (h.activate names).push (Clause.accumulate?_of_ne hc) (Clause.accumulate?_of_ne hd)

theorem withAction (h : Swaps q c d r s) (ha : r.action = none) (kind : ActionKind)
    (target : String) :
    s.action = none ∧
      Swaps q c d (r.withAction registry kind target) (s.withAction registry kind target) := by
  have hnone : s.action = none := by
    have hsome := h.isSome_action
    rw [ha] at hsome
    simpa using hsome.symm
  obtain ⟨scope, conditions, action, negated, protocols⟩ := r
  obtain ⟨scope', conditions', action', negated', protocols'⟩ := s
  cases ha
  cases hnone
  refine ⟨rfl, ?_, h.negated, h.protocols, ?_⟩
  · have hscope : scope = scope' := h.scope
    simp only [Reading.withAction, hscope]
  · have hrule : q.Swaps c d ⟨conditions, none⟩ ⟨conditions', none⟩ := h.rule
    cases hrule with
    | condition hq => exact .condition hq

/-- What can be read from one of the two can be read from the other. -/
theorem step (hr : registry.Legible) (hsound : r.Sound registry) (hc : c.keyword ≠ "match")
    (hd : d.keyword ≠ "match") (h : Swaps q c d r s) {t : Token} {tokens rest : List Token}
    {r' : Reading} (hs : r.step registry t tokens = .ok (r', rest)) :
    ∃ s', s.step registry t tokens = .ok (s', rest) ∧ Swaps q c d r' s' := by
  unfold Reading.step at hs ⊢
  obtain ⟨o, ho, hs⟩ := bind_ok hs
  have hopens := opens_of_opening ho
  rw [← h.opening, ho, ok_bind]
  cases o with
  | negation =>
    obtain ⟨u, hu, hs⟩ := bind_ok hs
    cases hs
    unfold negate at hu
    split at hu
    · cases hu
    · rename_i hn
      cases hu
      refine ⟨{ s with negated := true }, ?_, h.setNegated true⟩
      dsimp only [negate]
      rw [← h.negated, if_neg hn]
      rfl
  | option k =>
    dsimp only [readOption] at hs ⊢
    obtain ⟨p, hp, hs⟩ := bind_ok hs
    obtain ⟨⟨v, behind⟩, hv, hs⟩ := bind_ok hs
    cases hs
    have hsingle := (hr.keyword k (hsound.keyword hopens).2).single
    have hapart : ∀ e : Clause, e.accumulate? ⟨k.name, p.wrap v, some k⟩ = none := fun e =>
      e.accumulate?_single rfl hsingle
    rw [← h.negated, hp, ok_bind, hv]
    exact ⟨_, rfl, ((h.setNegated false).learn k p v).push (hapart c) (hapart d)⟩
  | modules =>
    dsimp only [readModules] at hs ⊢
    split at hs
    · cases hs
    · rename_i hn
      obtain ⟨⟨names, behind⟩, hl, hs⟩ := bind_ok hs
      cases hs
      rw [← h.negated, if_neg hn, hl]
      exact ⟨_, rfl, h.addModules hc hd names⟩
  | action kind =>
    obtain ⟨⟨u, behind⟩, hw, hs⟩ := bind_ok hs
    obtain ⟨r'', ha, hs⟩ := bind_ok hs
    cases hs
    obtain ⟨hn, hnone, rfl⟩ := act_ok ha
    obtain ⟨hnone', hacts⟩ := h.withAction hnone kind u.text
    refine ⟨_, ?_, hacts⟩
    dsimp only
    rw [hw, ok_bind]
    dsimp only
    rw [act_eq (h.negated ▸ hn) hnone']
    rfl
  | target name =>
    obtain ⟨r'', ha, hs⟩ := bind_ok hs
    cases hs
    obtain ⟨hn, hnone, rfl⟩ := act_ok ha
    obtain ⟨hnone', hacts⟩ := h.withAction hnone .jump name
    refine ⟨_, ?_, hacts⟩
    dsimp only
    rw [act_eq (h.negated ▸ hn) hnone']
    rfl
  | nothing =>
    cases hs
    exact ⟨s, rfl, h⟩

theorem run (hr : registry.Legible) (hc : c.keyword ≠ "match") (hd : d.keyword ≠ "match")
    {tokens : List Token} {last : Reading} (hsound : r.Sound registry) (h : Swaps q c d r s)
    (hrun : r.run registry tokens = .ok last) :
    ∃ last', s.run registry tokens = .ok last' ∧ Swaps q c d last last' := by
  fun_induction Reading.run registry r tokens generalizing s with
  | case1 r =>
    cases hrun
    exact ⟨s, run_nil s, h⟩
  | case2 r t rest f hs => cases hrun
  | case3 r t rest r' rest' hs ih =>
    obtain ⟨s', hs', h'⟩ := h.step hr hsound hc hd hs
    obtain ⟨last', hrun', hlast⟩ := ih (hsound.steps (steps_of_step hs)) h' hrun
    refine ⟨last', ?_, hlast⟩
    rw [run_cons, hs', ok_bind]
    exact hrun'

end Swaps

theorem swaps_push (r : Reading) (hc : ∀ e : Clause, e.accumulate? c = none)
    (hd : ∀ e : Clause, e.accumulate? d = none) :
    Swaps r.rule c d (r.push c) (r.push d) := by
  refine ⟨?_, ?_, ?_, ?_⟩
  · rw [push_scope, push_scope]
  · rw [push_negated, push_negated]
  · rw [push_protocols, push_protocols]
  · rw [rule_push, rule_push]
    exact r.rule.swaps_push hc hd

/-! ## The option behind a marker -/

theorem opening_eq_option {r : Reading} {t : Token} {k : Keyword} :
    r.opening registry t = .ok (.option k) ↔
      t.isNegation = false ∧ t.quoted = false ∧ r.scope (optionName registry t.text) = some k := by
  constructor
  · intro h
    refine ⟨?_, ?_, opens_of_opening h⟩
    · by_contra hne
      rw [opening, if_pos (by simpa using hne)] at h
      cases h
    · by_contra hquoted
      rw [opening] at h
      split at h
      · cases h
      · rw [if_pos (by simpa using hquoted)] at h
        cases h
  · rintro ⟨hmark, hquoted, hk⟩
    rw [opening, if_neg (by simp [hmark]), if_neg (by simp [hquoted])]
    simp only [hk]

theorem read_leading {k : Keyword} {tokens : List Token} {p : Polarity}
    (h : Polarity.read k true tokens = .ok p) :
    p = .leading ∧ Polarity.read k false tokens = .ok .plain := by
  unfold Polarity.read at h ⊢
  split at h
  · cases h
  · rename_i hbefore
    have hbefore : k.negation = .before := by simpa using hbefore
    split at h
    · rw [if_neg (by simp [hbefore])] at h
      cases h
    · rename_i hnext
      cases h
      exact ⟨rfl, by rw [if_neg (by simp), if_neg hnext]; rfl⟩

/-- A marker that has been read is taken by an option. -/
theorem step_negated {r r' : Reading} (hn : r.negated = true) {t : Token}
    {tokens rest : List Token} (h : r.step registry t tokens = .ok (r', rest)) :
    ∃ k v, r.opening registry t = .ok (.option k) ∧
      Polarity.read k false tokens = .ok .plain ∧ Value.read k tokens = .ok (v, rest) ∧
      r' = { r with negated := false }.push ⟨k.name, .negatedBefore v, some k⟩ := by
  obtain ⟨o, ho, h⟩ := bind_ok h
  cases o with
  | option k =>
    dsimp only [readOption] at h
    obtain ⟨p, hp, h⟩ := bind_ok h
    obtain ⟨⟨v, behind⟩, hv, h⟩ := bind_ok h
    cases h
    rw [hn] at hp
    obtain ⟨rfl, hplain⟩ := read_leading hp
    refine ⟨k, v, ho, hplain, hv, ?_⟩
    simp [Polarity.wrap]
  | negation => simp [negate, hn, bind, Except.bind] at h
  | modules => simp [readModules, hn] at h
  | action kind =>
    obtain ⟨⟨u, behind⟩, -, h⟩ := bind_ok h
    simp [act, hn, bind, Except.bind] at h
  | target name => simp [act, hn, bind, Except.bind] at h
  | nothing =>
    have hnone : r.negated = false := opens_of_opening ho
    rw [hn] at hnone
    cases hnone

/-- Without a marker the same option is read, and its clause is not negated. -/
theorem step_unnegated {r : Reading} (hn : r.negated = false) {t : Token} {k : Keyword}
    (ho : r.opening registry t = .ok (.option k)) (hname : k.name ≠ "protocol")
    {tokens rest : List Token} (hp : Polarity.read k false tokens = .ok .plain) {v : Value}
    (hv : Value.read k tokens = .ok (v, rest)) :
    r.step registry t tokens = .ok (r.push ⟨k.name, v, some k⟩, rest) := by
  have hself : { r with negated := false } = r := by rw [← hn]
  have hskip : Value.read k (Polarity.plain.skip tokens) = .ok (v, rest) := hv
  rw [step, ho, ok_bind]
  dsimp only [readOption]
  rw [hn, hp, ok_bind, hskip, ok_bind]
  dsimp only
  rw [if_neg (by simp [hname]), hself]
  rfl

/-- What is read behind a marker is read without it, and one clause is not negated. -/
theorem run_flipped (hr : registry.Legible) {r last : Reading} (hsound : r.Sound registry)
    (hn : r.negated = false) {t : Token} {tokens : List Token}
    (hplain : ∀ k v rest, r.opening registry t = .ok (.option k) →
      Value.read k tokens = .ok (v, rest) → k.name ≠ "protocol")
    (h : { r with negated := true }.run registry (t :: tokens) = .ok last) :
    ∃ k v rest other, optionName registry t.text = k.name ∧
      Value.read k tokens = .ok (v, rest) ∧ r.run registry (t :: tokens) = .ok other ∧
      Swaps r.rule ⟨k.name, .negatedBefore v, some k⟩ ⟨k.name, v, some k⟩ last other := by
  have hself : { r with negated := false } = r := by rw [← hn]
  rw [run_cons] at h
  obtain ⟨⟨r', rest⟩, hstep, hrun⟩ := bind_ok h
  obtain ⟨k, v, ho, hp, hv, rfl⟩ := step_negated rfl hstep
  have hopens := opening_eq_option.mp ho
  have ho : r.opening registry t = .ok (.option k) := opening_eq_option.mpr hopens
  obtain ⟨hname, hmem⟩ := hsound.keyword hopens.2.2
  have hlegible := hr.keyword k hmem
  have hne : k.name ≠ "match" := fun he => hlegible.free (by simp [he, Registry.reserved])
  have hapart : ∀ w, ∀ e : Clause, e.accumulate? ⟨k.name, w, some k⟩ = none := fun _ e =>
    e.accumulate?_single rfl hlegible.single
  have hmarked : { r with negated := true }.Sound registry :=
    ⟨hsound.scope, hsound.conditions, hsound.params⟩
  have hpushed := hmarked.steps (steps_of_step hstep)
  have hswaps := r.swaps_push (hapart (.negatedBefore v)) (hapart v)
  rw [hself] at hrun
  obtain ⟨other, hother, hlast⟩ := hswaps.run hr hne hne (hself ▸ hpushed) hrun
  refine ⟨k, v, rest, other, hname.symm, hv, ?_, hlast⟩
  rw [run_cons, step_unnegated hn ho (hplain k v rest ho hv) hp hv, ok_bind]
  exact hother

end Reading

namespace LeafRule

variable {registry : Registry}

/-- Only a token that stands alone loses its semicolon and may become another word. -/
theorem dropTerminator_eq_cons {tokens rest : List Token} {t : Token}
    (h : dropTerminator tokens = t :: rest) : tokens.head? = some t ∨ rest = [] := by
  match tokens, h with
  | [u], h =>
    refine .inr ?_
    unfold dropTerminator at h
    split at h
    · split at h
      · cases h
      · cases h
        rfl
    · cases h
      rfl
  | u :: w :: more, h =>
    rw [dropTerminator] at h
    cases h
    exact .inl rfl

/-- Reading on behind a rule that was read. -/
theorem run_behind (hr : registry.Legible) {front : List Token} {q : LeafRule}
    (hfront : ofTokens registry front = .ok q)
    (hend : ∀ t, front.getLast? = some t → t.endsWith ';' = false) :
    ∃ last : Reading, last.Sound registry ∧ last.negated = false ∧ last.rule = q ∧
      ∀ back, (Reading.start registry).run registry (dropTerminator (front ++ back))
        = last.run registry (dropTerminator back) := by
  obtain ⟨last, hrun, hnegated, hrule⟩ := ofTokens_ok.mp hfront
  rw [dropTerminator_of_last hend] at hrun
  refine ⟨last, Reading.sound_start.run hrun, hnegated, hrule, fun back => ?_⟩
  rw [dropTerminator_append fun _ => hend, Reading.run_append hr Reading.sound_start hrun]

/-- A marker in front of an option other than the protocol negates its clause, and that is all. -/
theorem ofTokens_marked (hr : registry.Legible)
    (hvalue : ∀ k ∈ registry.keywords, k.name = "protocol" → k.shape ≠ .flag)
    {front back : List Token} {q r : LeafRule} (hfront : ofTokens registry front = .ok q)
    (hend : ∀ t, front.getLast? = some t → t.endsWith ';' = false)
    (hfirst : ∀ t, back.head? = some t → t.quoted = false →
      Reading.optionName registry t.text ≠ "protocol")
    (h : ofTokens registry (front ++ [.word "!"] ++ back) = .ok r) :
    ∃ t tokens k v rest s, dropTerminator back = t :: tokens ∧
      Reading.optionName registry t.text = k.name ∧ Value.read k tokens = .ok (v, rest) ∧
      ofTokens registry (front ++ back) = .ok s ∧
      q.Swaps ⟨k.name, .negatedBefore v, some k⟩ ⟨k.name, v, some k⟩ r s := by
  obtain ⟨last, hsound, hnegated, rfl, hbehind⟩ := run_behind hr hfront hend
  obtain ⟨final, hrun, hdone, rfl⟩ := ofTokens_ok.mp h
  have hmark : dropTerminator ([.word "!"] ++ back) = .word "!" :: dropTerminator back :=
    dropTerminator_append fun _ t ht => by
      obtain rfl : Token.word "!" = t := Option.some.inj ht
      decide
  rw [List.append_assoc, hbehind, hmark, Reading.run_negation hnegated] at hrun
  cases hback : dropTerminator back with
  | nil =>
    -- the marker is left over
    rw [hback, Reading.run_nil] at hrun
    cases hrun
    cases hdone
  | cons t tokens =>
    have hplain : ∀ k v rest, last.opening registry t = .ok (.option k) →
        Value.read k tokens = .ok (v, rest) → k.name ≠ "protocol" := by
      intro k v rest ho hv he
      obtain ⟨-, hquoted, hk⟩ := Reading.opening_eq_option.mp ho
      obtain ⟨hname, hmem⟩ := hsound.keyword hk
      rcases dropTerminator_eq_cons hback with hhead | rfl
      · exact hfirst t hhead hquoted (hname.symm.trans he)
      · -- a protocol alone at the end has no value
        obtain ⟨f, hf⟩ := Value.read_nil (hvalue k hmem he)
          (Shape.takesToken_of_readsBack (hr.keyword k hmem).readsBack)
        rw [hf] at hv
        cases hv
    rw [hback] at hrun
    obtain ⟨k, v, rest, other, hname, hv, hother, hlast⟩ :=
      Reading.run_flipped hr hsound hnegated hplain hrun
    refine ⟨t, tokens, k, v, rest, other.rule, rfl, hname, hv, ?_, hlast.rule⟩
    refine ofTokens_ok.mpr ⟨other, ?_, hlast.negated ▸ hdone, rfl⟩
    rw [hbehind, hback]
    exact hother

end LeafRule

/-! ## The standard registry -/

/-- A marker between options flips one clause, which is read from the option behind it, and
nothing else that is read changes. The protocol is left out, for it brings keywords along. -/
theorem marker_flips_one_clause {front back : List Token} {q r : LeafRule}
    (hfront : LeafRule.ofTokens .standard front = .ok q)
    (hend : ∀ t, front.getLast? = some t → t.endsWith ';' = false)
    (hfirst : ∀ t, back.head? = some t → t.quoted = false →
      Reading.optionName .standard t.text ≠ "protocol")
    (h : LeafRule.ofTokens .standard (front ++ [.word "!"] ++ back) = .ok r) :
    ∃ t tokens k v rest s, LeafRule.dropTerminator back = t :: tokens ∧
      Reading.optionName .standard t.text = k.name ∧ Value.read k tokens = .ok (v, rest) ∧
      LeafRule.ofTokens .standard (front ++ back) = .ok s ∧
      q.Swaps ⟨k.name, .negatedBefore v, some k⟩ ⟨k.name, v, some k⟩ r s :=
  LeafRule.ofTokens_marked Registry.legible_standard
    (fun k hk hname hflag => Registry.standard_protocol_takes k hk hflag hname) hfront hend hfirst h

/-- Behind a jump a port is negated among the parameters. -/
theorem marker_flips_one_clause_port :
    ∃ q r t tokens k v rest s,
      LeafRule.ofTokens .standard [.word "-j", .word "LOG", .word "-m", .word "tcp"] = .ok q ∧
      LeafRule.ofTokens .standard ([Token.word "-j", .word "LOG", .word "-m", .word "tcp"]
        ++ [.word "!"] ++ [.word "--dport", .word "(22", .word "80);"]) = .ok r ∧
      LeafRule.dropTerminator [.word "--dport", .word "(22", .word "80);"] = t :: tokens ∧
      Reading.optionName .standard t.text = k.name ∧ Value.read k tokens = .ok (v, rest) ∧
      LeafRule.ofTokens .standard ([Token.word "-j", .word "LOG", .word "-m", .word "tcp"]
        ++ [.word "--dport", .word "(22", .word "80);"]) = .ok s ∧
      q.Swaps ⟨k.name, .negatedBefore v, some k⟩ ⟨k.name, v, some k⟩ r s := by
  have hfront : LeafRule.ofTokens .standard
      [.word "-j", .word "LOG", .word "-m", .word "tcp"]
        = .ok ⟨[], some ⟨.jump, "LOG", [.ofModules ["tcp"]]⟩⟩ := by decide +kernel
  have hmarked : LeafRule.ofTokens .standard
      ([Token.word "-j", .word "LOG", .word "-m", .word "tcp"]
        ++ [.word "!"] ++ [.word "--dport", .word "(22", .word "80);"])
      = .ok ⟨[], some ⟨.jump, "LOG", [.ofModules ["tcp"], ⟨"destination-port",
          .negatedBefore (.list ["22", "80"]),
          some (Keyword.scalar "destination-port").negatable⟩]⟩⟩ := by decide +kernel
  have hend : ∀ t, [Token.word "-j", .word "LOG", .word "-m", .word "tcp"].getLast? = some t →
      t.endsWith ';' = false := by
    intro t ht
    cases ht
    decide
  have hfirst : ∀ t, [Token.word "--dport", .word "(22", .word "80);"].head? = some t →
      t.quoted = false → Reading.optionName .standard t.text ≠ "protocol" := by
    intro t ht _
    cases ht
    decide +kernel
  obtain ⟨t, tokens, k, v, rest, s, hparts⟩ :=
    marker_flips_one_clause hfront hend hfirst hmarked
  exact ⟨_, _, t, tokens, k, v, rest, s, hfront, hmarked, hparts⟩

end FermRules
