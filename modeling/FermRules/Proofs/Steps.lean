import FermRules.Proofs.ValueFits
import FermRules.Rule.Reader

/-! # All that one step of reading can do

A step reads a negation, an option with its value, a list of modules, an action
or nothing. `Steps` says for each what held before it and what it leaves; what a
whole reading keeps is then shown case by case, without unfolding the reader. -/
namespace FermRules

namespace Reading

/-- What a plain protocol teaches; any other clause teaches nothing. -/
def learn (registry : Registry) (r : Reading) (k : Keyword) (p : Polarity) (v : Value) : Reading :=
  if k.name = "protocol" && p = .plain then r.declare registry (v.items?.getD []) else r

/-- The reading behind an action. -/
def withAction (registry : Registry) (r : Reading) (kind : ActionKind) (target : String) :
    Reading :=
  { r with
    action := some ⟨kind, target, []⟩
    scope := match kind with
      | .jump => (registry.targetKeywords target).find?
      | .goto => r.scope }

/-- A target stands behind its option, or it is known and stands for itself. -/
def Names (registry : Registry) (kind : ActionKind) (target : String) (tokens rest : List Token) :
    Prop :=
  (∃ u, tokens = u :: rest ∧ target = u.text)
    ∨ (rest = tokens ∧ kind = .jump ∧ registry.isTarget target = true)

inductive Steps (registry : Registry) (r : Reading) (t : Token) (tokens : List Token) :
    Reading → List Token → Prop
  | negation : r.negated = false → Steps registry r t tokens { r with negated := true } tokens
  | option {k : Keyword} {p : Polarity} {v : Value} {rest : List Token} :
      r.scope (optionName registry t.text) = some k → Polarity.read k r.negated tokens = .ok p →
      Value.read k (p.skip tokens) = .ok (v, rest) →
      Steps registry r t tokens
        (({ r with negated := false }.learn registry k p v).push ⟨k.name, p.wrap v, some k⟩) rest
  | modules {names : List String} {rest : List Token} :
      r.negated = false → r.scope "match" = none → r.opening registry t = .ok .modules →
      Value.readList matchKeyword.name tokens = .ok (names, rest) →
      Steps registry r t tokens (r.addModules registry names) rest
  | action {kind : ActionKind} {target : String} {rest : List Token} :
      r.negated = false → r.action = none → Names registry kind target tokens rest →
      (r.scope kind.name = none ∨ registry.isTarget target = true) →
      Steps registry r t tokens (r.withAction registry kind target) rest
  | nothing : r.negated = false → Steps registry r t tokens r tokens

theorem act_ok {registry : Registry} {r r' : Reading} {kind : ActionKind} {target : String}
    (h : r.act registry kind target = .ok r') :
    r.negated = false ∧ r.action = none ∧ r' = r.withAction registry kind target := by
  unfold act at h
  split at h
  · cases h
  · rename_i hn
    split at h
    · cases h
    · rename_i ha
      cases h
      exact ⟨Bool.eq_false_iff.mpr hn, by simpa using ha, rfl⟩

theorem act_eq {registry : Registry} {r : Reading} (hn : r.negated = false) (ha : r.action = none)
    (kind : ActionKind) (target : String) :
    r.act registry kind target = .ok (r.withAction registry kind target) := by
  unfold act
  rw [if_neg (by simp [hn]), if_neg (by simp [ha])]
  cases kind <;> rfl

/-- What holds of a reading where something opens. -/
def Opens (registry : Registry) (r : Reading) (t : Token) : Opening → Prop
  | .negation => t.isNegation = true
  | .option k => r.scope (optionName registry t.text) = some k
  | .modules => r.scope "match" = none
  | .action kind => r.scope kind.name = none
  | .target name => registry.isTarget name = true
  | .nothing => r.negated = false

theorem opens_of_opening {registry : Registry} {r : Reading} {t : Token} {o : Opening}
    (h : r.opening registry t = .ok o) : Opens registry r t o := by
  unfold opening at h
  split at h
  · cases h
    assumption
  split at h
  · cases h
  dsimp only at h
  split at h
  · cases h
    assumption
  rename_i hs
  -- an action or a list of modules is met where no keyword has the name
  split at h
  · rename_i hn
    cases h
    rwa [hn] at hs
  split at h
  · rename_i hn
    cases h
    rwa [hn] at hs
  split at h
  · rename_i hn
    cases h
    rwa [hn] at hs
  split at h
  · rename_i ht
    cases h
    exact (Bool.and_eq_true_iff.mp ht).2
  split at h
  · rename_i hn
    cases h
    simpa [Opens] using (Bool.and_eq_true_iff.mp hn).2
  · cases h

theorem steps_of_step {registry : Registry} {r r' : Reading} {t : Token}
    {tokens rest : List Token} (h : r.step registry t tokens = .ok (r', rest)) :
    Steps registry r t tokens r' rest := by
  unfold step at h
  obtain ⟨o, ho, h⟩ := bind_ok h
  have hopen := opens_of_opening ho
  cases o with
  | negation =>
    obtain ⟨s, hs, h⟩ := bind_ok h
    cases h
    unfold negate at hs
    split at hs
    · cases hs
    · rename_i hn
      cases hs
      exact .negation (Bool.eq_false_iff.mpr hn)
  | option k =>
    dsimp only [readOption] at h
    obtain ⟨p, hp, h⟩ := bind_ok h
    obtain ⟨⟨v, behind⟩, hv, h⟩ := bind_ok h
    cases h
    exact .option hopen hp hv
  | modules =>
    dsimp only [readModules] at h
    split at h
    · cases h
    · rename_i hn
      obtain ⟨⟨names, behind⟩, hl, h⟩ := bind_ok h
      cases h
      exact .modules (Bool.eq_false_iff.mpr hn) hopen ho hl
  | action kind =>
    obtain ⟨⟨u, behind⟩, hw, h⟩ := bind_ok h
    obtain ⟨s, hs, h⟩ := bind_ok h
    cases h
    obtain ⟨hn, ha, rfl⟩ := act_ok hs
    exact .action hn ha (.inl ⟨u, Value.readWord_ok hw, rfl⟩) (.inl hopen)
  | target name =>
    obtain ⟨s, hs, h⟩ := bind_ok h
    cases h
    obtain ⟨hn, ha, rfl⟩ := act_ok hs
    exact .action hn ha (.inr ⟨rfl, rfl, hopen⟩) (.inr hopen)
  | nothing =>
    cases h
    exact .nothing hopen

theorem Polarity.skip_suffix (p : Polarity) (tokens : List Token) : p.skip tokens <:+ tokens := by
  cases p with
  | trailing => exact List.tail_suffix tokens
  | plain | leading => exact List.suffix_refl _

/-- Only a trailing marker is passed over. -/
theorem Polarity.skip_of_ne {p : Polarity} (h : p ≠ .trailing) (tokens : List Token) :
    p.skip tokens = tokens := by
  cases p with
  | plain | leading => rfl
  | trailing => exact absurd rfl h

theorem Steps.suffix {registry : Registry} {r r' : Reading} {t : Token}
    {tokens rest : List Token} (h : Steps registry r t tokens r' rest) : rest <:+ tokens := by
  have hany : ∀ us : List Token, Token.AllOver (fun _ => True) us := fun _ _ _ _ _ => trivial
  cases h with
  | negation | nothing => exact List.suffix_refl _
  | option _ _ hv =>
    exact (Value.read_ok (hany _) hv).1.trans (Polarity.skip_suffix _ tokens)
  | modules _ _ _ hl => exact (Value.readList_ok (hany _) hl).1
  | action _ _ hnames =>
    obtain ⟨u, rfl, _⟩ | ⟨rfl, _⟩ := hnames
    · exact List.suffix_cons u _
    · exact List.suffix_refl _

/-! ## Whole readings -/

theorem run_nil {registry : Registry} (r : Reading) : r.run registry [] = .ok r := by rw [run]

theorem run_cons {registry : Registry} {r : Reading} {t : Token} {tokens : List Token} :
    r.run registry (t :: tokens)
      = r.step registry t tokens >>= fun (r', rest) => r'.run registry rest := by
  rw [run]
  split
  · rename_i f h
    rw [h]
    rfl
  · rename_i s rest h
    rw [h]
    rfl

/-- What each step keeps, given the tokens that are left, holds at the end. -/
theorem run_induction {registry : Registry} {P : Reading → List Token → Prop}
    (hstep : ∀ r t tokens r' rest, P r (t :: tokens) → r.step registry t tokens = .ok (r', rest) →
      P r' rest)
    {tokens : List Token} {r last : Reading} (hr : P r tokens)
    (h : r.run registry tokens = .ok last) : P last [] := by
  fun_induction run registry r tokens with
  | case1 r =>
    cases h
    exact hr
  | case2 r t rest f hs => cases h
  | case3 r t rest r' rest' hs ih => exact ih (hstep r t rest r' rest' hr hs) h

/-- What has been read so far. -/
def rule (r : Reading) : LeafRule := ⟨r.conditions, r.action⟩

end Reading

/-- A rule is what has been read of all its tokens, if no marker is left over. -/
theorem LeafRule.ofTokens_ok {registry : Registry} {tokens : List Token} {q : LeafRule} :
    ofTokens registry tokens = .ok q ↔ ∃ last,
      (Reading.start registry).run registry (dropTerminator tokens) = .ok last ∧
        last.negated = false ∧ last.rule = q := by
  constructor
  · intro h
    obtain ⟨last, hrun, hfinish⟩ := bind_ok h
    unfold Reading.finish at hfinish
    split at hfinish
    · cases hfinish
    · rename_i hnegated
      cases hfinish
      exact ⟨last, hrun, Bool.eq_false_iff.mpr hnegated, rfl⟩
  · rintro ⟨last, hrun, hnegated, rfl⟩
    rw [ofTokens, hrun, ok_bind, Reading.finish, hnegated]
    rfl

end FermRules
