import FermRules.Proofs.Continuing
import FermRules.Proofs.Taking

/-! # How a rule grows

What has been read of a rule grows with each step, or it stays as it is. A clause is
put behind those of the current list, where it may join the last one, or the action
is set, which happens once. All that is in front of the last clause is settled. Which
definition a clause gets is a matter of the step: it is the one in force by then. -/
namespace FermRules

namespace LeafRule

/-- The rule with one more clause, which belongs to the action behind a jump. -/
def push (q : LeafRule) (c : Clause) : LeafRule :=
  match q.action with
  | some ⟨.jump, target, params⟩ => { q with action := some ⟨.jump, target, pushClause c params⟩ }
  | _ => { q with conditions := pushClause c q.conditions }

theorem keyword_mem_push {c : Clause} {cs : List Clause} {name : String} :
    name ∈ (pushClause c cs).map Clause.keyword
      ↔ name ∈ cs.map Clause.keyword ∨ name = c.keyword := by
  fun_induction pushClause c cs with
  | case1 => simp
  | case2 last both hb =>
    obtain ⟨_, _, -, -, hkey, rfl⟩ := Clause.of_accumulate? hb
    simp [hkey]
  | case3 last hb => simp
  | case4 first second rest ih =>
    simp only [List.map_cons, List.mem_cons, or_assoc] at ih ⊢
    rw [ih]

/-- What one step makes of a rule, if all clauses that it may read have the property. -/
inductive Grows (C : Clause → Prop) : LeafRule → LeafRule → Prop
  | same {q : LeafRule} : Grows C q q
  | clause {q : LeafRule} {c : Clause} : C c → Grows C q (q.push c)
  | action {conditions : List Clause} {kind : ActionKind} {target : String} :
      Grows C ⟨conditions, none⟩ ⟨conditions, some ⟨kind, target, []⟩⟩

end LeafRule

namespace Reading

variable {registry : Registry}

/-- The definition that an option of this name is read for. Modules are listed where no
keyword takes their name. -/
def inForce (r : Reading) (name : String) : Option Keyword :=
  (r.scope name).or (if name = matchKeyword.name then some matchKeyword else none)

/-- The clause has the definition of its keyword that is in force. -/
def Offers (r : Reading) (c : Clause) : Prop :=
  ∃ k, r.inForce c.keyword = some k ∧ c.definition = some k

theorem Sound.inForce {r : Reading} (hsound : r.Sound registry) {name : String} {k : Keyword}
    (h : r.inForce name = some k) : k.name = name ∧ k ∈ matchKeyword :: registry.keywords := by
  rcases Option.or_eq_some_iff.mp h with hk | ⟨-, hk⟩
  · obtain ⟨hname, hmem⟩ := hsound.keyword hk
    exact ⟨hname, List.mem_cons_of_mem _ hmem⟩
  · split at hk
    · rename_i hname
      cases hk
      exact ⟨hname.symm, List.mem_cons_self⟩
    · cases hk

/-- Reading these tokens comes to this point, in front of the rest of them. -/
inductive Passes (registry : Registry) (r : Reading) (tokens : List Token) :
    Reading → List Token → Prop
  | start : Passes registry r tokens r tokens
  | step {s s' : Reading} {t : Token} {rest rest' : List Token} :
      Passes registry r tokens s (t :: rest) → s.step registry t rest = .ok (s', rest') →
      Passes registry r tokens s' rest'

theorem Passes.sound {r s : Reading} {tokens rest : List Token} (hsound : r.Sound registry)
    (h : r.Passes registry tokens s rest) : s.Sound registry := by
  induction h with
  | start => exact hsound
  | step _ hstep ih => exact ih.steps (steps_of_step hstep)

theorem rule_push (r : Reading) (c : Clause) : (r.push c).rule = r.rule.push c := by
  obtain ⟨scope, conditions, action, negated, protocols⟩ := r
  rcases action with _ | ⟨kind, target, params⟩
  · rfl
  · cases kind <;> rfl

theorem push_negated (r : Reading) (c : Clause) : (r.push c).negated = r.negated := by
  unfold push
  split <;> rfl

theorem rule_learn (r : Reading) (k : Keyword) (p : Polarity) (v : Value) :
    (r.learn registry k p v).rule = r.rule := by
  unfold learn
  split <;> rfl

theorem Steps.grows {r r' : Reading} {t : Token} {tokens rest : List Token}
    (hsound : r.Sound registry) (h : Steps registry r t tokens r' rest) :
    r.rule.Grows r.Offers r'.rule := by
  cases h with
  | negation | nothing => exact .same
  | @option k p v _ hk =>
    have hforce : r.inForce k.name = some k := by
      rw [inForce, (hsound.keyword hk).1, hk, Option.some_or]
    rw [rule_push, rule_learn]
    exact .clause ⟨k, hforce, rfl⟩
  | @modules names _ _ hnone =>
    have hforce : r.inForce matchKeyword.name = some matchKeyword := by
      rw [inForce, show r.scope matchKeyword.name = none from hnone, Option.none_or, if_pos rfl]
    rw [addModules_eq]
    split
    · exact .same
    · rw [rule_push]
      exact .clause ⟨matchKeyword, hforce, rfl⟩
  | action _ ha =>
    obtain ⟨scope, conditions, action, negated, protocols⟩ := r
    cases ha
    exact .action

/-- What a rule keeps in growing it keeps while it is read. -/
theorem run_grows {P : LeafRule → Prop} {r last : Reading} {tokens : List Token}
    (hsound : r.Sound registry)
    (hP : ∀ {s : Reading} {rest : List Token} {q : LeafRule}, r.Passes registry tokens s rest →
      s.rule.Grows s.Offers q → P s.rule → P q)
    (hr : P r.rule) (h : r.run registry tokens = .ok last) : P last.rule := by
  have hlast := run_induction (P := fun s rest => r.Passes registry tokens s rest ∧ P s.rule) ?_
    ⟨.start, hr⟩ h
  · exact hlast.2
  · intro s t rest s' rest' ⟨hpasses, hs⟩ hstep
    have hgrows := (steps_of_step hstep).grows (hpasses.sound hsound)
    exact ⟨hpasses.step hstep, hP hpasses hgrows hs⟩

/-- No keyword that has been met in front of the action is lost. -/
theorem run_keeps {r last : Reading} {tokens : List Token} (hsound : r.Sound registry)
    (h : r.run registry tokens = .ok last) {name : String}
    (hname : name ∈ r.conditions.map Clause.keyword) :
    name ∈ last.conditions.map Clause.keyword := by
  refine run_grows (P := fun q => name ∈ q.conditions.map Clause.keyword) hsound ?_ hname h
  intro s rest q _ hgrows hs
  generalize s.rule = before at hgrows hs
  cases hgrows with
  | same | action => exact hs
  | @clause _ c _ =>
    obtain ⟨conditions, action⟩ := before
    have hpushed : name ∈ (pushClause c conditions).map Clause.keyword :=
      LeafRule.keyword_mem_push.mpr (.inl hs)
    rcases action with _ | ⟨kind, target, params⟩
    · exact hpushed
    · cases kind with
      | jump => exact hs
      | goto => exact hpushed

end Reading

end FermRules
