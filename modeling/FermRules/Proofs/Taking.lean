import FermRules.Proofs.Legality

/-! # Taking a clause

What a reading knows is what its clauses have told. Reading an option, or
modules none of which is left out, changes what is known as the clause tells and
puts the clause behind the others, or joins it with the last of them. -/
namespace FermRules

namespace Reading

/-! ## Taking a clause -/

/-- The list that the next clause belongs to. -/
def current (r : Reading) : List Clause :=
  match r.action with
  | some ⟨.jump, _, params⟩ => params
  | _ => r.conditions

def withCurrent (r : Reading) (cs : List Clause) : Reading :=
  match r.action with
  | some ⟨.jump, target, _⟩ => { r with action := some ⟨.jump, target, cs⟩ }
  | _ => { r with conditions := cs }

def known (r : Reading) : Known := ⟨r.scope, r.protocols, r.current.getLast?.map Clause.keyword⟩

/-- The reading with what is known replaced. -/
def inform (r : Reading) (e : Known) : Reading :=
  { r with scope := e.scope, protocols := e.protocols }

/-- The reading behind one more clause. -/
def taking (registry : Registry) (r : Reading) (c : Clause) : Reading :=
  (r.inform (r.known.after registry c)).withCurrent (r.current ++ [c])

variable {registry : Registry}

theorem push_eq (r : Reading) (c : Clause) : r.push c = r.withCurrent (pushClause c r.current) := by
  obtain ⟨scope, conditions, action, negated, protocols⟩ := r
  rcases action with _ | ⟨kind, target, params⟩
  · rfl
  · cases kind <;> rfl

theorem learn_eq (r : Reading) {k : Keyword} (hk : k.name ≠ "match") (p : Polarity) (v : Value) :
    r.learn registry k p v = r.inform (r.known.after registry ⟨k.name, p.wrap v, some k⟩) := by
  unfold learn
  by_cases hp : k.name = "protocol"
  · cases p with
    | plain =>
      rw [if_pos (by simp [hp])]
      simp [declare, inform, known, Known.after, Clause.brings, Clause.declares, hp,
        Scope.extendAll, List.foldl_map, Polarity.wrap]
    | leading | trailing =>
      rw [if_neg (by simp)]
      simp [inform, known, Known.after, Clause.brings, Clause.declares, hp, Polarity.wrap,
        Value.items?, Scope.extendAll]
  · rw [if_neg (by simp [hp])]
    simp [inform, known, Known.after, Clause.brings, Clause.declares, hp, hk, Scope.extendAll]

theorem activate_eq (r : Reading) (names : List String) (definition : Option Keyword) :
    r.activate registry names
      = r.inform (r.known.after registry ⟨"match", .list names, definition⟩) := by
  rw [Known.after_match]
  rfl

@[simp] theorem current_inform (r : Reading) (e : Known) : (r.inform e).current = r.current := rfl

@[simp] theorem inTarget_inform (r : Reading) (e : Known) : (r.inform e).inTarget = r.inTarget :=
  rfl

@[simp] theorem current_withCurrent (r : Reading) (cs : List Clause) :
    (r.withCurrent cs).current = cs := by
  obtain ⟨scope, conditions, action, negated, protocols⟩ := r
  rcases action with _ | ⟨kind, target, params⟩
  · rfl
  · cases kind <;> rfl

@[simp] theorem inTarget_withCurrent (r : Reading) (cs : List Clause) :
    (r.withCurrent cs).inTarget = r.inTarget := by
  obtain ⟨scope, conditions, action, negated, protocols⟩ := r
  rcases action with _ | ⟨kind, target, params⟩
  · rfl
  · cases kind <;> rfl

@[simp] theorem withCurrent_withCurrent (r : Reading) (cs ds : List Clause) :
    (r.withCurrent cs).withCurrent ds = r.withCurrent ds := by
  obtain ⟨scope, conditions, action, negated, protocols⟩ := r
  rcases action with _ | ⟨kind, target, params⟩
  · rfl
  · cases kind <;> rfl

theorem known_withCurrent (r : Reading) (cs : List Clause) :
    (r.withCurrent cs).known = ⟨r.scope, r.protocols, cs.getLast?.map Clause.keyword⟩ := by
  obtain ⟨scope, conditions, action, negated, protocols⟩ := r
  rcases action with _ | ⟨kind, target, params⟩
  · rfl
  · cases kind <;> rfl

end Reading

/-! ## Joining with the last clause -/

theorem Polarity.wrap_eq_list {p : Polarity} {v : Value} {items : List String}
    (h : p.wrap v = .list items) : p = .plain ∧ v = .list items := by
  cases p with
  | plain => exact ⟨rfl, h⟩
  | leading | trailing => cases h

theorem Clause.accumulate?_single (last : Clause) {c : Clause} {k : Keyword}
    (hc : c.definition = some k) (hk : k.accumulates = false) : last.accumulate? c = none := by
  unfold Clause.accumulate?
  split
  · rename_i l _ _ hl
    rw [hc] at hl
    cases hl
    rw [if_neg (by simp [hk])]
  · rfl

theorem Clause.accumulate?_of_ne {last c : Clause} (h : last.keyword ≠ c.keyword) :
    last.accumulate? c = none := by
  unfold Clause.accumulate?
  split
  · rw [if_neg (by simp [h])]
  · rfl

theorem Clause.accumulate?_ofModules (names more : List String) :
    (Clause.ofModules names).accumulate? (.ofModules more) = some (.ofModules (names ++ more)) :=
  rfl

theorem pushClause_append (c : Clause) {cs : List Clause} (h : cs ≠ []) (front : List Clause) :
    pushClause c (front ++ cs) = front ++ pushClause c cs := by
  induction front with
  | nil => rfl
  | cons first front ih =>
    obtain ⟨second, rest, hs⟩ :=
      List.exists_cons_of_ne_nil (List.append_ne_nil_of_right_ne_nil front h)
    rw [List.cons_append, hs, pushClause, ← hs, ih, List.cons_append]

/-- A clause that is not joined is passed over. -/
theorem pushClause_cons {first c : Clause} (h : first.accumulate? c = none) (rest : List Clause) :
    pushClause c (first :: rest) = first :: pushClause c rest := by
  cases rest with
  | nil => simp [pushClause, h]
  | cons second rest => rfl

theorem pushClause_concat (front : List Clause) (last c : Clause) :
    pushClause c (front ++ [last])
      = front ++ match last.accumulate? c with
        | some joined => [joined]
        | none => [last, c] := pushClause_append c (List.cons_ne_nil last []) front

/-- A clause that does not join the last one stands behind it. -/
theorem pushClause_apart {c : Clause} {cs : List Clause}
    (h : ∀ last, cs.getLast? = some last → last.accumulate? c = none) :
    pushClause c cs = cs ++ [c] := by
  rcases List.eq_nil_or_concat cs with rfl | ⟨front, last, rfl⟩
  · rfl
  · rw [List.concat_eq_append] at h ⊢
    rw [pushClause_concat, h last (by simp), List.append_assoc]
    rfl

/-! ## What joined clauses declare -/

namespace Clause

/-- Only lists are joined, and only under one keyword. -/
theorem of_accumulate? {last c both : Clause} (h : last.accumulate? c = some both) :
    ∃ items more, last.value = .list items ∧ c.value = .list more ∧ last.keyword = c.keyword ∧
      both = { last with value := .list (items ++ more) } := by
  unfold accumulate? at h
  split at h
  · rename_i items more k hlast hc _
    split at h
    · rename_i hjoin
      cases h
      simp only [Bool.and_eq_true, decide_eq_true_eq] at hjoin
      exact ⟨items, more, hlast, hc, hjoin.2, rfl⟩
    · cases h
  · cases h

/-- Whether a clause joins the one in front of it does not change when it is joined itself. -/
theorem accumulate?_joined {front last c both : Clause}
    (h : last.accumulate? c = some both)
    (hnone : front.accumulate? last = none) : front.accumulate? both = none := by
  obtain ⟨items, more, hitems, -, -, rfl⟩ := of_accumulate? h
  unfold accumulate? at hnone ⊢
  rw [hitems] at hnone
  cases hfront : front.value with
  | list =>
    rw [hfront] at hnone
    cases hdef : last.definition with
    | none => rfl
    | some k =>
      rw [hdef] at hnone
      simpa using hnone
  | _ => rfl

/-- Joined clauses declare what each of them declares. -/
theorem declares_joined {last c both : Clause} (h : last.accumulate? c = some both) :
    both.declares = last.declares ++ c.declares := by
  obtain ⟨items, more, hlast, hc, hkey, rfl⟩ := of_accumulate? h
  simp only [declares, ← hkey, hlast, hc, Value.items?, Option.getD_some]
  split <;> rfl

theorem declares_push (c : Clause) (cs : List Clause) :
    (pushClause c cs).flatMap declares = cs.flatMap declares ++ c.declares := by
  fun_induction pushClause c cs with
  | case1 => simp
  | case2 last both hb => simp [declares_joined hb]
  | case3 last hb => simp
  | case4 first second rest ih =>
    rw [List.flatMap_cons, ih, ← List.append_assoc]
    rfl

theorem declares_match {c : Clause} (h : c.keyword = "match") : c.declares = [] := by
  rw [declares, h, if_neg (by decide)]

end Clause

namespace Reading

theorem push_protocols (r : Reading) (c : Clause) : (r.push c).protocols = r.protocols := by
  unfold push
  split <;> rfl

theorem push_conditions {r : Reading} (h : r.inTarget = false) (c : Clause) :
    (r.push c).conditions = pushClause c r.conditions := by
  obtain ⟨scope, conditions, action, negated, protocols⟩ := r
  rcases action with _ | ⟨kind, target, params⟩
  · rfl
  · cases kind with
    | goto => rfl
    | jump => cases h

end Reading

end FermRules
