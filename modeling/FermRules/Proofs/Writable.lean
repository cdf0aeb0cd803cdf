import FermRules.Proofs.ClauseText

/-! # What has been read can be written

Only values that are absent or negated in the wrong place cannot be written, and
no reader makes them. So every rule that has been read can be written, whatever
keywords the registry has. -/
namespace FermRules

theorem mapM_ok_iff {ε α β : Type} {f : α → Except ε β} {as : List α} :
    (∃ bs, as.mapM f = .ok bs) ↔ ∀ a ∈ as, ∃ b, f a = .ok b := by
  induction as with
  | nil => exact ⟨fun _ => List.forall_mem_nil _, fun _ => ⟨[], rfl⟩⟩
  | cons a as ih =>
    rw [List.forall_mem_cons, ← ih, List.mapM_cons]
    constructor
    · rintro ⟨bs, h⟩
      obtain ⟨b, hb, hrest⟩ := bind_ok h
      obtain ⟨rest, hbs, _⟩ := bind_ok hrest
      exact ⟨⟨b, hb⟩, rest, hbs⟩
    · rintro ⟨⟨b, hb⟩, bs, hbs⟩
      refine ⟨b :: bs, ?_⟩
      rw [hb, hbs]
      rfl

namespace Value

variable {q : Char → Prop}

theorem FitsField.render_ok {field : FieldShape} {part : Value} (h : FitsField q field part) :
    ∃ text, part.render = .ok text := by
  cases h with
  | scalar => exact ⟨_, rfl⟩
  | list => exact ⟨_, rfl⟩

theorem renderParts_ok {fields : List FieldShape} {parts : List Value}
    (h : List.Forall₂ (FitsField q) fields parts) : ∃ texts, renderParts parts = .ok texts := by
  induction h with
  | nil => exact ⟨[], rfl⟩
  | cons hp _ ih =>
    obtain ⟨text, hr⟩ := hp.render_ok
    obtain ⟨texts, hrs⟩ := ih
    refine ⟨text :: texts, ?_⟩
    rw [renderParts, hr, hrs]
    rfl

theorem Fits.words_ok {shape : Shape} {v : Value} (h : v.Fits q shape) :
    ∃ ws, v.words = .ok ws := by
  cases h with
  | flag => exact ⟨[], rfl⟩
  | literal | scalar | array | list => exact ⟨_, rfl⟩
  | fixed =>
    unfold ofFixed
    split
    · exact ⟨_, rfl⟩
    · exact ⟨_, rfl⟩
  | composite hp =>
    obtain ⟨texts, hr⟩ := renderParts_ok hp
    refine ⟨[joinWords texts], ?_⟩
    simp only [words, render, hr]
    rfl

end Value

/-- The clause has a text. -/
def Clause.Writable (c : Clause) : Prop := ∃ text, c.render = .ok text

theorem Clause.writable_option (k : Keyword) (p : Polarity) {v : Value} {q : Char → Prop}
    (hv : v.Fits q k.shape) : Clause.Writable ⟨k.name, p.wrap v, some k⟩ := by
  obtain ⟨ws, hws⟩ := hv.words_ok
  refine ⟨joinWords (p.mark "!" k.renderedName ++ ws), ?_⟩
  rw [Clause.render_option k p hv.plain, hws]
  rfl

theorem Clause.writable_list {c : Clause} {items : List String} (h : c.value = .list items) :
    c.Writable := by
  refine ⟨joinWords [c.renderedName, Value.renderItems items], ?_⟩
  rw [Clause.render, h]
  rfl

theorem Clause.closed_writable (table : List Keyword) :
    Clause.Closed (fun _ => True) table Clause.Writable where
  option k _ p _ _ hv := Clause.writable_option k p hv
  modules _ _ _ := Clause.writable_list rfl
  joined last c both _ _ hb := by
    unfold Clause.accumulate? at hb
    split at hb
    · split at hb
      · cases hb
        exact Clause.writable_list rfl
      · cases hb
    · cases hb

/-- The action has a text. -/
def Action.Writable (registry : Registry) (a : Action) : Prop :=
  ∃ text, a.render registry = .ok text

/-- The rule has a text. -/
def LeafRule.Writable (registry : Registry) (r : LeafRule) : Prop :=
  ∃ text, r.render registry = .ok text

theorem Action.writable_of_params (registry : Registry) {a : Action}
    (hp : ∀ c ∈ a.params, c.Writable) : a.Writable registry := by
  obtain ⟨params, hparams⟩ := mapM_ok_iff.mpr hp
  unfold Writable render
  split
  · exact ⟨_, rfl⟩
  · rw [hparams]
    exact ⟨_, rfl⟩

/-- A rule can be written if all of its parts can. -/
theorem LeafRule.writable_iff {registry : Registry} {r : LeafRule} :
    r.Writable registry ↔
      (∀ c ∈ r.conditions, c.Writable) ∧ ∀ a, r.action = some a → a.Writable registry := by
  constructor
  · rintro ⟨text, htext⟩
    unfold render at htext
    obtain ⟨conditions, hconditions, hrest⟩ := bind_ok htext
    refine ⟨mapM_ok_iff.mp ⟨conditions, hconditions⟩, fun a ha => ?_⟩
    rw [ha] at hrest
    obtain ⟨action, haction, _⟩ := bind_ok hrest
    exact ⟨action, haction⟩
  · rintro ⟨hc, ha⟩
    obtain ⟨conditions, hconditions⟩ := mapM_ok_iff.mpr hc
    unfold Writable render
    rw [hconditions, ok_bind]
    cases hr : r.action with
    | none => exact ⟨_, rfl⟩
    | some a =>
      obtain ⟨text, htext⟩ := ha a hr
      simp only [htext]
      exact ⟨_, rfl⟩

/-- A rule that has been read can be written. -/
theorem LeafRule.writable_of_tokens {registry : Registry} {tokens : List Token} {r : LeafRule}
    (h : ofTokens registry tokens = .ok r) : r.Writable registry := by
  obtain ⟨hconditions, hparams⟩ := made_of_tokens (Clause.closed_writable _)
    (Clause.closed_writable _) (fun _ _ _ _ => trivial) h
  exact writable_iff.mpr ⟨hconditions, fun a ha => Action.writable_of_params registry (hparams a ha).1⟩

end FermRules
