import FermRules.Proofs.Growing
import FermRules.Proofs.SingleKeywordText
import Mathlib.Data.List.Chain

/-! # Rules conform to their keywords

What a clause holds is what its keyword takes, under no negation but one that the
keyword allows. A single clause conforms because its value fits the shape of the
keyword. A joined one still does, for a keyword that accumulates asks for no number
of words; this is where the keywords of one name must agree, since the later of two
clauses decides whether they are joined and the earlier one keeps its keyword. That
no two lists are left side by side that could have been joined is seen clause by
clause as a rule grows: what is in front of the last clause stays apart from it
even when the last clause is joined. -/
namespace FermRules

/-! ## What a keyword takes -/

/-- The part of a composite that a field takes. -/
def FieldShape.Takes : FieldShape → Value → Prop
  | .scalar, v => ∃ text, v = .scalar text
  | .list, v => ∃ items, v = .list items

/-- The plain values that a keyword takes. An array may stand for a scalar. Words of a fixed number
are a list if they are more than one, and more may be joined to it where the keyword accumulates. -/
def Keyword.Takes (k : Keyword) (v : Value) : Prop :=
  match k.shape with
  | .flag => v = .absent
  | .literal => ∃ text, v = .scalar text
  | .scalar => (∃ text, v = .scalar text) ∨ ∃ items, v = .list items
  | .list => ∃ items, v = .list items
  | .fixed count =>
    if count = 1 then ∃ text, v = .scalar text
    else ∃ items, v = .list items ∧ (k.accumulates = false → items.length = count)
  | .composite fields => ∃ parts, v = .composite parts ∧ List.Forall₂ FieldShape.Takes fields parts

namespace Keyword

/-- A list stays one that the keyword takes when more is put behind it. -/
theorem Takes.append {k : Keyword} {items : List String} (h : k.Takes (.list items))
    (hk : k.accumulates = true) (more : List String) : k.Takes (.list (items ++ more)) := by
  unfold Takes at h ⊢
  generalize k.shape = shape at h ⊢
  cases shape with
  | flag => cases h
  | literal =>
    obtain ⟨_, h⟩ := h
    cases h
  | scalar => exact .inr ⟨_, rfl⟩
  | list => exact ⟨_, rfl⟩
  | fixed count =>
    dsimp only at h ⊢
    split at h
    · obtain ⟨_, h⟩ := h
      cases h
    · rename_i hmany
      rw [if_neg hmany]
      exact ⟨_, rfl, fun hsingle => by simp [hk] at hsingle⟩
  | composite fields =>
    obtain ⟨_, h, -⟩ := h
    cases h

end Keyword

/-! ## Clauses -/

namespace Clause

/-- The clause was read for a keyword of the table, or it lists match modules. -/
inductive Conforms (table : List Keyword) : Clause → Prop
  | option {k : Keyword} {p : Polarity} {v : Value} :
      k ∈ table → p.Allowed k → k.Takes v → Conforms table ⟨k.name, p.wrap v, some k⟩
  | modules {names : List String} :
      names ≠ [] → Conforms table ⟨"match", .list names, some matchKeyword⟩

/-- Both clauses are bare lists under one name, and the later one accumulates. -/
structure Repeats (c d : Clause) : Prop where
  keyword : c.keyword = d.keyword
  list : ∃ items, c.value = .list items
  more : ∃ items, d.value = .list items
  accumulates : ∃ k, d.definition = some k ∧ k.accumulates = true

/-- No clause could have been joined with the one in front of it. -/
def AllApart (cs : List Clause) : Prop := cs.IsChain fun c d => c.accumulate? d = none

/-- A clause that is pushed is joined, or it stands apart from the one in front of it. -/
theorem AllApart.push {cs : List Clause} (h : AllApart cs) (c : Clause) :
    AllApart (pushClause c cs) := by
  rcases List.eq_nil_or_concat cs with rfl | ⟨front, last, rfl⟩
  · exact .singleton c
  rw [List.concat_eq_append] at h ⊢
  obtain ⟨hfront, -, hlink⟩ := List.isChain_append.mp h
  rw [pushClause_concat]
  cases hb : last.accumulate? c with
  | none =>
    refine hfront.append (.cons_cons hb (.singleton c)) fun before hbefore d hd => ?_
    exact hlink before hbefore d hd
  | some both =>
    refine hfront.append (.singleton both) fun before hbefore d hd => ?_
    obtain rfl : both = d := Option.some.inj hd
    exact accumulate?_joined hb (hlink before hbefore last rfl)

end Clause

/-! ## Rules -/

/-- The parameters conform to keywords that may be read behind a jump, no two lists of them should
have been joined, and a goto has none. -/
structure Action.Conforms (registry : Registry) (a : Action) : Prop where
  params : ∀ c ∈ a.params, c.Conforms registry.parameterKeywords
  apart : a.params.IsChain fun c d => ¬c.Repeats d
  goto : a.kind = .goto → a.params = []

namespace LeafRule

structure Conforms (registry : Registry) (q : LeafRule) : Prop where
  conditions : ∀ c ∈ q.conditions, c.Conforms registry.conditionKeywords
  apart : q.conditions.IsChain fun c d => ¬c.Repeats d
  action : ∀ a, q.action = some a → a.Conforms registry

/-- In front of a jump and behind it, clauses stand apart. -/
structure Apart (q : LeafRule) : Prop where
  conditions : Clause.AllApart q.conditions
  params : ∀ a, q.action = some a → Clause.AllApart a.params

theorem Apart.push {q : LeafRule} (h : q.Apart) (c : Clause) : (q.push c).Apart := by
  obtain ⟨conditions, action⟩ := q
  obtain ⟨hconditions, hparams⟩ := h
  rcases action with _ | ⟨kind, target, params⟩
  · exact ⟨hconditions.push c, hparams⟩
  cases kind with
  | goto => exact ⟨hconditions.push c, hparams⟩
  | jump =>
    refine ⟨hconditions, fun a ha => ?_⟩
    cases ha
    exact (hparams _ rfl).push c

theorem Apart.grows {C : Clause → Prop} {q q' : LeafRule} (hq : q.Grows C q') (h : q.Apart) :
    q'.Apart := by
  cases hq with
  | same => exact h
  | clause => exact h.push _
  | action =>
    refine ⟨h.conditions, fun a ha => ?_⟩
    cases ha
    exact .nil

end LeafRule

end FermRules
