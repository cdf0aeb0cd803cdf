import FermRules.Dump.Fault
import FermRules.Proofs.Growing
import FermRules.Proofs.SingleKeywordText

/-! # Rules that are cut short

A reader of values fails for one reason, that tokens are missing. So where a rule
that is read breaks off, either the option at its end misses something, or what is
left is read up to a point that the reading of the whole rule passes as well. From
there a rule only grows: clauses are put behind others, and the one thing that may
happen to what is there is that items are put behind those of its last clause. A
marker at the end negates nothing, which counts as missing, too. No fault of another
kind comes up, since what stands in front of the cut is read in the same way. -/
namespace FermRules

/-! ## Missing tokens -/

/-- A result that is no fault, or the fault that something is missing. -/
def OnlyMisses {α : Type} (result : Except RuleFault α) : Prop :=
  ∀ f, result = .error f → f.kind = .arity

namespace OnlyMisses

theorem ok {α : Type} (a : α) : OnlyMisses (.ok a : Except RuleFault α) := nofun

theorem error {α : Type} {f : RuleFault} (h : f.kind = .arity) :
    OnlyMisses (.error f : Except RuleFault α) := by
  intro g hg
  cases hg
  exact h

theorem bind {α β : Type} {result : Except RuleFault α} {next : α → Except RuleFault β}
    (h : OnlyMisses result) (hnext : ∀ a, result = .ok a → OnlyMisses (next a)) :
    OnlyMisses (result >>= next) := by
  cases result with
  | error f => exact error (h f rfl)
  | ok a => exact hnext a rfl

end OnlyMisses

namespace Value

end Value

/-! ## Readings of a part -/

namespace Reading

variable {registry : Registry}

end Reading

/-! ## Beginnings of rules -/

namespace Clause

/-- The second list begins with the first. But if `P` holds of the last clause of the first list,
a list, the second may have more items in its place. -/
inductive Begins (P : Clause → Prop) : List Clause → List Clause → Prop
  | whole {cs : List Clause} (behind : List Clause) : Begins P cs (cs ++ behind)
  | joined {front : List Clause} {last : Clause} {items : List String} (more : List String)
      (behind : List Clause) : last.value = .list items → P last →
      Begins P (front ++ [last]) (front ++ { last with value := .list (items ++ more) } :: behind)

variable {P : Clause → Prop}

theorem Begins.push {cs ds : List Clause} (h : Begins P cs ds) {c : Clause}
    (hP : ∀ last both, last.accumulate? c = some both → P last) :
    Begins P cs (pushClause c ds) := by
  cases h with
  | whole behind =>
    cases behind with
    | cons d behind =>
      rw [pushClause_append c (List.cons_ne_nil d behind)]
      exact .whole _
    | nil =>
      rw [List.append_nil]
      rcases List.eq_nil_or_concat cs with rfl | ⟨front, last, rfl⟩
      · exact .whole [c]
      rw [List.concat_eq_append, pushClause_concat]
      cases hb : last.accumulate? c with
      | none =>
        have hlast : front ++ [last, c] = front ++ [last] ++ [c] := by simp
        exact hlast ▸ .whole [c]
      | some both =>
        obtain ⟨items, more, hitems, -, -, rfl⟩ := of_accumulate? hb
        exact .joined more [] hitems (hP last _ hb)
  | @joined front last items more behind hitems hlast =>
    rw [pushClause_append c (List.cons_ne_nil _ behind)]
    cases behind with
    | cons d behind => exact .joined more _ hitems hlast
    | nil =>
      unfold pushClause
      split
      · rename_i both hb
        obtain ⟨_, others, heq, -, -, rfl⟩ := of_accumulate? hb
        cases heq
        rw [List.append_assoc]
        exact .joined (more ++ others) [] hitems hlast
      · exact .joined more [c] hitems hlast

theorem Begins.imp {Q : Clause → Prop} {cs ds : List Clause} (h : Begins P cs ds)
    (hPQ : ∀ c ∈ cs, P c → Q c) : Begins Q cs ds := by
  cases h with
  | whole behind => exact .whole behind
  | joined more behind hitems hlast =>
    exact .joined more behind hitems (hPQ _ List.mem_concat_self hlast)

end Clause

namespace LeafRule

/-- Both rules begin in the same way, and what the first one has of an action is the second's. -/
structure Starts (P : Clause → Prop) (q r : LeafRule) : Prop where
  conditions : Clause.Begins P q.conditions r.conditions
  action : ∀ a, q.action = some a → ∃ b, r.action = some b ∧ b.kind = a.kind ∧
    b.target = a.target ∧ Clause.Begins P a.params b.params

namespace Starts

variable {P : Clause → Prop} {q r : LeafRule}

theorem refl (q : LeafRule) : q.Starts P q := by
  have hself : ∀ cs : List Clause, Clause.Begins P cs cs := by
    intro cs
    have hwhole : Clause.Begins P cs (cs ++ []) := .whole []
    rwa [List.append_nil] at hwhole
  exact ⟨hself q.conditions, fun a ha => ⟨a, ha, rfl, rfl, hself a.params⟩⟩

theorem push (h : q.Starts P r) {c : Clause}
    (hP : ∀ last both, last.accumulate? c = some both → P last) : q.Starts P (r.push c) := by
  obtain ⟨conditions, action⟩ := r
  obtain ⟨hconditions, haction⟩ := h
  rcases action with _ | ⟨kind, target, params⟩
  · exact ⟨hconditions.push hP, haction⟩
  cases kind with
  | goto => exact ⟨hconditions.push hP, haction⟩
  | jump =>
    refine ⟨hconditions, fun a ha => ?_⟩
    obtain ⟨b, hb, hkind, htarget, hparams⟩ := haction a ha
    cases hb
    exact ⟨_, rfl, hkind, htarget, hparams.push hP⟩

theorem imp {Q : Clause → Prop} (h : q.Starts P r) (hconditions : ∀ c ∈ q.conditions, P c → Q c)
    (hparams : ∀ a, q.action = some a → ∀ c ∈ a.params, P c → Q c) : q.Starts Q r := by
  refine ⟨h.conditions.imp hconditions, fun a ha => ?_⟩
  obtain ⟨b, hb, hkind, htarget, hbegins⟩ := h.action a ha
  exact ⟨b, hb, hkind, htarget, hbegins.imp (hparams a ha)⟩

end Starts

end LeafRule

/-- The definition that the clause carries accumulates. -/
def Clause.Accumulates (c : Clause) : Prop := ∃ k, c.definition = some k ∧ k.accumulates = true

/-- While the tokens are read, a definition of the clause's keyword is in force that
accumulates. It need not be the one that the clause was read for: definitions of one name
may differ from table to table, and it is the later of two clauses that decides. -/
def Reading.Joins (registry : Registry) (r : Reading) (tokens : List Token) (c : Clause) : Prop :=
  ∃ s rest k, r.Passes registry tokens s rest ∧ s.inForce c.keyword = some k ∧
    k.accumulates = true

/-- Keywords of one name accumulate all, or none of them does. -/
def Registry.Agrees (registry : Registry) : Prop :=
  ∀ k ∈ matchKeyword :: registry.keywords, ∀ l ∈ matchKeyword :: registry.keywords,
    k.name = l.name → k.accumulates = l.accumulates

variable {registry : Registry}

theorem Registry.Agrees.accumulates (hagree : registry.Agrees) {r : Reading}
    (hsound : r.Sound registry) {tokens : List Token} {c : Clause}
    (hc : c.ReadFor (matchKeyword :: registry.keywords)) (h : r.Joins registry tokens c) :
    c.Accumulates := by
  obtain ⟨k, hk, hdef, hname⟩ := hc
  obtain ⟨s, rest, l, hpasses, hforce, haccumulates⟩ := h
  obtain ⟨hkey, hl⟩ := (hpasses.sound hsound).inForce hforce
  exact ⟨k, hdef, (hagree k hk l hl (hname.symm.trans hkey.symm)).trans haccumulates⟩

namespace LeafRule

theorem Starts.grows {C P : Clause → Prop} {q r s : LeafRule} (hgrows : r.Grows C s)
    (hC : ∀ c, C c → ∀ last both, last.accumulate? c = some both → P last)
    (h : q.Starts P r) : q.Starts P s := by
  cases hgrows with
  | same => exact h
  | clause hc => exact h.push (hC _ hc)
  | action =>
    refine ⟨h.conditions, fun a ha => ?_⟩
    obtain ⟨b, hb, -⟩ := h.action a ha
    cases hb

end LeafRule

end FermRules
