import FermRules.Proofs.Legible
import FermRules.Proofs.Origin

/-! # Legal clauses

What may follow in a rule depends only on the clauses in front of it: they tell
which keywords are in scope, which protocols have been declared and of which
keyword the last clause is. This is what is `Known` behind them. A clause is
legal there if the reader could have made it: its keyword is in scope and its
value has the shape of the keyword, or it lists modules of which no declared
protocol implies one, and no list of modules stands directly in front. -/
namespace FermRules

/-- What the clauses in front of a place have told. -/
structure Known where
  scope : Scope
  protocols : List String
  /-- The keyword of the clause directly in front. -/
  last : Option String

namespace Clause

/-- The protocols that a clause declares; a negated one declares none. -/
def declares (c : Clause) : List String :=
  if c.keyword = "protocol" then c.value.items?.getD [] else []

/-- The tables of keywords that a clause brings along. -/
def brings (registry : Registry) (c : Clause) : List Keywords :=
  if c.keyword = "match" then (c.value.items?.getD []).map registry.moduleKeywords
  else c.declares.map registry.protocolKeywords

theorem brings_subset (registry : Registry) (c : Clause) :
    ∀ keywords ∈ c.brings registry, keywords ⊆ registry.broughtKeywords := by
  unfold brings
  split
  · simp only [List.forall_mem_map]
    exact fun name _ => registry.moduleKeywords_subset name
  · simp only [List.forall_mem_map]
    exact fun name _ => registry.protocolKeywords_subset name

end Clause

namespace Known

variable (registry : Registry)

def start : Known := ⟨registry.conditions.find?, [], none⟩

def after (e : Known) (c : Clause) : Known :=
  ⟨e.scope.extendAll (c.brings registry), e.protocols ++ c.declares, some c.keyword⟩

def afterAll (e : Known) (cs : List Clause) : Known := cs.foldl (after registry) e

/-- Behind a jump only the keywords of the target are in scope. -/
def jumped (e : Known) (target : String) : Known :=
  ⟨(registry.targetKeywords target).find?, e.protocols, none⟩

end Known

/-- The clause that lists modules. -/
def Clause.ofModules (names : List String) : Clause := ⟨"match", .list names, some matchKeyword⟩

inductive Clause.Legal (registry : Registry) (e : Known) : Clause → Prop
  | option {k : Keyword} {p : Polarity} {v : Value} :
      e.scope k.name = some k → k.Legible registry → p.Allowed k →
      v.Fits Value.noFeed k.shape → Legal registry e ⟨k.name, p.wrap v, some k⟩
  | modules {names : List String} :
      e.scope "match" = none → e.last ≠ some "match" → names ≠ [] →
      (∀ s ∈ names, Text.Over Value.noFeed s) →
      (∀ s ∈ names, s ∉ e.protocols.map registry.moduleForProtocol) →
      Legal registry e (.ofModules names)

/-- Each clause is legal behind those in front of it. -/
def LegalAll (registry : Registry) (e : Known) : List Clause → Prop
  | [] => True
  | c :: cs => c.Legal registry e ∧ LegalAll registry (e.after registry c) cs

inductive Action.Legal (registry : Registry) (e : Known) : Action → Prop
  | jump {target : String} {params : List Clause} :
      Text.Over Value.noFeed target → LegalAll registry (e.jumped registry target) params →
      Legal registry e ⟨.jump, target, params⟩
  | goto {target : String} :
      Text.Over Value.noFeed target → Legal registry e ⟨.goto, target, []⟩

structure LeafRule.Legal (registry : Registry) (e : Known) (r : LeafRule) : Prop where
  conditions : LegalAll registry e r.conditions
  action : ∀ a, r.action = some a → a.Legal registry (e.afterAll registry r.conditions)

namespace Known

variable {registry : Registry}

theorem afterAll_append (e : Known) (cs ds : List Clause) :
    e.afterAll registry (cs ++ ds) = (e.afterAll registry cs).afterAll registry ds :=
  List.foldl_append

theorem after_last (e : Known) (c : Clause) : (e.after registry c).last = some c.keyword := rfl

theorem afterAll_last (e : Known) (cs : List Clause) :
    (e.afterAll registry cs).last = (cs.getLast?.map Clause.keyword).or e.last := by
  rcases List.eq_nil_or_concat cs with rfl | ⟨front, c, rfl⟩
  · rfl
  · rw [List.concat_eq_append, afterAll_append]
    simp only [afterAll, List.foldl_cons, List.foldl_nil, after_last, List.getLast?_append,
      List.getLast?_singleton, Option.some_or, Option.map_some]

/-- Only the keyword and the items of a clause tell something. -/
theorem after_congr (e : Known) {c d : Clause} (hk : c.keyword = d.keyword)
    (hv : c.value.items? = d.value.items?) : e.after registry c = e.after registry d := by
  simp only [after, Clause.brings, Clause.declares, hk, hv]

theorem after_of_same (e : Known) {c d : Clause} (h : c.Same d) :
    e.after registry c = e.after registry d := by
  have hb : c.bare = d.bare := h
  simp only [Clause.bare, Clause.mk.injEq, and_true] at hb
  exact e.after_congr hb.1 (congrArg Value.items? hb.2)

theorem after_match (e : Known) (names : List String) (definition : Option Keyword) :
    e.after registry ⟨"match", .list names, definition⟩
      = ⟨e.scope.extendAll (names.map registry.moduleKeywords), e.protocols, some "match"⟩ := by
  rw [after, Clause.brings, Clause.declares, if_pos rfl, if_neg (by simp), List.append_nil]
  rfl

/-- Two lists of modules tell the same as one. -/
theorem after_ofModules_append (e : Known) (names more : List String) :
    (e.after registry (.ofModules names)).after registry (.ofModules more)
      = e.after registry (.ofModules (names ++ more)) := by
  simp only [Clause.ofModules, after_match, Scope.extendAll, List.map_append, List.foldl_append]

/-- All keywords in scope come from the tables of the registry. -/
def Sound (registry : Registry) (e : Known) : Prop := e.scope.From registry.keywords

theorem sound_start : (start registry).Sound registry :=
  Scope.from_find? (List.subset_append_left _ _)

theorem Sound.jumped (e : Known) (target : String) :
    (e.jumped registry target).Sound registry :=
  Scope.from_find? (List.Subset.trans (registry.targetKeywords_subset target)
    registry.parameter_subset_keywords)

theorem Sound.after {e : Known} (h : e.Sound registry) (c : Clause) :
    (e.after registry c).Sound registry :=
  Scope.From.extendAll h fun keywords hk =>
    List.Subset.trans (c.brings_subset registry keywords hk) registry.brought_subset_keywords

theorem Sound.afterAll {e : Known} (h : e.Sound registry) (cs : List Clause) :
    (e.afterAll registry cs).Sound registry := by
  induction cs generalizing e with
  | nil => exact h
  | cons c cs ih => exact ih (h.after c)

end Known

variable {registry : Registry}

theorem Clause.Legal.modules_of_keyword {e : Known} {c : Clause} (h : c.Legal registry e)
    (hk : c.keyword = "match") : ∃ names, c = .ofModules names ∧
      (∀ s ∈ names, Text.Over Value.noFeed s) ∧
      (∀ s ∈ names, s ∉ e.protocols.map registry.moduleForProtocol) ∧ e.last ≠ some "match" := by
  cases h with
  | option _ hleg _ _ =>
    have hfree := hleg.free
    dsimp only at hk
    rw [hk] at hfree
    exact absurd (by decide) hfree
  | modules _ hl _ hover himp => exact ⟨_, rfl, hover, himp, hl⟩

theorem legalAll_append {e : Known} {cs ds : List Clause} :
    LegalAll registry e (cs ++ ds)
      ↔ LegalAll registry e cs ∧ LegalAll registry (e.afterAll registry cs) ds := by
  induction cs generalizing e with
  | nil => simp [LegalAll, Known.afterAll]
  | cons c cs ih =>
    simp only [List.cons_append, LegalAll, ih, Known.afterAll, List.foldl_cons, and_assoc]

theorem legalAll_concat {e : Known} {cs : List Clause} {c : Clause} :
    LegalAll registry e (cs ++ [c])
      ↔ LegalAll registry e cs ∧ c.Legal registry (e.afterAll registry cs) := by
  simp only [legalAll_append, LegalAll, and_true]

/-- A clause in front of a rule is legal in front of what the rule asks for. -/
theorem LeafRule.legal_under {e : Known} {c : Clause} {r : LeafRule} :
    (r.under c).Legal registry e
      ↔ c.Legal registry e ∧ r.Legal registry (e.after registry c) := by
  constructor
  · exact fun h => ⟨h.conditions.1, h.conditions.2, h.action⟩
  · exact fun h => ⟨⟨h.1, h.2.conditions⟩, h.2.action⟩

namespace LeafRule

/-- The rule with more conditions in front. -/
def underAll (cs : List Clause) (r : LeafRule) : LeafRule :=
  { r with conditions := cs ++ r.conditions }

theorem underAll_nil (r : LeafRule) : r.underAll [] = r := rfl

theorem underAll_under (cs : List Clause) (c : Clause) (r : LeafRule) :
    r.underAll (cs ++ [c]) = (r.under c).underAll cs := by
  simp [underAll, under]

theorem legal_underAll {e : Known} {cs : List Clause} {r : LeafRule} :
    (r.underAll cs).Legal registry e
      ↔ LegalAll registry e cs ∧ r.Legal registry (e.afterAll registry cs) := by
  constructor
  · intro h
    obtain ⟨hcs, hconditions⟩ := legalAll_append.mp h.conditions
    refine ⟨hcs, hconditions, fun a ha => ?_⟩
    rw [← Known.afterAll_append]
    exact h.action a ha
  · rintro ⟨hcs, hconditions, haction⟩
    refine ⟨legalAll_append.mpr ⟨hcs, hconditions⟩, fun a ha => ?_⟩
    rw [underAll, Known.afterAll_append]
    exact haction a ha

end LeafRule

end FermRules
