import FermRules.Proofs.LegalOptimizing
import FermRules.Proofs.RuleText

/-! # Rules are written on lines of their own

What has been read from a line contains no line feed, and neither does what is
written of it. The text of a clause or an action begins with a word that the
printer knows or with a `!`, so with no blank and no closing brace. Such a clause
is called tidy. No pass over the rules loses this: factoring moves clauses as
they are, and merging gives one of them an array of items that were read. -/
namespace FermRules

/-! ## Solid texts -/

/-- The text is on one line and begins with neither a blank nor a closing brace. -/
structure Text.Solid (s : String) : Prop where
  unbroken : Text.Unbroken s
  first : ∃ c cs, s.toList = c :: cs ∧ c ≠ ' ' ∧ c ≠ '\x7d'

namespace Text

theorem Unbroken.append {s t : String} (hs : Unbroken s) (ht : Unbroken t) :
    Unbroken (s ++ t) := by
  unfold Unbroken at hs ht ⊢
  simp [hs, ht]

theorem Solid.append {s t : String} (hs : Solid s) (ht : Unbroken t) : Solid (s ++ t) := by
  obtain ⟨c, cs, hc, hblank, hbrace⟩ := hs.first
  refine ⟨hs.unbroken.append ht, c, cs ++ t.toList, ?_, hblank, hbrace⟩
  rw [String.toList_append, hc, List.cons_append]

theorem Solid.joinWords {word : String} (h : Solid word) {words : List String}
    (hw : ∀ w ∈ words, Unbroken w) : Solid (FermRules.joinWords (word :: words)) := by
  cases words with
  | nil => exact h
  | cons next rest =>
    rw [FermRules.joinWords, String.append_assoc]
    have hblank : Unbroken " " := by decide
    exact h.append (hblank.append (unbroken_joinWords hw))

/-- Behind a first text that is solid, nothing has to begin in a special way. -/
theorem Solid.joinAll {words : List String} (hne : words ≠ []) (h : ∀ w ∈ words, Solid w) :
    Solid (FermRules.joinWords words) := by
  cases words with
  | nil => exact absurd rfl hne
  | cons word words =>
    obtain ⟨hword, hwords⟩ := List.forall_mem_cons.mp h
    exact hword.joinWords fun w hw => (hwords w hw).unbroken

end Text

variable {registry : Registry}

theorem Registry.Calls.solid {w name : String} (h : registry.Calls w name) : Text.Solid w := by
  obtain ⟨c, cs, hw, _⟩ := h.head
  have hc : Token.isSimpleChar c = true := h.simple c (by rw [hw]; exact List.mem_cons_self)
  exact ⟨h.spells.1, c, cs, hw, Token.ne_of_isSimpleChar hc (by decide),
    Token.ne_of_isSimpleChar hc (by decide)⟩

theorem unbroken_of_spells {ws : List String} {tss : List (List Token)}
    (h : List.Forall₂ (fun w ts => Spells w.toList ts) ws tss) : ∀ w ∈ ws, Text.Unbroken w := by
  induction h with
  | nil => nofun
  | cons hspells _ ih => exact List.forall_mem_cons.mpr ⟨hspells.1, ih⟩

/-! ## Tidy clauses -/

/-- A keyword that is known by the word it is written as, with a value that was
read from a line. -/
inductive Clause.Tidy (registry : Registry) : Clause → Prop
  | intro {k : Keyword} {shape : Shape} (p : Polarity) {v : Value} :
      registry.Calls k.renderedName k.name → v.Fits Value.noFeed shape →
      Tidy registry ⟨k.name, p.wrap v, some k⟩

namespace Clause.Tidy

theorem line {c : Clause} (h : c.Tidy registry) :
    ∃ text, c.render = .ok text ∧ Text.Solid text := by
  cases h with
  | @intro k shape p v hk hv =>
    obtain ⟨ws, tss, hwords, hspells, _⟩ := Value.spells_words hv
    have hunbroken := unbroken_of_spells hspells
    have hmark : Text.Solid "!" := ⟨by decide, '!', [], rfl, by decide, by decide⟩
    refine ⟨joinWords (p.mark "!" k.renderedName ++ ws), ?_, ?_⟩
    · rw [Clause.render_option k p hv.plain, hwords]
      rfl
    · cases p with
      | plain => exact hk.solid.joinWords hunbroken
      | leading =>
        exact hmark.joinWords (List.forall_mem_cons.mpr ⟨hk.solid.unbroken, hunbroken⟩)
      | trailing =>
        exact hk.solid.joinWords (List.forall_mem_cons.mpr ⟨hmark.unbroken, hunbroken⟩)

/-- Only a clause without negation has items. -/
theorem items {c : Clause} (h : c.Tidy registry) {items : List String}
    (hi : c.value.items? = some items) : ∀ s ∈ items, Text.Over Value.noFeed s := by
  cases h with
  | intro p hk hv =>
    cases p with
    | plain => exact hv.items hi
    | leading | trailing => cases hi

theorem withItems {c : Clause} (h : c.Tidy registry) {items : List String}
    (hi : ∀ s ∈ items, Text.Over Value.noFeed s) :
    Clause.Tidy registry { c with value := .list items } := by
  cases h with
  | intro p hk hv => exact .intro .plain hk (.list hi)

theorem joined {last c both : Clause} (hl : last.Tidy registry) (hc : c.Tidy registry)
    (h : last.accumulate? c = some both) : both.Tidy registry := by
  obtain ⟨items, more, hlast, hmore, _, rfl⟩ := Clause.of_accumulate? h
  refine hl.withItems (List.forall_mem_append.mpr ⟨hl.items ?_, hc.items ?_⟩)
  · rw [hlast]
    rfl
  · rw [hmore]
    rfl

end Clause.Tidy

theorem Clause.closed_tidy (hr : registry.Legible) {table : List Keyword}
    (ht : table ⊆ registry.keywords) :
    Clause.Closed Value.noFeed table (Clause.Tidy registry) where
  option k hk p _ _ hv := .intro p (hr.keyword k (ht hk)).called hv
  modules _ _ hnames := .intro (k := matchKeyword) .plain hr.calls_mod (.list hnames)
  joined _ _ _ hl hc hb := hl.joined hc hb

/-! ## Tidy rules -/

structure Action.Tidy (registry : Registry) (a : Action) : Prop where
  target : Text.Over Value.noFeed a.target
  params : ∀ c ∈ a.params, c.Tidy registry

structure LeafRule.Tidy (registry : Registry) (r : LeafRule) : Prop where
  conditions : ∀ c ∈ r.conditions, c.Tidy registry
  action : ∀ a, r.action = some a → a.Tidy registry

theorem Clause.Tidy.lines {cs : List Clause} (h : ∀ c ∈ cs, c.Tidy registry) :
    ∃ texts, cs.mapM Clause.render = .ok texts ∧ ∀ t ∈ texts, Text.Solid t := by
  induction cs with
  | nil => exact ⟨[], rfl, nofun⟩
  | cons c cs ih =>
    obtain ⟨hc, hcs⟩ := List.forall_mem_cons.mp h
    obtain ⟨text, hrender, htext⟩ := hc.line
    obtain ⟨texts, hrenders, htexts⟩ := ih hcs
    refine ⟨text :: texts, ?_, List.forall_mem_cons.mpr ⟨htext, htexts⟩⟩
    rw [List.mapM_cons, hrender, hrenders]
    rfl

theorem Action.Tidy.line (hr : registry.Legible) {a : Action} (h : a.Tidy registry) :
    ∃ text, a.render registry = .ok text ∧ Text.Solid text := by
  have htarget : Text.Unbroken (Token.write a.target) :=
    Token.unbroken_write (Value.unbroken_of_over h.target)
  have hword : ∀ w ∈ [Token.write a.target], Text.Unbroken w := by simpa using htarget
  obtain ⟨texts, hrenders, htexts⟩ := Clause.Tidy.lines h.params
  unfold Action.render
  cases a.kind with
  | goto => exact ⟨_, rfl, hr.calls_goto.solid.joinWords hword⟩
  | jump =>
    have hparams : ∀ t ∈ texts, Text.Unbroken t := fun t ht => (htexts t ht).unbroken
    dsimp only
    rw [hrenders]
    refine ⟨_, rfl, ?_⟩
    split
    · rename_i hknown
      exact (hr.target a.target hknown).solid.joinWords hparams
    · refine hr.calls_jump.solid.joinWords ?_
      exact List.forall_mem_append.mpr ⟨hword, hparams⟩

/-- The rule is a statement on one line. -/
theorem LeafRule.Tidy.line (hr : registry.Legible) {r : LeafRule} (h : r.Tidy registry) :
    ∃ body, r.render registry = .ok (body ++ ";") ∧ Text.Solid body := by
  obtain ⟨conditions, hconditions, hcsolid⟩ := Clause.Tidy.lines h.conditions
  have haction : ∃ action, r.action.toList.mapM (Action.render registry) = .ok action ∧
      ∀ t ∈ action, Text.Solid t := by
    cases ha : r.action with
    | none => exact ⟨[], rfl, nofun⟩
    | some a =>
      obtain ⟨text, hrender, htext⟩ := (h.action a ha).line hr
      refine ⟨[text], ?_, by simpa using htext⟩
      rw [Option.toList_some, List.mapM_cons, hrender]
      rfl
  obtain ⟨action, haction, hasolid⟩ := haction
  refine ⟨_, LeafRule.render_of_words hconditions haction, ?_⟩
  split
  · exact hr.calls_nop.solid
  · rename_i hne
    exact .joinAll (by simpa using hne) (List.forall_mem_append.mpr ⟨hcsolid, hasolid⟩)

/-! ## Passes -/

namespace Rule

mutual

def Tidy (registry : Registry) : Rule → Prop
  | leaf r => r.Tidy registry
  | block c children => c.Tidy registry ∧ AllTidy registry children

def AllTidy (registry : Registry) : List Rule → Prop
  | [] => True
  | rule :: rest => Tidy registry rule ∧ AllTidy registry rest

end

theorem allTidy_map_leaf {rules : List LeafRule} (h : ∀ r ∈ rules, r.Tidy registry) :
    AllTidy registry (rules.map leaf) := by
  induction rules with
  | nil => trivial
  | cons r rules ih =>
    obtain ⟨hr, hrules⟩ := List.forall_mem_cons.mp h
    rw [List.map_cons, AllTidy, Tidy]
    exact ⟨hr, ih hrules⟩

mutual

theorem tidy_iff : ∀ rule : Rule, rule.Tidy registry ↔
    Every (Clause.Tidy registry) [rule] ∧ ∀ a ∈ actionsAll [rule], a.Tidy registry
  | leaf r => by
    rw [Tidy, Every.cons_leaf, actionsAll_leaf]
    constructor
    · exact fun h => ⟨⟨h.conditions, Every.nil⟩, by simpa [actionsAll] using h.action⟩
    · exact fun h => ⟨h.1.1, by simpa [actionsAll] using h.2⟩
  | block c children => by
    rw [Tidy, Every.cons_block, actionsAll_block, allTidy_iff children, List.forall_mem_append]
    constructor
    · exact fun h => ⟨⟨h.1, h.2.1, Every.nil⟩, h.2.2, List.forall_mem_nil _⟩
    · exact fun h => ⟨h.1.1, h.1.2.1, h.2.1⟩

theorem allTidy_iff : ∀ rules : List Rule, AllTidy registry rules ↔
    Every (Clause.Tidy registry) rules ∧ ∀ a ∈ actionsAll rules, a.Tidy registry
  | [] => ⟨fun _ => ⟨Every.nil, List.forall_mem_nil _⟩, fun _ => trivial⟩
  | rule :: rest => by
    rw [AllTidy, tidy_iff rule, allTidy_iff rest, @Every.cons _ rule rest,
      actionsAll_cons rule rest, List.forall_mem_append]
    exact and_and_and_comm

end

/-- Merging makes an array of items that were read, and no other clause. -/
theorem AllTidy.optimize {rules : List Rule} (h : AllTidy registry rules) :
    AllTidy registry (Rule.optimize rules) := by
  obtain ⟨hclauses, hactions⟩ := (allTidy_iff rules).mp h
  have hmerged : Every (Clause.Tidy registry) (Rule.optimize rules) :=
    hclauses.optimize fun _ _ _ _ hc hd hi hm =>
      hc.withItems (List.forall_mem_append.mpr ⟨hc.items hi, hd.items hm⟩)
  exact (allTidy_iff _).mpr ⟨hmerged, fun a ha => hactions a (actionsAll_optimize rules ha)⟩

end Rule

/-! ## What has been read is tidy -/

namespace Reading

theorem push_target (r : Reading) (c : Clause) :
    (r.push c).action.map Action.target = r.action.map Action.target := by
  obtain ⟨scope, conditions, action, negated, protocols⟩ := r
  rcases action with _ | ⟨kind, target, params⟩
  · rfl
  · cases kind <;> rfl

theorem learn_action (r : Reading) (k : Keyword) (p : Polarity) (v : Value) :
    (r.learn registry k p v).action = r.action := by
  unfold learn
  split <;> rfl

theorem addModules_target (r : Reading) (names : List String) :
    (r.addModules registry names).action.map Action.target = r.action.map Action.target := by
  rw [addModules_eq]
  split
  · rfl
  · rw [push_target]
    rfl

/-- A target that has been read stands in a token, or it is known by its name. -/
theorem target_over (hr : registry.Legible) {tokens : List Token} {last : Reading}
    (htokens : Token.AllOver Value.noFeed tokens)
    (h : (start registry).run registry tokens = .ok last) :
    ∀ target, last.action.map Action.target = some target → Text.Over Value.noFeed target := by
  have hlast := run_induction (P := fun r tokens =>
      (∀ target, r.action.map Action.target = some target → Text.Over Value.noFeed target) ∧
        Token.AllOver Value.noFeed tokens) ?_
    ⟨fun _ ht => (Option.some_ne_none _ ht.symm).elim, htokens⟩ h
  · exact hlast.1
  intro r t tokens r' rest ⟨htarget, hover⟩ hstep
  have hs := steps_of_step hstep
  have htail : Token.AllOver Value.noFeed tokens := hover.of_suffix (List.suffix_cons t tokens)
  refine ⟨?_, htail.of_suffix hs.suffix⟩
  cases hs with
  | negation | nothing => exact htarget
  | option =>
    rw [push_target, learn_action]
    exact htarget
  | modules =>
    rw [addModules_target]
    exact htarget
  | action _ _ hnames =>
    intro target ht
    cases ht
    exact hnames.over hr htail

end Reading

namespace LeafRule

theorem tidy_of_tokens (hr : registry.Legible) {tokens : List Token} {r : LeafRule}
    (htokens : Token.AllOver Value.noFeed tokens) (h : ofTokens registry tokens = .ok r) :
    r.Tidy registry := by
  obtain ⟨hconditions, haction⟩ := made_of_tokens
    (Clause.closed_tidy hr registry.condition_subset_keywords)
    (Clause.closed_tidy hr registry.parameter_subset_keywords) htokens h
  refine ⟨hconditions, fun a ha => ⟨?_, (haction a ha).1⟩⟩
  obtain ⟨last, hrun, hfinish⟩ := bind_ok h
  unfold Reading.finish at hfinish
  split at hfinish
  · cases hfinish
  · cases hfinish
    have hlast : last.action = some a := ha
    exact Reading.target_over hr (dropTerminator_over htokens) hrun _ (by rw [hlast]; rfl)

/-- A rule that was read from a line can be written on one. -/
theorem tidy_of_text (hr : registry.Legible) {text : String} (hline : Text.Unbroken text)
    {r : LeafRule} (h : ofText registry text = .ok r) : r.Tidy registry := by
  obtain ⟨tokens, htokens, hread⟩ := tokens_of_text h
  have hover : Text.Over Value.noFeed text := fun c hc he => hline (he ▸ hc)
  exact tidy_of_tokens hr (over_of_tokenize htokens hover) hread

end LeafRule

end FermRules
