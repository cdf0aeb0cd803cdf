import FermRules.Proofs.Scopes
import FermRules.Proofs.Steps

/-! # What the clauses of a rule are made of

A clause is read for a keyword of the scope, or it lists modules, or it comes
from joining two clauses of these kinds. A property that holds of what is read
and survives joining holds of all clauses of a rule that has been read. Those
in front of a jump and those behind it are kept apart, for their keywords come
from different tables. -/
namespace FermRules

/-- The keyword may be negated in this place. -/
def Polarity.Allowed (k : Keyword) : Polarity → Prop
  | .plain => True
  | .leading => k.negation = .before
  | .trailing => k.negation = .after ∧ k.shape ≠ .flag

theorem Polarity.allowed_of_read {k : Keyword} {negated : Bool} {tokens : List Token}
    {p : Polarity} (h : Polarity.read k negated tokens = .ok p) : p.Allowed k := by
  unfold Polarity.read at h
  split at h
  · cases h
  rename_i hlead
  split at h
  · rename_i hshape
    split at h
    · rename_i hafter
      cases h
      exact ⟨hafter, by simpa using (Bool.and_eq_true_iff.mp hshape).1⟩
    · cases h
  · cases h
    cases negated with
    | false => trivial
    | true => simpa [Allowed] using hlead

/-- `P` holds of the clauses read for keywords of the table, and of those that
are joined from such clauses. -/
structure Clause.Closed (q : Char → Prop) (table : List Keyword) (P : Clause → Prop) : Prop where
  option : ∀ k ∈ table, ∀ (p : Polarity) (v : Value), p.Allowed k → v.Fits q k.shape →
    P ⟨k.name, p.wrap v, some k⟩
  modules : ∀ names : List String, names ≠ [] → (∀ s ∈ names, Text.Over q s) →
    P ⟨"match", .list names, some matchKeyword⟩
  joined : ∀ last c both : Clause, P last → P c → last.accumulate? c = some both → P both

theorem Clause.Closed.push {q : Char → Prop} {table : List Keyword} {P : Clause → Prop}
    (hP : Clause.Closed q table P) {c : Clause} {cs : List Clause} (hc : P c)
    (hcs : ∀ d ∈ cs, P d) : ∀ d ∈ pushClause c cs, P d := by
  fun_induction pushClause c cs with
  | case1 => simpa using hc
  | case2 last both hb => simpa using hP.joined last c both (hcs last List.mem_cons_self) hc hb
  | case3 last hb => simpa using ⟨hcs last List.mem_cons_self, hc⟩
  | case4 first second rest ih =>
    obtain ⟨hfirst, hrest⟩ := List.forall_mem_cons.mp hcs
    exact List.forall_mem_cons.mpr ⟨hfirst, ih hrest⟩

theorem Clause.Closed.mono {q : Char → Prop} {table part : List Keyword} {P : Clause → Prop}
    (hP : Clause.Closed q table P) (h : part ⊆ table) : Clause.Closed q part P :=
  ⟨fun k hk => hP.option k (h hk), hP.modules, hP.joined⟩

/-- The clause was read for one of the keywords, under its name. -/
def Clause.ReadFor (table : List Keyword) (c : Clause) : Prop :=
  ∃ k ∈ table, c.definition = some k ∧ c.keyword = k.name

theorem Clause.readFor_accumulate {table : List Keyword} {last c both : Clause}
    (h : last.ReadFor table) (hb : last.accumulate? c = some both) : both.ReadFor table := by
  unfold Clause.accumulate? at hb
  split at hb
  · split at hb
    · cases hb
      exact h
    · cases hb
  · cases hb

theorem Clause.closed_readFor (table : List Keyword) :
    Clause.Closed (fun _ => True) table (Clause.ReadFor (matchKeyword :: table)) where
  option k hk _ _ _ _ := ⟨k, List.mem_cons_of_mem _ hk, rfl, rfl⟩
  modules _ _ _ := ⟨matchKeyword, List.mem_cons_self, rfl, rfl⟩
  joined _ _ _ h _ hb := Clause.readFor_accumulate h hb

namespace Reading

/-- `P` holds of the conditions and `Q` of the parameters of the action. -/
structure Made (registry : Registry) (P Q : Clause → Prop) (r : Reading) : Prop where
  scope : r.scope.From (r.table registry)
  conditions : ∀ c ∈ r.conditions, P c
  params : ∀ a, r.action = some a →
    (∀ c ∈ a.params, Q c) ∧ (a.kind = .goto → a.params = [])

variable {registry : Registry} {q : Char → Prop} {P Q : Clause → Prop}

theorem Made.extend {r : Reading} (h : Made registry P Q r) {tables : List Keywords}
    {protocols : List String} (ht : ∀ keywords ∈ tables, keywords ⊆ registry.broughtKeywords) :
    Made registry P Q { r with scope := r.scope.extendAll tables, protocols := protocols } :=
  ⟨h.scope.extendAll fun keywords hk =>
      List.Subset.trans (ht keywords hk) (brought_subset_table registry r),
    h.conditions, h.params⟩

theorem Made.learn {r : Reading} (h : Made registry P Q r) (k : Keyword) (p : Polarity)
    (v : Value) : Made registry P Q (r.learn registry k p v) := by
  unfold Reading.learn
  split
  · have ht : ∀ keywords ∈ (v.items?.getD []).map registry.protocolKeywords,
        keywords ⊆ registry.broughtKeywords := by
      simp only [List.forall_mem_map]
      exact fun name _ => registry.protocolKeywords_subset name
    have hnew : Made registry P Q
        ⟨_, r.conditions, r.action, r.negated, r.protocols ++ v.items?.getD []⟩ := h.extend ht
    simpa only [declare, Scope.extendAll, List.foldl_map] using hnew
  · exact h

theorem Made.push {r : Reading} {c : Clause} (h : Made registry P Q r)
    (hP : Clause.Closed q registry.conditionKeywords P)
    (hQ : Clause.Closed q registry.parameterKeywords Q)
    (hc : r.inTarget = false → P c) (hc' : r.inTarget = true → Q c) :
    Made registry P Q (r.push c) := by
  have hscope : (r.push c).scope.From ((r.push c).table registry) := by
    rw [push_scope, Reading.table, push_inTarget]
    exact h.scope
  refine ⟨hscope, ?_, ?_⟩
  all_goals unfold Reading.push; split
  · exact h.conditions
  · rename_i hne
    refine hP.push (hc ?_) h.conditions
    unfold inTarget
    split
    · rename_i a ha
      cases a with
      | mk kind target params =>
        cases kind with
        | jump => exact absurd ha (hne target params)
        | goto => rfl
    · rfl
  · rename_i target params ha
    intro a heq
    cases heq
    obtain ⟨hparams, _⟩ := h.params _ ha
    exact ⟨hQ.push (hc' (by simp [inTarget, ha])) hparams, fun hg => nomatch hg⟩
  · exact h.params

theorem learn_inTarget (registry : Registry) (r : Reading) (k : Keyword) (p : Polarity)
    (v : Value) : (r.learn registry k p v).inTarget = r.inTarget := by
  unfold Reading.learn
  split <;> rfl

theorem table_of_inTarget {r : Reading} {b : Bool} (h : r.inTarget = b) :
    r.table registry = if b then registry.parameterKeywords else registry.conditionKeywords := by
  rw [table, h]

theorem Made.steps {r r' : Reading} {t : Token} {tokens rest : List Token}
    (h : Made registry P Q r) (hP : Clause.Closed q registry.conditionKeywords P)
    (hQ : Clause.Closed q registry.parameterKeywords Q) (htokens : Token.AllOver q tokens)
    (hs : Steps registry r t tokens r' rest) : Made registry P Q r' := by
  cases hs with
  | negation => exact ⟨h.scope, h.conditions, h.params⟩
  | @option k p v _ hk hp hv =>
    have hfits := (Value.read_ok (htokens.of_suffix (Polarity.skip_suffix p tokens)) hv).2
    have hallowed := Polarity.allowed_of_read hp
    have hplain : Made registry P Q { r with negated := false } :=
      ⟨h.scope, h.conditions, h.params⟩
    obtain ⟨_, hmem⟩ := hplain.scope _ _ hk
    refine (hplain.learn k p v).push hP hQ ?_ ?_
    all_goals
      intro hb
      rw [learn_inTarget] at hb
      rw [table_of_inTarget hb] at hmem
    · exact hP.option k hmem p v hallowed hfits
    · exact hQ.option k hmem p v hallowed hfits
  | @modules names _ hn hs ho hl =>
    have hover := (Value.readList_ok htokens hl).2
    have hactive : Made registry P Q (r.activate registry names) := by
      refine h.extend ?_
      simp only [List.forall_mem_map]
      exact fun name _ => registry.moduleKeywords_subset name
    rw [addModules_eq]
    split
    · exact hactive
    · rename_i hne
      have hkept : ∀ s ∈ r.kept registry names, Text.Over q s :=
        fun s hs => hover s (List.mem_of_mem_filter hs)
      exact hactive.push hP hQ (fun _ => hP.modules _ hne hkept) fun _ => hQ.modules _ hne hkept
  | @action kind target _ hn ha hnames =>
    have hfront : r.inTarget = false := by simp [inTarget, ha]
    refine ⟨?_, h.conditions, ?_⟩
    · cases kind with
      | jump => exact Scope.from_find? (registry.targetKeywords_subset target)
      | goto =>
        have := h.scope
        rw [table_of_inTarget hfront] at this
        exact this
    · intro a heq
      cases heq
      exact ⟨List.forall_mem_nil _, fun _ => rfl⟩
  | nothing => exact h

theorem made_start : Made registry P Q (start registry) :=
  ⟨Scope.from_find? fun _ hk => List.mem_append_left _ hk, (fun _ hc => nomatch hc),
    (fun _ ha => nomatch ha)⟩

end Reading

/-! ## Tokens -/

namespace Lexer

/-- The text that has been read of the current token. -/
def Mode.text : Mode → String
  | .word text | .literal _ _ text | .escaped _ text => text

theorem over_push {q : Char → Prop} {text : String} {c : Char} (h : Text.Over q text) (hc : q c) :
    Text.Over q (text.push c) := by
  intro d hd
  rw [String.toList_push] at hd
  rcases List.mem_append.mp hd with hd | hd
  · exact h d hd
  · exact List.mem_singleton.mp hd ▸ hc

theorem over_wordTokens {q : Char → Prop} {text : String} (h : Text.Over q text) :
    Token.AllOver q (wordTokens text) := by
  unfold wordTokens
  split
  · exact fun _ ht => nomatch ht
  · exact fun t ht => List.mem_singleton.mp ht ▸ h

/-- A character goes into the token it completes or into the one that is read. -/
theorem over_step {q : Char → Prop} {mode : Mode} {c : Char} (column : Nat)
    (h : Text.Over q mode.text) (hc : q c) :
    Token.AllOver q (step column c mode).1 ∧ Text.Over q (step column c mode).2.text := by
  have hempty : Text.Over q "" := fun _ hd => nomatch hd
  have hnone : Token.AllOver q [] := fun _ ht => nomatch ht
  cases mode with
  | word text =>
    simp only [step]
    split
    · exact ⟨over_wordTokens h, hempty⟩
    · split
      · exact ⟨over_wordTokens h, hempty⟩
      · exact ⟨hnone, over_push h hc⟩
  | literal quote opened text =>
    simp only [step]
    split
    · exact ⟨fun t ht => List.mem_singleton.mp ht ▸ h, hempty⟩
    · split
      · exact ⟨hnone, h⟩
      · exact ⟨hnone, over_push h hc⟩
  | escaped opened text => exact ⟨hnone, over_push h hc⟩

theorem over_run {q : Char → Prop} {cs : List Char} {column : Nat} {mode : Mode}
    {tokens : List Token} (hmode : Text.Over q mode.text) (hcs : ∀ c ∈ cs, q c)
    (h : run column mode cs = .ok tokens) : Token.AllOver q tokens := by
  induction cs generalizing column mode tokens with
  | nil =>
    cases mode with
    | word text =>
      cases h
      exact over_wordTokens hmode
    | literal | escaped => cases h
  | cons c cs ih =>
    obtain ⟨hc, hcs⟩ := List.forall_mem_cons.mp hcs
    obtain ⟨hdone, hnext⟩ := over_step column hmode hc
    simp only [run] at h
    cases hrest : run (column + 1) (step column c mode).2 cs with
    | error f =>
      rw [hrest] at h
      cases h
    | ok more =>
      rw [hrest] at h
      cases h
      exact List.forall_mem_append.mpr ⟨hdone, ih hnext hcs hrest⟩

end Lexer

theorem over_of_tokenize {q : Char → Prop} {text : String} {tokens : List Token}
    (h : tokenize text = .ok tokens) (hq : Text.Over q text) : Token.AllOver q tokens := by
  have hempty : Text.Over q (Lexer.Mode.word "").text := fun _ hc => nomatch hc
  exact Lexer.over_run hempty hq h

theorem LeafRule.tokens_of_text {registry : Registry} {text : String} {r : LeafRule}
    (h : ofText registry text = .ok r) :
    ∃ tokens, tokenize text = .ok tokens ∧ ofTokens registry tokens = .ok r := by
  obtain ⟨tokens, htokens, hread⟩ := bind_ok h
  cases ht : tokenize text with
  | error quote =>
    rw [ht] at htokens
    cases htokens
  | ok found =>
    rw [ht] at htokens
    cases htokens
    exact ⟨tokens, rfl, hread⟩

theorem LeafRule.dropTerminator_over {q : Char → Prop} {tokens : List Token}
    (h : Token.AllOver q tokens) : Token.AllOver q (LeafRule.dropTerminator tokens) := by
  fun_induction LeafRule.dropTerminator tokens with
  | case1 => exact h
  | case2 => exact fun _ ht => nomatch ht
  | case3 t he hne =>
    intro u hu
    rw [List.mem_singleton.mp hu]
    exact Text.over_ofList.mpr fun c hc =>
      h t List.mem_cons_self c ((List.dropLast_sublist _).subset hc)
  | case4 t he => exact h
  | case5 first second rest ih =>
    obtain ⟨hfirst, hrest⟩ := List.forall_mem_cons.mp h
    exact List.forall_mem_cons.mpr ⟨hfirst, ih hrest⟩

/-- What holds of all that is read and joined holds of the conditions and the
parameters of a rule. -/
theorem LeafRule.made_of_tokens {registry : Registry} {q : Char → Prop} {P Q : Clause → Prop}
    (hP : Clause.Closed q registry.conditionKeywords P)
    (hQ : Clause.Closed q registry.parameterKeywords Q) {tokens : List Token}
    (htokens : Token.AllOver q tokens) {rule : LeafRule}
    (h : LeafRule.ofTokens registry tokens = .ok rule) :
    (∀ c ∈ rule.conditions, P c) ∧
      ∀ a, rule.action = some a → (∀ c ∈ a.params, Q c) ∧ (a.kind = .goto → a.params = []) := by
  obtain ⟨last, hrun, -, rfl⟩ := LeafRule.ofTokens_ok.mp h
  have hlast := Reading.run_induction (P := fun r tokens =>
      Reading.Made registry P Q r ∧ Token.AllOver q tokens) ?_
    ⟨Reading.made_start, LeafRule.dropTerminator_over htokens⟩ hrun
  · exact ⟨hlast.1.conditions, hlast.1.params⟩
  · intro r t tokens r' rest hr hstep
    have hs := Reading.steps_of_step hstep
    have htail : Token.AllOver q tokens := hr.2.of_suffix (List.suffix_cons t tokens)
    exact ⟨hr.1.steps hP hQ htail hs, htail.of_suffix hs.suffix⟩

end FermRules
