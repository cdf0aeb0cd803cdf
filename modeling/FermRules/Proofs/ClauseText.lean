import FermRules.Proofs.Taking

/-! # Written clauses are read back

A legal clause can be written. Its text spells its tokens, and reading them where
the clause is legal takes the clause, settled. Nothing is asked of the tokens
behind it. -/
namespace FermRules

theorem Value.settled_wrap (p : Polarity) (v : Value) (shape : Shape) :
    (p.wrap v).settled shape = p.wrap (v.settled shape) := by
  cases p <;> rfl

namespace Clause

/-- The clause as it is read back. -/
def settled (c : Clause) : Clause :=
  match c.definition with
  | some k => { c with value := c.value.settled k.shape }
  | none => c

/-- The tokens that a clause is written as. -/
def tokens (c : Clause) : List Token :=
  match c.value with
  | .negatedBefore v => .word "!" :: .word c.renderedName :: v.tokens
  | .negatedAfter v => .word c.renderedName :: .word "!" :: v.tokens
  | v => .word c.renderedName :: v.tokens

theorem settled_keyword (c : Clause) : c.settled.keyword = c.keyword := by
  unfold settled
  split <;> rfl

theorem settled_items? (c : Clause) : c.settled.value.items? = c.value.items? := by
  unfold settled
  split
  · exact Value.items?_settled _ _
  · rfl

theorem settled_option (k : Keyword) (p : Polarity) (v : Value) :
    settled ⟨k.name, p.wrap v, some k⟩ = ⟨k.name, p.wrap (v.settled k.shape), some k⟩ := by
  simp only [settled, Value.settled_wrap]

theorem settled_ofModules (names : List String) : (ofModules names).settled = ofModules names := by
  have := Value.settled_list names
  simp only [settled, ofModules, matchKeyword, this]

end Clause

theorem Known.after_settled {registry : Registry} (e : Known) (c : Clause) :
    e.after registry c.settled = e.after registry c :=
  e.after_congr c.settled_keyword c.settled_items?

/-! ## Writing -/

/-- The text begins with a character that is no blank. -/
def Text.Flush (s : String) : Prop := ∃ c cs, s.toList = c :: cs ∧ c ≠ ' '

theorem Text.Flush.append {s : String} (h : Text.Flush s) (t : String) : Text.Flush (s ++ t) := by
  obtain ⟨c, cs, hs, hc⟩ := h
  exact ⟨c, cs ++ t.toList, by rw [String.toList_append, hs, List.cons_append], hc⟩

theorem Text.Flush.joinWords {word : String} (h : Text.Flush word) (words : List String) :
    Text.Flush (FermRules.joinWords (word :: words)) := by
  cases words with
  | nil => exact h
  | cons next rest =>
    rw [FermRules.joinWords]
    exact (h.append _).append _

theorem Token.flush_of_isOptionWord {w : String} (h : Token.isOptionWord w = true) :
    Text.Flush w := by
  obtain ⟨c, cs, hw, _⟩ := head_of_isOptionWord h
  have hc := simple_of_isOptionWord h c (by rw [hw]; exact List.mem_cons_self)
  exact ⟨c, cs, hw, Token.ne_of_isSimpleChar hc (by decide)⟩

theorem Registry.Calls.flush {registry : Registry} {w name : String}
    (h : registry.Calls w name) : Text.Flush w := Token.flush_of_isOptionWord h.word

/-- A word with the marker where the polarity puts it. -/
def Polarity.mark {α : Type} (marker word : α) : Polarity → List α
  | plain => [word]
  | leading => [marker, word]
  | trailing => [word, marker]

theorem Clause.render_option (k : Keyword) (p : Polarity) {v : Value}
    (hv : ∀ w, v ≠ .negatedBefore w ∧ v ≠ .negatedAfter w) :
    Clause.render ⟨k.name, p.wrap v, some k⟩
      = (do return joinWords (p.mark "!" k.renderedName ++ (← v.words))) := by
  cases p with
  | plain =>
    unfold Clause.render
    split
    · rename_i w hw
      exact absurd hw (hv w).1
    · rename_i w hw
      exact absurd hw (hv w).2
    · rfl
  | leading | trailing => rfl

theorem Clause.tokens_option (k : Keyword) (p : Polarity) {v : Value}
    (hv : ∀ w, v ≠ .negatedBefore w ∧ v ≠ .negatedAfter w) :
    Clause.tokens ⟨k.name, p.wrap v, some k⟩
      = p.mark (.word "!") (.word k.renderedName) ++ v.tokens := by
  cases p with
  | plain =>
    unfold Clause.tokens
    split
    · rename_i w hw
      exact absurd hw (hv w).1
    · rename_i w hw
      exact absurd hw (hv w).2
    · rfl
  | leading | trailing => rfl

theorem Spells.exclamation : Spells "!".toList [.word "!"] := by
  refine Spells.word (by decide) ?_
  have : Lexer.Lexes.Inside '!' := by
    unfold Lexer.Lexes.Inside
    decide
  simpa using this

theorem Polarity.flush_mark (p : Polarity) {w : String} (h : Text.Flush w) (words : List String) :
    Text.Flush (joinWords (p.mark "!" w ++ words)) := by
  have hmark : Text.Flush "!" := ⟨'!', [], rfl, by decide⟩
  cases p with
  | plain | trailing => exact h.joinWords _
  | leading => exact hmark.joinWords _

/-- The text of a clause spells its tokens, and it does not change when the
clause is settled. -/
theorem spells_option {k : Keyword} (hk : Spells k.renderedName.toList [.word k.renderedName])
    (hflush : Text.Flush k.renderedName) (p : Polarity) {v : Value}
    (hv : v.Fits Value.noFeed k.shape) : ∃ text,
      Clause.render ⟨k.name, p.wrap v, some k⟩ = .ok text ∧
      Clause.render (Clause.settled ⟨k.name, p.wrap v, some k⟩) = .ok text ∧
      Spells text.toList (Clause.tokens ⟨k.name, p.wrap v, some k⟩) ∧ Text.Flush text := by
  obtain ⟨ws, tss, hwords, hspells, hflat⟩ := Value.spells_words hv
  have hsettled : (v.settled k.shape).words = .ok ws := (Value.words_settled hv).trans hwords
  have hmark : List.Forall₂ (fun w ts => Spells w.toList ts) (p.mark "!" k.renderedName)
      ((p.mark (.word "!") (.word k.renderedName)).map ([·])) := by
    cases p with
    | plain => exact .cons hk .nil
    | leading => exact .cons Spells.exclamation (.cons hk .nil)
    | trailing => exact .cons hk (.cons Spells.exclamation .nil)
  refine ⟨joinWords (p.mark "!" k.renderedName ++ ws), ?_, ?_, ?_, p.flush_mark hflush ws⟩
  · rw [Clause.render_option k p hv.plain, hwords]
    rfl
  · rw [Clause.settled_option, Clause.render_option k p (Value.plain_settled hv.plain), hsettled]
    rfl
  · have := Spells.joinWords (List.rel_append hmark hspells)
    rw [List.flatten_append, ← List.flatMap_def, List.flatMap_singleton', hflat] at this
    rw [Clause.tokens_option k p hv.plain]
    exact this

/-- The clause has a text, which spells its tokens and does not change when the
clause is settled. -/
def Clause.Written (c : Clause) : Prop :=
  ∃ text, c.render = .ok text ∧ c.settled.render = .ok text ∧
    Spells text.toList c.tokens ∧ Text.Flush text

theorem Clause.written_ofModules {names : List String}
    (h : ∀ s ∈ names, Text.Over Value.noFeed s) : (Clause.ofModules names).Written :=
  spells_option (k := matchKeyword) (Token.spells_of_isOptionWord (by decide))
    (Token.flush_of_isOptionWord (by decide)) .plain (.list h)

theorem Clause.Legal.written {registry : Registry} {e : Known} {c : Clause}
    (h : c.Legal registry e) : c.Written := by
  cases h with
  | option _ hleg _ hv => exact spells_option hleg.called.spells hleg.called.flush _ hv
  | modules _ _ _ hover _ => exact Clause.written_ofModules hover

theorem LegalAll.written {registry : Registry} {e : Known} {cs : List Clause}
    (h : LegalAll registry e cs) : ∀ c ∈ cs, c.Written := by
  induction cs generalizing e with
  | nil => exact List.forall_mem_nil _
  | cons c cs ih => exact List.forall_mem_cons.mpr ⟨h.1.written, ih h.2⟩

theorem spells_clauses {cs : List Clause} (h : ∀ c ∈ cs, c.Written) : ∃ texts,
      cs.mapM Clause.render = .ok texts ∧ (cs.map Clause.settled).mapM Clause.render = .ok texts ∧
      List.Forall₂ (fun w ts => Spells w.toList ts) texts (cs.map Clause.tokens) ∧
      ∀ t ∈ texts, Text.Flush t := by
  induction cs with
  | nil => exact ⟨[], rfl, rfl, .nil, nofun⟩
  | cons c cs ih =>
    obtain ⟨⟨text, hrender, hsettled, hspells, hflush⟩, hall⟩ := List.forall_mem_cons.mp h
    obtain ⟨texts, hrenders, hsettleds, hrest, hflushes⟩ := ih hall
    refine ⟨text :: texts, ?_, ?_, .cons hspells hrest,
      List.forall_mem_cons.mpr ⟨hflush, hflushes⟩⟩
    · rw [List.mapM_cons, hrender, hrenders]
      rfl
    · rw [List.map_cons, List.mapM_cons, hsettled, hsettleds]
      rfl

/-! ## Reading -/

namespace Reading

variable {registry : Registry}

theorem run_negation {r : Reading} (hn : r.negated = false) (tokens : List Token) :
    r.run registry (.word "!" :: tokens) = { r with negated := true }.run registry tokens := by
  have hopen : r.opening registry (.word "!") = .ok .negation := rfl
  rw [run_cons, step, hopen, ok_bind]
  simp only [negate, hn]
  rfl

theorem run_option {r : Reading} {w : String} {k : Keyword}
    (hopen : r.opening registry (.word w) = .ok (.option k)) {p : Polarity} {v : Value}
    {tokens rest : List Token} (hp : Polarity.read k r.negated tokens = .ok p)
    (hv : Value.read k (p.skip tokens) = .ok (v, rest)) :
    r.run registry (.word w :: tokens)
      = (({ r with negated := false }.learn registry k p v).push
          ⟨k.name, p.wrap v, some k⟩).run registry rest := by
  rw [run_cons, step, hopen, ok_bind]
  simp only [readOption, hp, ok_bind, hv]
  rfl

theorem read_polarity {k : Keyword} {v : Value} (hv : v.Fits Value.noFeed k.shape)
    (hs : k.shape.readsBack = true) (negated : Bool) (hn : negated = true → k.negation = .before)
    (rest : List Token) :
    Polarity.read k negated (v.tokens ++ rest) = .ok (if negated then .leading else .plain) := by
  have hlead : (negated && decide (k.negation ≠ .before)) = false := by
    cases negated with
    | false => rfl
    | true => simp [hn rfl]
  have hnext :
      (decide (k.shape ≠ .flag) && Polarity.negationFollows (v.tokens ++ rest)) = false := by
    by_cases hflag : k.shape = .flag
    · simp [hflag]
    · obtain ⟨t, more, heq, hneg⟩ := Value.tokens_cons hv hs hflag
      simp [heq, Polarity.negationFollows, hneg]
  rw [Polarity.read, hlead, hnext]
  rfl

theorem run_marked {r : Reading} (hn : r.negated = false) {k : Keyword}
    (hback : k.shape.readsBack = true)
    (hopen : ∀ negated, { r with negated }.opening registry (.word k.renderedName)
      = .ok (.option k)) {p : Polarity} (hp : p.Allowed k) {v : Value}
    (hv : v.Fits Value.noFeed k.shape) (rest : List Token) :
    r.run registry (Clause.tokens ⟨k.name, p.wrap v, some k⟩ ++ rest)
      = ((r.learn registry k p (v.settled k.shape)).push
          ⟨k.name, p.wrap (v.settled k.shape), some k⟩).run registry rest := by
  have hread := Value.read_tokens hv hback rest
  have hplain : { r with negated := false } = r := by rw [← hn]
  have hself : r.opening registry (.word k.renderedName) = .ok (.option k) := hplain ▸ hopen false
  rw [Clause.tokens_option k p hv.plain, List.append_assoc]
  cases p with
  | plain =>
    have hpol : Polarity.read k r.negated (v.tokens ++ rest) = .ok .plain := by
      rw [hn]
      exact read_polarity hv hback false nofun rest
    rw [Polarity.mark, List.singleton_append, run_option hself hpol hread, hplain]
  | leading =>
    have hpol : Polarity.read k { r with negated := true }.negated (v.tokens ++ rest)
        = .ok .leading := read_polarity hv hback true (fun _ => hp) rest
    rw [Polarity.mark, List.cons_append, run_negation hn, List.singleton_append,
      run_option (hopen true) hpol hread, hplain]
  | trailing =>
    obtain ⟨hafter, hflag⟩ := hp
    have hpol : Polarity.read k r.negated (.word "!" :: (v.tokens ++ rest)) = .ok .trailing := by
      have hnext : Polarity.negationFollows (.word "!" :: (v.tokens ++ rest)) = true := rfl
      simp [Polarity.read, hn, hflag, hafter, hnext]
    rw [Polarity.mark, List.cons_append, List.singleton_append,
      run_option hself hpol hread, hplain]

theorem run_modules {r : Reading} (hn : r.negated = false)
    (hopen : r.opening registry (.word "mod") = .ok .modules) {names : List String}
    (hover : ∀ s ∈ names, Text.Over Value.noFeed s) (rest : List Token) :
    r.run registry ((Clause.ofModules names).tokens ++ rest)
      = (r.addModules registry names).run registry rest := by
  have htokens : (Clause.ofModules names).tokens = .word "mod" :: Value.itemTokens names := rfl
  have hread := Value.readList_items matchKeyword.name
    (fun s hs => Value.unbroken_of_over (hover s hs)) rest
  rw [htokens, List.cons_append, run_cons, step, hopen, ok_bind]
  simp only [readModules, hn, hread, ok_bind]
  rfl

theorem kept_of_apart {r : Reading} {names : List String}
    (h : ∀ s ∈ names, s ∉ r.protocols.map registry.moduleForProtocol) :
    r.kept registry names = names :=
  List.filter_eq_self.mpr fun s hs => by simpa using h s hs

theorem push_apart (r : Reading) {e : Known} {c : Clause}
    (h : ∀ last, r.current.getLast? = some last → last.accumulate? c = none) :
    (r.inform e).push c = (r.inform e).withCurrent (r.current ++ [c]) := by
  rw [push_eq, current_inform, pushClause_apart h]

/-- Reading the tokens of a legal clause takes the clause, settled. -/
theorem run_clause (hr : registry.Legible) {r : Reading} (hn : r.negated = false) {c : Clause}
    (hc : c.Legal registry r.known) (rest : List Token) :
    r.run registry (c.tokens ++ rest) = (r.taking registry c.settled).run registry rest := by
  cases hc with
  | @option k p v hs hleg hp hv =>
    have hne : k.name ≠ "match" := fun he => hleg.free (by simp [he, Registry.reserved])
    rw [run_marked hn hleg.readsBack (fun _ => hleg.called.opening_option hs) hp hv, learn_eq r hne,
      push_apart r fun last _ => last.accumulate?_single rfl hleg.single, Clause.settled_option,
      taking]
  | @modules names hmatch hlast hne hover himp =>
    have hapart : ∀ last, r.current.getLast? = some last →
        last.accumulate? (Clause.ofModules names) = none := by
      intro last hl
      have hkey : last.keyword ≠ "match" := by simpa [Reading.known, hl] using hlast
      exact Clause.accumulate?_of_ne hkey
    have hscope : r.scope "match" = none := hmatch
    have hopen : r.opening registry (.word "mod") = .ok .modules := by
      rw [hr.calls_mod.opening_eq, hscope]
      rfl
    rw [run_modules hn hopen hover, addModules_eq, kept_of_apart himp, if_neg hne,
      activate_eq r names (some matchKeyword), Clause.settled_ofModules]
    exact congrArg (Reading.run registry · rest) (push_apart r hapart)

theorem withCurrent_current (r : Reading) : r.withCurrent r.current = r := by
  obtain ⟨scope, conditions, action, negated, protocols⟩ := r
  rcases action with _ | ⟨kind, target, params⟩
  · rfl
  · cases kind <;> rfl

theorem negated_withCurrent (r : Reading) (cs : List Clause) :
    (r.withCurrent cs).negated = r.negated := by
  obtain ⟨scope, conditions, action, negated, protocols⟩ := r
  rcases action with _ | ⟨kind, target, params⟩
  · rfl
  · cases kind <;> rfl

theorem known_taking (r : Reading) (c : Clause) :
    (r.taking registry c).known = r.known.after registry c := by
  have hlast : (r.known.after registry c).last = some c.keyword := Known.after_last _ c
  rw [taking, known_withCurrent, List.getLast?_concat, Option.map_some, ← hlast]
  rfl

theorem inform_taking (r : Reading) (c : Clause) (e : Known) :
    (r.taking registry c).inform e = (r.inform e).withCurrent (r.current ++ [c]) := by
  obtain ⟨scope, conditions, action, negated, protocols⟩ := r
  rcases action with _ | ⟨kind, target, params⟩
  · rfl
  · cases kind <;> rfl

/-- The reading behind several clauses, each taken as it is read back. -/
def takingAll (registry : Registry) (r : Reading) (cs : List Clause) : Reading :=
  (r.inform (r.known.afterAll registry cs)).withCurrent (r.current ++ cs.map Clause.settled)

theorem known_takingAll (r : Reading) (cs : List Clause) :
    (r.takingAll registry cs).known = r.known.afterAll registry cs := by
  have hlast : (r.known.afterAll registry cs).last
      = ((r.current ++ cs.map Clause.settled).getLast?.map Clause.keyword) := by
    rw [Known.afterAll_last, List.getLast?_append, List.getLast?_map, Option.map_or, Option.map_map]
    congr 2
    exact funext fun c => c.settled_keyword.symm
  rw [takingAll, known_withCurrent, ← hlast]
  rfl

/-- Reading the tokens of legal clauses takes them one after the other. -/
theorem run_clauses (hr : registry.Legible) {r : Reading} (hn : r.negated = false)
    {cs : List Clause} (hcs : LegalAll registry r.known cs) (rest : List Token) :
    r.run registry (cs.flatMap Clause.tokens ++ rest)
      = (r.takingAll registry cs).run registry rest := by
  induction cs generalizing r with
  | nil =>
    have hself : r.takingAll registry [] = r := by
      rw [takingAll, List.map_nil, List.append_nil]
      exact withCurrent_current r
    rw [hself]
    rfl
  | cons c cs ih =>
    have hknown : (r.taking registry c.settled).known = r.known.after registry c :=
      (known_taking r _).trans (r.known.after_settled c)
    have hnext : (r.taking registry c.settled).negated = false :=
      (negated_withCurrent _ _).trans hn
    have hcurrent : (r.taking registry c.settled).current = r.current ++ [c.settled] :=
      current_withCurrent _ _
    have hall : (r.taking registry c.settled).takingAll registry cs
        = r.takingAll registry (c :: cs) := by
      rw [takingAll, inform_taking, withCurrent_withCurrent, hcurrent, hknown, List.append_assoc]
      rfl
    rw [List.flatMap_cons, List.append_assoc, run_clause hr hn hcs.1, ih hnext (hknown ▸ hcs.2),
      hall]

end Reading

end FermRules
