import FermRules.Proofs.Legible
import FermRules.Proofs.Origin

/-! # Reading on behind what has been read

A reader that succeeds has seen all the tokens it asked for, so more tokens
behind them only stand behind what it leaves. One place asks for a token without
taking it: a keyword looks whether `!` follows. It still takes a token for its
value then, and so it has looked at a token that was there. Keywords without a
value do not look, and values that are read back take at least one token. -/
namespace FermRules

namespace Shape

/-- Where there is a value, it takes a token at least. -/
def TakesToken (shape : Shape) : Prop := shape ≠ .flag → 0 < shape.arity

theorem takesToken_of_readsBack {shape : Shape} (h : shape.readsBack = true) :
    shape.TakesToken := by
  intro hshape
  cases shape with
  | flag => exact absurd rfl hshape
  | scalar | literal | list => exact Nat.one_pos
  | fixed count =>
    obtain rfl : count = 1 := by simpa [Shape.readsBack] using h
    exact Nat.one_pos
  | composite fields =>
    cases fields with
    | nil => cases h
    | cons field fields => exact Nat.succ_pos _

end Shape

namespace Value

variable {option : String} {tokens rest : List Token}

theorem readItems_append {text : List Char} {quoted : Bool} {items : List String}
    (h : readItems option text quoted tokens = .ok (items, rest)) (more : List Token) :
    readItems option text quoted (tokens ++ more) = .ok (items, rest ++ more) := by
  induction tokens generalizing text quoted items with
  | nil =>
    unfold readItems at h ⊢
    split at h
    · rename_i hclosed
      cases h
      rw [if_pos hclosed]
    · cases h
  | cons t tokens ih =>
    rw [List.cons_append]
    unfold readItems at h ⊢
    split at h
    · rename_i hclosed
      cases h
      rw [if_pos hclosed]
      rfl
    · rename_i hopen
      obtain ⟨⟨others, behind⟩, hothers, hret⟩ := bind_ok h
      cases hret
      rw [if_neg hopen]
      dsimp only
      rw [ih hothers, ok_bind]
      rfl

theorem readArray_append {first : Token} {items : List String}
    (h : readArray option first tokens = .ok (items, rest)) (more : List Token) :
    readArray option first (tokens ++ more) = .ok (items, rest ++ more) :=
  readItems_append h more

theorem readWord_append {t : Token} (h : readWord option tokens = .ok (t, rest))
    (more : List Token) : readWord option (tokens ++ more) = .ok (t, rest ++ more) := by
  rw [readWord_ok h]
  rfl

theorem readList_append {items : List String} (h : readList option tokens = .ok (items, rest))
    (more : List Token) : readList option (tokens ++ more) = .ok (items, rest ++ more) := by
  obtain ⟨⟨t, behind⟩, hw, hret⟩ := bind_ok h
  rw [readList, readWord_append hw more, ok_bind]
  dsimp only at hret ⊢
  split at hret
  · rename_i hopens
    rw [if_pos hopens]
    exact readArray_append hret more
  · rename_i hopens
    rw [if_neg hopens]
    split at hret
    · rename_i hquoted
      cases hret
      rw [if_pos hquoted]
      rfl
    · rename_i hquoted
      cases hret
      rw [if_neg hquoted]
      rfl

theorem readFixed_append {count : Nat} {items : List String}
    (h : readFixed option count tokens = .ok (items, rest)) (more : List Token) :
    readFixed option count (tokens ++ more) = .ok (items, rest ++ more) := by
  unfold readFixed at h ⊢
  split at h
  · rename_i hle
    have hmore : count ≤ (tokens ++ more).length := by
      rw [List.length_append]
      omega
    cases h
    rw [if_pos hmore, List.take_append_of_le_length hle, List.drop_append_of_le_length hle]
  · cases h

theorem readField_append {field : FieldShape} {part : Value}
    (h : readField option tokens field = .ok (part, rest)) (more : List Token) :
    readField option (tokens ++ more) field = .ok (part, rest ++ more) := by
  cases field with
  | scalar =>
    obtain ⟨⟨t, behind⟩, hw, hret⟩ := bind_ok h
    cases hret
    rw [readField, readWord_append hw more, ok_bind]
    rfl
  | list =>
    obtain ⟨⟨items, behind⟩, hl, hret⟩ := bind_ok h
    cases hret
    rw [readField, readList_append hl more, ok_bind]
    rfl

theorem readFields_append {fields : List FieldShape} {parts : List Value}
    (h : readFields option tokens fields = .ok (parts, rest)) (more : List Token) :
    readFields option (tokens ++ more) fields = .ok (parts, rest ++ more) := by
  induction fields generalizing tokens parts with
  | nil =>
    cases h
    rfl
  | cons field fields ih =>
    obtain ⟨⟨part, behind⟩, hf, hret⟩ := bind_ok h
    obtain ⟨⟨others, last⟩, hfs, hret⟩ := bind_ok hret
    cases hret
    rw [readFields, readField_append hf more, ok_bind]
    dsimp only
    rw [ih hfs, ok_bind]
    rfl

theorem read_append {k : Keyword} {v : Value} (h : read k tokens = .ok (v, rest))
    (more : List Token) : read k (tokens ++ more) = .ok (v, rest ++ more) := by
  unfold read at h ⊢
  split at h
  · cases h
    rfl
  · obtain ⟨⟨t, behind⟩, hw, hret⟩ := bind_ok h
    cases hret
    rw [readWord_append hw more]
    rfl
  · obtain ⟨⟨t, behind⟩, hw, hret⟩ := bind_ok h
    dsimp only
    rw [readWord_append hw more, ok_bind]
    dsimp only at hret ⊢
    split at hret
    · rename_i hopens
      obtain ⟨⟨items, last⟩, ha, hret⟩ := bind_ok hret
      cases hret
      rw [if_pos hopens, readArray_append ha more]
      rfl
    · rename_i hopens
      cases hret
      rw [if_neg hopens]
      rfl
  · obtain ⟨⟨items, behind⟩, hl, hret⟩ := bind_ok h
    cases hret
    dsimp only
    rw [readList_append hl more]
    rfl
  · obtain ⟨⟨items, behind⟩, hf, hret⟩ := bind_ok h
    cases hret
    dsimp only
    rw [readFixed_append hf more]
    rfl
  · obtain ⟨⟨parts, behind⟩, hfs, hret⟩ := bind_ok h
    cases hret
    dsimp only
    rw [readFields_append hfs more]
    rfl

/-- A value takes a token. -/
theorem read_nil {k : Keyword} (hshape : k.shape ≠ .flag) (htakes : k.shape.TakesToken) :
    ∃ f, read k [] = .error f := by
  have harity := htakes hshape
  unfold read
  cases hk : k.shape with
  | flag => exact absurd hk hshape
  | literal | scalar | list => exact ⟨_, rfl⟩
  | fixed count =>
    rw [hk] at harity
    have hmissing : readFixed k.name count [] = .error (.missingParameter k.name) :=
      if_neg (Nat.not_le.mpr harity)
    refine ⟨.missingParameter k.name, ?_⟩
    dsimp only
    rw [hmissing]
    rfl
  | composite fields =>
    cases fields with
    | nil =>
      rw [hk] at harity
      cases harity
    | cons field fields => cases field <;> exact ⟨_, rfl⟩

end Value

namespace Reading

/-- A marker that has been looked for, and the value behind it. -/
theorem polarity_append {k : Keyword} (htakes : k.shape.TakesToken) {negated : Bool}
    {tokens rest : List Token} {p : Polarity} {v : Value}
    (hp : Polarity.read k negated tokens = .ok p)
    (hv : Value.read k (p.skip tokens) = .ok (v, rest)) (more : List Token) :
    Polarity.read k negated (tokens ++ more) = .ok p ∧
      Value.read k (p.skip (tokens ++ more)) = .ok (v, rest ++ more) := by
  cases tokens with
  | cons t tokens =>
    have hskip : p.skip (t :: tokens ++ more) = p.skip (t :: tokens) ++ more := by
      cases p <;> rfl
    rw [hskip]
    exact ⟨hp, Value.read_append hv more⟩
  | nil =>
    by_cases hshape : k.shape = .flag
    · -- a flag does not look at what follows, and takes none of it
      have hread : ∀ us, Polarity.read k negated us = Polarity.read k negated [] := by
        intro us
        simp [Polarity.read, hshape]
      have hne : p ≠ .trailing := by
        rintro rfl
        exact (Polarity.allowed_of_read hp).2 hshape
      rw [Polarity.skip_of_ne hne] at hv
      rw [hread, Polarity.skip_of_ne hne]
      exact ⟨hp, Value.read_append hv more⟩
    · have hskip : p.skip [] = [] := by cases p <;> rfl
      obtain ⟨f, hf⟩ := Value.read_nil hshape htakes
      rw [hskip, hf] at hv
      cases hv

variable {registry : Registry}

theorem step_append {r r' : Reading} (htakes : ∀ name k, r.scope name = some k →
      k.shape.TakesToken) {t : Token} {tokens rest : List Token}
    (h : r.step registry t tokens = .ok (r', rest)) (more : List Token) :
    r.step registry t (tokens ++ more) = .ok (r', rest ++ more) := by
  unfold step at h ⊢
  obtain ⟨o, ho, h⟩ := bind_ok h
  have hopens := opens_of_opening ho
  rw [ho, ok_bind]
  cases o with
  | negation =>
    obtain ⟨s, hs, h⟩ := bind_ok h
    cases h
    dsimp only
    rw [hs]
    rfl
  | option k =>
    dsimp only [readOption] at h ⊢
    obtain ⟨p, hp, h⟩ := bind_ok h
    obtain ⟨⟨v, behind⟩, hv, h⟩ := bind_ok h
    cases h
    obtain ⟨hp, hv⟩ := polarity_append (htakes _ k hopens) hp hv more
    rw [hp, ok_bind, hv]
    rfl
  | modules =>
    dsimp only [readModules] at h ⊢
    split at h
    · cases h
    · rename_i hn
      obtain ⟨⟨names, behind⟩, hl, h⟩ := bind_ok h
      cases h
      rw [if_neg hn, Value.readList_append hl more]
      rfl
  | action kind =>
    obtain ⟨⟨u, behind⟩, hw, h⟩ := bind_ok h
    obtain ⟨s, hs, h⟩ := bind_ok h
    cases h
    dsimp only
    rw [Value.readWord_append hw more, ok_bind]
    dsimp only at hs ⊢
    rw [hs]
    rfl
  | target name =>
    obtain ⟨s, hs, h⟩ := bind_ok h
    cases h
    dsimp only
    rw [hs]
    rfl
  | nothing =>
    cases h
    rfl

/-! ## Whole readings -/

theorem table_subset_keywords (registry : Registry) (r : Reading) :
    r.table registry ⊆ registry.keywords := by
  unfold table
  split
  · exact registry.parameter_subset_keywords
  · exact registry.condition_subset_keywords

/-- The keywords in scope come from the tables, whatever the clauses are. -/
def Sound (registry : Registry) (r : Reading) : Prop :=
  Made registry (fun _ => True) (fun _ => True) r

theorem sound_start : (start registry).Sound registry := made_start

theorem Sound.keyword {r : Reading} (h : r.Sound registry) {name : String} {k : Keyword}
    (hk : r.scope name = some k) : k.name = name ∧ k ∈ registry.keywords := by
  obtain ⟨hname, hmem⟩ := h.scope name k hk
  exact ⟨hname, table_subset_keywords registry r hmem⟩

theorem Sound.steps {r r' : Reading} {t : Token} {tokens rest : List Token}
    (h : r.Sound registry) (hs : Steps registry r t tokens r' rest) : r'.Sound registry := by
  have hclosed : ∀ keywords, Clause.Closed (fun _ => True) keywords (fun _ => True) := fun _ =>
    ⟨fun _ _ _ _ _ _ => trivial, fun _ _ _ => trivial, fun _ _ _ _ _ _ => trivial⟩
  exact Made.steps h (hclosed _) (hclosed _) (fun _ _ _ _ => trivial) hs

theorem Sound.run {r last : Reading} (h : r.Sound registry) {tokens : List Token}
    (hrun : r.run registry tokens = .ok last) : last.Sound registry :=
  run_induction (P := fun r _ => r.Sound registry)
    (fun _ _ _ _ _ hr hs => hr.steps (steps_of_step hs)) h hrun

/-- What has been read of the tokens in front is where reading on begins, if every value takes
a token. -/
theorem run_onward (htakes : ∀ k ∈ registry.keywords, k.shape.TakesToken) {r last : Reading}
    (hsound : r.Sound registry) {tokens : List Token} (h : r.run registry tokens = .ok last)
    (more : List Token) : r.run registry (tokens ++ more) = last.run registry more := by
  fun_induction run registry r tokens with
  | case1 r =>
    cases h
    rfl
  | case2 r t rest f hs => cases h
  | case3 r t rest r' rest' hs ih =>
    have hscope : ∀ name k, r.scope name = some k → k.shape.TakesToken := fun name k hk =>
      htakes k (hsound.keyword hk).2
    rw [List.cons_append, run_cons, step_append hscope hs more, ok_bind]
    exact ih (hsound.steps (steps_of_step hs)) h

theorem run_append (hr : registry.Legible) {r last : Reading} (hsound : r.Sound registry)
    {tokens : List Token} (h : r.run registry tokens = .ok last) (more : List Token) :
    r.run registry (tokens ++ more) = last.run registry more :=
  run_onward (fun k hk => Shape.takesToken_of_readsBack (hr.keyword k hk).readsBack) hsound h more

end Reading

theorem LeafRule.dropTerminator_append {front : List Token} {more : List Token}
    (h : more = [] → ∀ t, front.getLast? = some t → t.endsWith ';' = false) :
    dropTerminator (front ++ more) = front ++ dropTerminator more := by
  induction front with
  | nil => rfl
  | cons t front ih =>
    cases front with
    | nil =>
      cases more with
      | nil => simp [dropTerminator, h rfl t rfl]
      | cons u more => rfl
    | cons second front =>
      have hback : more = [] → ∀ u, (second :: front).getLast? = some u →
          u.endsWith ';' = false := by
        intro hm u hu
        exact h hm u (by rwa [List.getLast?_cons_cons])
      have htail := ih hback
      rw [List.cons_append] at htail
      rw [List.cons_append, List.cons_append, dropTerminator, htail]
      rfl

theorem LeafRule.dropTerminator_of_last {tokens : List Token}
    (h : ∀ t, tokens.getLast? = some t → t.endsWith ';' = false) :
    dropTerminator tokens = tokens := by
  have hnil : dropTerminator (tokens ++ []) = tokens ++ dropTerminator [] :=
    dropTerminator_append fun _ => h
  rwa [List.append_nil, dropTerminator, List.append_nil] at hnil

end FermRules
