import FermRules.Proofs.Arrays
import FermRules.Proofs.ValueFits

/-! # Written values are read back

A plain value is written as words whose tokens are read again as the same
value, whatever stands behind them. Only an array of one item that stands for a
scalar comes back as that scalar, for it is written without parentheses. Words
of a fixed number are not read back if they are more than one: they are written
as an array, which is not how they are read. -/
namespace FermRules

/-- Values of this shape are read back from what they are written as. -/
def Shape.readsBack : Shape → Bool
  | .fixed count => count = 1
  | .composite fields => !fields.isEmpty
  | _ => true

namespace Token

theorem written_cases (text : String) :
    (isSimple text = true ∧ written text = .word text) ∨ written text = .literal text := by
  unfold written
  split
  · rename_i hs
    exact .inl ⟨hs, rfl⟩
  · exact .inr rfl

theorem written_text (text : String) : (written text).text = text := by
  rcases written_cases text with ⟨_, h⟩ | h
  all_goals rw [h]; rfl

theorem head_written {text : String} (hl : Text.Unbroken text) {c : Char}
    (hc : isSimpleChar c = false) : (written text).startsWith c = false := by
  rcases written_cases text with ⟨hs, h⟩ | h
  · have hhead : text.toList.head? ≠ some c := by
      intro hhead
      have := (simple_of_isSimple hl hs).2 c (List.mem_of_head? hhead)
      rw [hc] at this
      cases this
    simp [h, startsWith, word, hhead]
  · rw [h]
    rfl

theorem isNegation_written {text : String} (hl : Text.Unbroken text) :
    (written text).isNegation = false := by
  rcases written_cases text with ⟨hs, h⟩ | h
  · have hne : text ≠ "!" := by
      rintro rfl
      have := (simple_of_isSimple hl hs).2 '!' (by decide)
      revert this
      decide
    simp [h, isNegation, word, hne]
  · rw [h]
    rfl

end Token

namespace Value

/-- No character of the text is a line feed. -/
abbrev noFeed (c : Char) : Prop := c ≠ '\n'

theorem unbroken_of_over {s : String} (h : Text.Over noFeed s) : Text.Unbroken s :=
  fun hm => h '\n' hm rfl

def itemTokens : List String → List Token
  | [text] => [Token.written text]
  | items => arrayTokens "(" items

def partTokens : Value → List Token
  | scalar text => [Token.written text]
  | list items => itemTokens items
  | _ => []

/-- The tokens that a plain value is written as. -/
def tokens : Value → List Token
  | composite parts => parts.flatMap partTokens
  | value => value.partTokens

@[simp] theorem tokens_scalar (text : String) : (scalar text).tokens = [Token.written text] := rfl

@[simp] theorem tokens_list (items : List String) : (list items).tokens = itemTokens items := rfl

/-- An array of one item is a scalar where a scalar is read. -/
def settled (shape : Shape) : Value → Value
  | list [text] => if shape = .scalar then scalar text else list [text]
  | negatedBefore value => negatedBefore (value.settled shape)
  | negatedAfter value => negatedAfter (value.settled shape)
  | value => value

/-! ## Writing -/

theorem spells_items {items : List String} (hl : ∀ s ∈ items, Text.Unbroken s) :
    Spells (renderItems items).toList (itemTokens items) := by
  cases items with
  | nil => exact spells_array hl
  | cons text items =>
    cases items with
    | nil => exact Spells.write (hl text List.mem_cons_self)
    | cons next items => exact spells_array hl

theorem spells_part {field : FieldShape} {part : Value} (h : FitsField noFeed field part) :
    ∃ text, part.render = .ok text ∧ Spells text.toList part.partTokens := by
  cases h with
  | scalar ht => exact ⟨_, rfl, Spells.write (unbroken_of_over ht)⟩
  | list hi => exact ⟨_, rfl, spells_items fun s hs => unbroken_of_over (hi s hs)⟩

theorem spells_parts {fields : List FieldShape} {parts : List Value}
    (h : List.Forall₂ (FitsField noFeed) fields parts) :
    ∃ texts, renderParts parts = .ok texts ∧
      List.Forall₂ (fun w ts => Spells w.toList ts) texts (parts.map partTokens) := by
  induction h with
  | nil => exact ⟨[], rfl, .nil⟩
  | cons hp _ ih =>
    obtain ⟨text, hr, hs⟩ := spells_part hp
    obtain ⟨texts, hrs, hss⟩ := ih
    refine ⟨text :: texts, ?_, .cons hs hss⟩
    rw [renderParts, hr, hrs]
    rfl

/-- The words of a value, each with its tokens. -/
theorem spells_words {shape : Shape} {v : Value} (h : v.Fits noFeed shape) :
    ∃ ws tss, v.words = .ok ws ∧ List.Forall₂ (fun w ts => Spells w.toList ts) ws tss ∧
      tss.flatten = v.tokens := by
  cases h with
  | flag => exact ⟨[], [], rfl, .nil, rfl⟩
  | literal ht | scalar ht =>
    exact ⟨[_], [_], rfl, .cons (Spells.write (unbroken_of_over ht)) .nil, by simp⟩
  | array hi | list hi =>
    exact ⟨[_], [_], rfl, .cons (spells_items fun s hs => unbroken_of_over (hi s hs)) .nil,
      by simp⟩
  | @fixed items hi =>
    have hl : ∀ s ∈ items, Text.Unbroken s := fun s hs => unbroken_of_over (hi s hs)
    unfold ofFixed
    split
    · exact ⟨[_], [_], rfl, .cons (Spells.write (hl _ List.mem_cons_self)) .nil,
        by simp⟩
    · exact ⟨[_], [_], rfl, .cons (spells_items hl) .nil, by simp⟩
  | @composite fields parts hp =>
    obtain ⟨texts, hr, hs⟩ := spells_parts hp
    refine ⟨[joinWords texts], [(parts.map partTokens).flatten], ?_,
      .cons (Spells.joinWords hs) .nil, ?_⟩
    · simp only [words, render, hr]
      rfl
    · simp [tokens, List.flatMap]

/-! ## Reading -/

theorem readWord_cons (option : String) (t : Token) (rest : List Token) :
    readWord option (t :: rest) = .ok (t, rest) := rfl

theorem opensArray_written {text : String} (hl : Text.Unbroken text) :
    opensArray (Token.written text) = false := Token.head_written hl (by decide)

theorem readList_written (option : String) {text : String} (hl : Text.Unbroken text)
    (rest : List Token) :
    readList option (Token.written text :: rest) = .ok ([text], rest) := by
  rw [readList, readWord_cons, ok_bind]
  dsimp only
  rw [if_neg (by rw [opensArray_written hl]; simp)]
  rcases Token.written_cases text with ⟨hs, h⟩ | h
  · have hcomma : ∀ c ∈ text.toList, (c == ',') = false := by
      intro c hc
      have hsimple := (Token.simple_of_isSimple hl hs).2 c hc
      simpa using Token.ne_of_isSimpleChar hsimple (d := ',') (by decide)
    rw [h, if_neg (by simp [Token.word])]
    simp only [Token.word, List.splitOn_eq_splitOnP, List.splitOnP_eq_singleton hcomma,
      List.map_cons, List.map_nil, String.ofList_toList]
    rfl
  · rw [h, if_pos (by rfl)]
    rfl

theorem readList_items (option : String) {items : List String}
    (hl : ∀ s ∈ items, Text.Unbroken s) (rest : List Token) :
    readList option (itemTokens items ++ rest) = .ok (items, rest) := by
  unfold itemTokens
  split
  · exact readList_written option (hl _ List.mem_cons_self) rest
  · obtain ⟨t, more, heq, hopen, hread⟩ := readArray_arrayTokens option hl rest
    rw [heq, List.cons_append, readList, readWord_cons, ok_bind]
    dsimp only
    rw [if_pos hopen, hread]

theorem readField_part (option : String) {field : FieldShape} {part : Value}
    (h : FitsField noFeed field part) (rest : List Token) :
    readField option (part.partTokens ++ rest) field = .ok (part, rest) := by
  cases h with
  | scalar ht =>
    rw [partTokens, List.singleton_append, readField, readWord_cons, ok_bind]
    dsimp only
    rw [Token.written_text]
    rfl
  | list hi =>
    rw [partTokens, readField, readList_items option (fun s hs => unbroken_of_over (hi s hs)),
      ok_bind]
    rfl

theorem readFields_parts (option : String) {fields : List FieldShape} {parts : List Value}
    (h : List.Forall₂ (FitsField noFeed) fields parts) (rest : List Token) :
    readFields option (parts.flatMap partTokens ++ rest) fields = .ok (parts, rest) := by
  induction h with
  | nil => rfl
  | cons hp _ ih =>
    rw [List.flatMap_cons, List.append_assoc, readFields, readField_part option hp, ok_bind]
    dsimp only
    rw [ih, ok_bind]
    rfl

theorem settled_array {items : List String} (hne : ∀ text, items ≠ [text]) (shape : Shape) :
    (list items).settled shape = list items := by
  unfold settled
  split
  · rename_i text heq
    cases heq
    exact absurd rfl (hne text)
  all_goals first | rfl | contradiction

/-- An array that stands for a scalar is read as an array unless it has one item. -/
theorem read_scalar_items {k : Keyword} (hshape : k.shape = .scalar) {items : List String}
    (hl : ∀ s ∈ items, Text.Unbroken s) (rest : List Token) :
    read k (itemTokens items ++ rest) = .ok ((list items).settled .scalar, rest) := by
  unfold read itemTokens
  rw [hshape]
  dsimp only
  split
  · rw [List.singleton_append, readWord_cons, ok_bind]
    dsimp only
    rw [if_neg (by rw [opensArray_written (hl _ List.mem_cons_self)]; simp), Token.written_text,
      settled, if_pos rfl]
    rfl
  · rename_i hne
    obtain ⟨t, more, heq, hopen, hread⟩ := readArray_arrayTokens k.name hl rest
    rw [heq, List.cons_append, readWord_cons, ok_bind, settled_array hne]
    dsimp only
    rw [if_pos hopen, hread, ok_bind]
    rfl

theorem settled_list (items : List String) : (list items).settled .list = list items := by
  unfold settled
  split
  · rename_i heq
    cases heq
    rfl
  all_goals first | rfl | contradiction

/-- Reading the tokens of a value gives the value and stops behind them. -/
theorem read_tokens {k : Keyword} {v : Value} (h : v.Fits noFeed k.shape)
    (hk : k.shape.readsBack = true) (rest : List Token) :
    read k (v.tokens ++ rest) = .ok (v.settled k.shape, rest) := by
  generalize hshape : k.shape = shape at h hk
  cases h with
  | flag => simp only [read, hshape, tokens, partTokens, settled, List.nil_append]
  | literal ht =>
    rw [read, hshape]
    dsimp only
    rw [tokens_scalar, List.singleton_append, readWord_cons, ok_bind]
    dsimp only
    rw [Token.written_text]
    rfl
  | @scalar text ht =>
    have hl : ∀ s ∈ [text], Text.Unbroken s := by simpa using unbroken_of_over ht
    exact read_scalar_items hshape hl rest
  | array hi =>
    exact read_scalar_items hshape (fun s hs => unbroken_of_over (hi s hs)) rest
  | list hi =>
    rw [read, hshape]
    dsimp only
    rw [tokens_list, readList_items k.name (fun s hs => unbroken_of_over (hi s hs)), ok_bind,
      settled_list]
    rfl
  | @fixed items hi =>
    have hlen : items.length = 1 := by simpa [Shape.readsBack] using hk
    obtain ⟨text, rfl⟩ := List.length_eq_one_iff.mp hlen
    rw [read, hshape]
    simp only [ofFixed, tokens_scalar, readFixed, List.singleton_append, List.length_cons,
      List.length_nil, Nat.zero_add, Nat.le_add_left, if_true, ok_bind]
    rw [List.take_one, List.head?_cons, Option.toList_some, List.map_cons, Token.written_text]
    rfl
  | @composite fields parts hp =>
    rw [read, hshape]
    dsimp only
    rw [tokens, readFields_parts k.name hp, ok_bind]
    rfl

/-! ## What stands in front -/

theorem isNegation_opensArray {t : Token} (h : opensArray t = true) : t.isNegation = false := by
  have hne : t.text ≠ "!" := by
    intro he
    simp [opensArray, Token.startsWith, he] at h
  simp [Token.isNegation, hne]

theorem itemTokens_cons {items : List String} (hl : ∀ s ∈ items, Text.Unbroken s) :
    ∃ t more, itemTokens items = t :: more ∧ t.isNegation = false := by
  unfold itemTokens
  split
  · exact ⟨_, [], rfl, Token.isNegation_written (hl _ List.mem_cons_self)⟩
  · obtain ⟨t, more, heq, hopen, _⟩ := readArray_arrayTokens "" hl []
    exact ⟨t, more, heq, isNegation_opensArray hopen⟩

theorem partTokens_cons {field : FieldShape} {part : Value} (h : FitsField noFeed field part) :
    ∃ t more, part.partTokens = t :: more ∧ t.isNegation = false := by
  cases h with
  | scalar ht => exact ⟨_, [], rfl, Token.isNegation_written (unbroken_of_over ht)⟩
  | list hi => exact itemTokens_cons fun s hs => unbroken_of_over (hi s hs)

/-- A written value does not begin with a negation. -/
theorem tokens_cons {shape : Shape} {v : Value} (h : v.Fits noFeed shape)
    (hs : shape.readsBack = true) (hflag : shape ≠ .flag) :
    ∃ t more, v.tokens = t :: more ∧ t.isNegation = false := by
  cases h with
  | flag => exact absurd rfl hflag
  | literal ht | scalar ht =>
    exact ⟨_, [], rfl, Token.isNegation_written (unbroken_of_over ht)⟩
  | array hi | list hi => exact itemTokens_cons fun s hs => unbroken_of_over (hi s hs)
  | @fixed items hi =>
    have hlen : items.length = 1 := by simpa [Shape.readsBack] using hs
    obtain ⟨text, rfl⟩ := List.length_eq_one_iff.mp hlen
    exact ⟨_, [], rfl, Token.isNegation_written (unbroken_of_over (hi _ List.mem_cons_self))⟩
  | composite hp =>
    cases hp with
    | nil => cases hs
    | cons hpart _ =>
      obtain ⟨t, more, heq, hneg⟩ := partTokens_cons hpart
      exact ⟨t, _, by rw [tokens, List.flatMap_cons, heq, List.cons_append], hneg⟩

/-! ## Settled values -/

theorem items?_settled (shape : Shape) (v : Value) : (v.settled shape).items? = v.items? := by
  unfold settled
  split
  · split <;> rfl
  all_goals rfl

theorem plain_settled {shape : Shape} {v : Value}
    (h : ∀ w, v ≠ negatedBefore w ∧ v ≠ negatedAfter w) (w : Value) :
    v.settled shape ≠ negatedBefore w ∧ v.settled shape ≠ negatedAfter w := by
  unfold settled
  split
  · split <;> exact ⟨nofun, nofun⟩
  · exact absurd rfl (h _).1
  · exact absurd rfl (h _).2
  · exact h w

theorem words_settled {shape : Shape} {v : Value} {q : Char → Prop} (h : v.Fits q shape) :
    (v.settled shape).words = v.words := by
  have hplain := h.plain
  unfold settled
  split
  · split <;> rfl
  · exact absurd rfl (hplain _).1
  · exact absurd rfl (hplain _).2
  · rfl

end Value

end FermRules
