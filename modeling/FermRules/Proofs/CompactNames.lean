import FermRules.Keyword.Compact
import FermRules.Proofs.ClauseText
import Mathlib.Data.List.TakeWhile

/-! # What a spelling can build

The names in a spelling are taken as long as their characters last, and a spelling
is refused if nothing was taken. A fixed number of words is one at least, and a
composite has two fields or more. Name characters are neither blanks nor quotes, so
the name under which a keyword is written is a single word, and no marker. -/
namespace FermRules

/-! ## Name characters -/

theorem Text.Ranges.mem_points {ranges : Ranges} {n : Nat} (h : ranges.contains n = true) :
    n ∈ ranges.flatMap fun range => List.range' range.1 (range.2 + 1 - range.1) := by
  obtain ⟨range, hmem, hfirst, hlast⟩ := Ranges.mem_of_contains h
  refine List.mem_flatMap.mpr ⟨range, hmem, List.mem_range'_1.mpr ⟨hfirst, ?_⟩⟩
  omega

/-- No blank is a character of a word. -/
theorem Text.isWordChar_of_isBlank {c : Char} (h : Text.isBlank c = true) :
    Text.isWordChar c = false := by
  have hnone : ∀ n ∈ Text.blankRanges.flatMap fun range =>
      List.range' range.1 (range.2 + 1 - range.1), Text.wordRanges.contains n = false := by
    decide +kernel
  exact hnone _ (Ranges.mem_points h)

namespace Keyword

theorem inside_of_isNameChar {c : Char} (h : isNameChar c = true) : Lexer.Lexes.Inside c := by
  constructor
  · by_contra hblank
    rw [Bool.not_eq_false] at hblank
    have hdash : c ≠ '-' := by
      rintro rfl
      revert hblank
      decide
    simp [isNameChar, Text.isWordChar_of_isBlank hblank, hdash] at h
  · have hquotes : ∀ d, (d = '"' ∨ d = '\'') → c ≠ d := by
      rintro d hd rfl
      rcases hd with rfl | rfl
      · revert h
        decide
      · revert h
        decide
    simp [Lexer.quote?, hquotes '"' (.inl rfl), hquotes '\'' (.inr rfl)]

/-- A name that a spelling can give. -/
structure Nameable (name : String) : Prop where
  ne : name ≠ ""
  chars : ∀ c ∈ name.toList, isNameChar c = true

theorem nameable_ofList {cs : List Char} (hne : cs ≠ []) (h : ∀ c ∈ cs, isNameChar c = true) :
    Nameable (String.ofList cs) := by
  constructor
  · intro hempty
    rw [← String.toList_inj, String.toList_ofList] at hempty
    exact hne hempty
  · rwa [String.toList_ofList]

namespace Nameable

variable {name : String} (h : Nameable name)

include h

theorem spells : Spells name.toList [.word name] :=
  Spells.word h.ne fun c hc => inside_of_isNameChar (h.chars c hc)

theorem flush : Text.Flush name := by
  cases hname : name.toList with
  | nil => exact absurd (String.toList_inj.mp hname) h.ne
  | cons c cs =>
    refine ⟨c, cs, hname, ?_⟩
    rintro rfl
    have hblank := (inside_of_isNameChar (h.chars ' ' (hname ▸ List.mem_cons_self))).1
    revert hblank
    decide

theorem isNegation : (Token.word name).isNegation = false := by
  have hne : name ≠ "!" := by
    rintro rfl
    have hmark := h.chars '!' (by decide)
    revert hmark
    decide
  simp [Token.isNegation, Token.word, hne]

end Nameable

/-! ## Spellings -/

theorem takeMarked_some {mark : Char} {inWord : Char → Bool} {cs word rest : List Char}
    (h : takeMarked mark inWord cs = (some word, rest)) :
    word ≠ [] ∧ ∀ c ∈ word, inWord c = true := by
  unfold takeMarked at h
  split at h
  · cases h
  · dsimp only at h
    split at h
    · cases h
    · rename_i hne
      cases h
      exact ⟨by simpa using hne, fun c hc => List.mem_takeWhile_imp hc⟩

theorem spelling?_names {text : List Char} {s : Spelling} (h : spelling? text = some s) :
    Nameable (String.ofList s.name) ∧
      ∀ output, s.output = some output → Nameable (String.ofList output) := by
  unfold spelling? at h
  dsimp only at h
  split at h
  · cases h
  · rename_i hparts
    cases h
    simp only [Bool.or_eq_true, not_or] at hparts
    refine ⟨nameable_ofList (by simpa using hparts.1.1) fun c hc => List.mem_takeWhile_imp hc, ?_⟩
    intro output houtput
    obtain ⟨hne, hchars⟩ := takeMarked_some (Prod.ext houtput rfl)
    exact nameable_ofList hne hchars

end Keyword

/-- Shapes that have a code, or need none. -/
def Shape.Coded : Shape → Prop
  | .fixed count => 0 < count
  | .composite fields => 1 < fields.length
  | .flag | .scalar | .literal | .list => True

theorem FieldShape.length_ofCodes {cs : List Char} {fields : List FieldShape}
    (h : cs.mapM ofCode? = some fields) : fields.length = cs.length := by
  induction cs generalizing fields with
  | nil =>
    cases h
    rfl
  | cons c cs ih =>
    rw [List.mapM_cons] at h
    obtain ⟨field, -, h⟩ := Option.bind_eq_some_iff.mp h
    obtain ⟨rest, hrest, h⟩ := Option.bind_eq_some_iff.mp h
    cases h
    rw [List.length_cons, List.length_cons, ih hrest]

namespace Shape

theorem coded_ofLetters? {cs : List Char} {shape : Shape} (h : ofLetters? cs = some shape) :
    shape.Coded := by
  unfold ofLetters? at h
  split at h
  · cases h
    trivial
  · cases h
    trivial
  · cases h
    trivial
  · split at h
    · rename_i hlength
      obtain ⟨fields, hfields, rfl⟩ := Option.map_eq_some_iff.mp h
      rw [← FieldShape.length_ofCodes hfields] at hlength
      exact hlength
    · cases h

theorem coded_ofCode {text : String} {code : List Char} {shape : Shape}
    (h : ofCode text code = .ok shape) : shape.Coded := by
  unfold ofCode at h
  split at h
  · dsimp only at h
    split at h
    · cases h
    · split at h
      · cases h
      · cases h
      · cases h
        exact Nat.succ_pos _
  · split at h
    · cases h
    · rename_i hletters
      cases h
      exact coded_ofLetters? hletters

/-- A coded shape is read back, unless it asks for two words and more of a fixed number. -/
theorem Coded.readsBack {shape : Shape} (h : shape.Coded)
    (hfixed : ∀ count, shape = .fixed count → count = 1) : shape.readsBack = true := by
  cases shape with
  | fixed count => simp [Shape.readsBack, hfixed count rfl]
  | composite fields =>
    cases fields with
    | nil => cases h
    | cons => rfl
  | flag | scalar | literal | list => rfl

end Shape

/-- Whatever a spelling builds has names that are words, and a coded shape. -/
theorem Keyword.built_of_compact {text : String} {k : Keyword} (h : ofCompact text = .ok k) :
    Nameable k.name ∧ Nameable k.renderedName ∧ k.shape.Coded := by
  unfold ofCompact at h
  split at h
  · cases h
  · rename_i s hs
    obtain ⟨hname, houtput⟩ := spelling?_names hs
    have hrendered : ∀ shape : Shape, Nameable (renderedName ⟨String.ofList s.name, shape,
        s.negation, s.output.map String.ofList, s.accumulates⟩) := by
      intro shape
      unfold renderedName
      cases ho : s.output with
      | none => exact hname
      | some output => exact houtput output ho
    dsimp only at h
    split at h
    · cases h
      exact ⟨hname, hrendered _, trivial⟩
    · obtain ⟨shape, hshape, h⟩ := bind_ok h
      cases h
      exact ⟨hname, hrendered _, Shape.coded_ofCode hshape⟩

end FermRules
