import FermRules.Proofs.CompactNames
import Mathlib.Algebra.GroupWithZero.Nat

/-! # Compact spellings are read back

A spelling is put together from parts of which each begins with a mark of its own,
the name apart, and no mark is a character of a word. So a part ends where the next
one begins, and the parts are taken apart as they were put together. A shape has one
code: a number is no letter, and a row of letters is no number. What can be spelled
is then what a spelling can build, so a keyword that was built is spelled in one way,
whatever way it was built from. -/
namespace FermRules

/-! ## Numbers -/

namespace Text

theorem range_of_isDigit {c : Char} (h : c.isDigit = true) : 48 ≤ c.toNat ∧ c.toNat ≤ 57 := by
  simpa [Char.isDigit, UInt32.le_iff_toNat_le] using h

theorem decimalValue?_of_isDigit {c : Char} (h : c.isDigit = true) :
    decimalValue? c = some (c.toNat - 48) := by
  obtain ⟨hlow, hhigh⟩ := range_of_isDigit h
  have hzeros : decimalZeros = 48 :: decimalZeros.tail := rfl
  have hfound : (decide (48 ≤ c.toNat) && decide (c.toNat ≤ 48 + 9)) = true := by
    simp [hlow, hhigh]
  rw [decimalValue?, hzeros, List.find?_cons, hfound]
  rfl

theorem isDecimal_of_isDigit {c : Char} (h : c.isDigit = true) : isDecimal c = true := by
  rw [isDecimal, decimalValue?_of_isDigit h]
  rfl

theorem isWordChar_of_isDigit {c : Char} (h : c.isDigit = true) : isWordChar c = true := by
  obtain ⟨hlow, hhigh⟩ := range_of_isDigit h
  have hranges : wordRanges = (48, 57) :: wordRanges.tail := rfl
  rw [isWordChar, hranges, Ranges.contains, if_pos hhigh]
  exact decide_eq_true hlow

theorem decimalValue?_lt {c : Char} {d : Nat} (h : decimalValue? c = some d) : d < 10 := by
  obtain ⟨first, hfirst, rfl⟩ := Option.map_eq_some_iff.mp h
  have hbounds := List.find?_some hfirst
  simp only [Bool.and_eq_true, decide_eq_true_eq] at hbounds
  omega

/-- A decimal number, read behind other digits. -/
theorem foldlM_digits {cs : List Char} (h : ∀ c ∈ cs, c.isDigit = true) (n : Nat) :
    cs.foldlM (fun n c => (decimalValue? c).map (n * 10 + ·)) n
      = some (Nat.ofDigitChars 10 cs n) := by
  induction cs generalizing n with
  | nil => rfl
  | cons c cs ih =>
    obtain ⟨hc, hcs⟩ := List.forall_mem_cons.mp h
    rw [List.foldlM_cons, decimalValue?_of_isDigit hc, Nat.ofDigitChars_cons, Nat.mul_comm 10 n]
    exact ih hcs _

theorem natural?_toDigits (n : Nat) :
    natural? decimalValue? (Nat.toDigits 10 n) = some n := by
  have hne : (Nat.toDigits 10 n).isEmpty = false := by simp
  have hdigits : ∀ c ∈ Nat.toDigits 10 n, c.isDigit = true := fun c hc =>
    Nat.isDigit_of_mem_toDigits (by omega) (by omega) hc
  rw [natural?, hne, if_neg (by simp), foldlM_digits hdigits, Nat.ofDigitChars_ten_toDigits]

/-- A number has no more digits than it is read from, and all of these are decimal. -/
theorem lt_of_foldlM {cs : List Char} {m n : Nat}
    (h : cs.foldlM (fun n c => (decimalValue? c).map (n * 10 + ·)) m = some n) :
    n < (m + 1) * 10 ^ cs.length ∧ ∀ c ∈ cs, isDecimal c = true := by
  induction cs generalizing m with
  | nil =>
    cases h
    simp
  | cons c cs ih =>
    rw [List.foldlM_cons] at h
    obtain ⟨next, hnext, h⟩ := Option.bind_eq_some_iff.mp h
    obtain ⟨d, hd, rfl⟩ := Option.map_eq_some_iff.mp hnext
    obtain ⟨hlt, hall⟩ := ih h
    constructor
    · have hdigit := decimalValue?_lt hd
      have hstep : m * 10 + d + 1 ≤ (m + 1) * 10 := by omega
      calc n < (m * 10 + d + 1) * 10 ^ cs.length := hlt
        _ ≤ (m + 1) * 10 * 10 ^ cs.length := Nat.mul_le_mul_right _ hstep
        _ = (m + 1) * 10 ^ (c :: cs).length := by
          rw [List.length_cons, Nat.pow_succ, Nat.mul_assoc, Nat.mul_comm 10]
    · refine List.forall_mem_cons.mpr ⟨?_, hall⟩
      rw [isDecimal, hd]
      rfl

end Text

/-! ## Codes of shapes -/

namespace Shape

/-- The digits of a fixed number, which are as many as a number may have. -/
def Short (shape : Shape) : Prop :=
  ∀ count, shape = .fixed count → (toString count).length ≤ Text.maxDigits

theorem toList_toString (n : Nat) : (toString n).toList = Nat.toDigits 10 n := by
  rw [Nat.toString_eq_ofList_toDigits, String.toList_ofList]

theorem isDigit_of_mem {n : Nat} {c : Char} (h : c ∈ (toString n).toList) : c.isDigit = true := by
  rw [toList_toString] at h
  exact Nat.isDigit_of_mem_toDigits (by omega) (by omega) h

theorem ofCode_number {text : String} {count : Nat} (hpos : 0 < count)
    (hshort : (toString count).length ≤ Text.maxDigits) :
    ofCode text (toString count).toList = .ok (.fixed count) := by
  have hdecimal : ∀ c ∈ (toString count).toList, Text.isDecimal c = true := fun c hc =>
    Text.isDecimal_of_isDigit (isDigit_of_mem hc)
  have hall : (toString count).toList.all Text.isDigit = true := by
    refine List.all_eq_true.mpr fun c hc => ?_
    rw [Text.isDigit, hdecimal c hc, Bool.true_or]
  have hlength : ¬Text.maxDigits < ((toString count).toList.takeWhile Text.isDecimal).length := by
    rw [List.takeWhile_eq_self_iff.mpr hdecimal, String.length_toList]
    omega
  have hvalue : Text.natural? Text.decimalValue? (toString count).toList = some count := by
    rw [toList_toString, Text.natural?_toDigits]
  obtain ⟨n, rfl⟩ := Nat.exists_eq_succ_of_ne_zero (Nat.pos_iff_ne_zero.mp hpos)
  rw [ofCode, if_pos hall]
  dsimp only
  rw [if_neg hlength, hvalue]

theorem ofCode_letters {text : String} {code : List Char} {shape : Shape}
    (hdigits : code.all Text.isDigit = false) (h : ofLetters? code = some shape) :
    ofCode text code = .ok shape := by
  rw [ofCode, if_neg (by simp [hdigits]), h]

theorem isDigit_code (f : FieldShape) : Text.isDigit f.code = false := by
  cases f <;> decide

theorem mapM_ofCode? (fields : List FieldShape) :
    (fields.map FieldShape.code).mapM FieldShape.ofCode? = some fields := by
  induction fields with
  | nil => rfl
  | cons f fields ih =>
    rw [List.map_cons, List.mapM_cons, FieldShape.ofCode?_code, ih]
    rfl

theorem ofLetters?_codes {fields : List FieldShape} (h : 1 < fields.length) :
    ofLetters? (fields.map FieldShape.code) = some (.composite fields) := by
  have hlength : 1 < (fields.map FieldShape.code).length := by rwa [List.length_map]
  have hletters : ofLetters? (fields.map FieldShape.code)
      = ((fields.map FieldShape.code).mapM FieldShape.ofCode?).map composite := by
    unfold ofLetters?
    split
    all_goals simp_all
  rw [hletters, mapM_ofCode?]
  rfl

/-- The code of a shape is read as that shape. -/
theorem ofCode_code {text code : String} {shape : Shape} (hcoded : shape.Coded)
    (hshort : shape.Short) (h : shape.code? = some code) :
    ofCode text code.toList = .ok shape := by
  cases shape with
  | flag => cases h
  | scalar | literal | list =>
    cases h
    exact ofCode_letters (by decide) rfl
  | fixed count =>
    cases h
    exact ofCode_number hcoded (hshort count rfl)
  | composite fields =>
    cases h
    rw [String.toList_ofList]
    refine ofCode_letters ?_ (ofLetters?_codes hcoded)
    cases fields with
    | nil => cases hcoded
    | cons f fields => simp [isDigit_code f]

/-- The characters of a code are characters of a word. -/
theorem isWordChar_code {code : String} {shape : Shape} (hcoded : shape.Coded)
    (h : shape.code? = some code) :
    code.toList ≠ [] ∧ ∀ c ∈ code.toList, Text.isWordChar c = true := by
  cases shape with
  | flag => cases h
  | scalar | literal | list =>
    cases h
    exact ⟨by decide, List.all_eq_true.mp (by decide)⟩
  | fixed count =>
    cases h
    constructor
    · rw [toList_toString]
      exact Nat.toDigits_ne_nil
    · exact fun c hc => Text.isWordChar_of_isDigit (isDigit_of_mem hc)
  | composite fields =>
    cases h
    rw [String.toList_ofList]
    constructor
    · rintro hnil
      obtain rfl := List.map_eq_nil_iff.mp hnil
      cases hcoded
    · intro c hc
      obtain ⟨f, -, rfl⟩ := List.mem_map.mp hc
      cases f <;> decide

theorem short_ofCode {text : String} {code : List Char} {shape : Shape}
    (h : ofCode text code = .ok shape) : shape.Short := by
  rintro count rfl
  unfold ofCode at h
  split at h
  · dsimp only at h
    split at h
    · cases h
    · rename_i hdigits
      have hvalue : Text.natural? Text.decimalValue? code = some count := by
        split at h
        · cases h
        · cases h
        · rename_i hvalue
          cases h
          exact hvalue
      have hne : ¬code.isEmpty = true := by
        intro hempty
        rw [Text.natural?, if_pos hempty] at hvalue
        cases hvalue
      rw [Text.natural?, if_neg hne] at hvalue
      obtain ⟨hlt, hdecimal⟩ := Text.lt_of_foldlM hvalue
      rw [List.takeWhile_eq_self_iff.mpr hdecimal] at hdigits
      have hpos : 0 < code.length := List.length_pos_iff.mpr (by simpa using hne)
      have hlength := (Nat.length_toDigits_le_iff (b := 10) (by omega) hpos).mpr (by simpa using hlt)
      rw [← String.length_toList, toList_toString]
      omega
  · split at h
    · cases h
    · rename_i hletters
      cases h
      unfold ofLetters? at hletters
      split at hletters
      all_goals simp_all

end Shape

/-! ## The parts of a spelling -/

/-- The text is empty or begins with one of these characters. -/
def Text.Leads (heads : List Char) (cs : List Char) : Prop := ∀ c, cs.head? = some c → c ∈ heads

namespace Keyword

open Text (Leads)

def markIf (mark : Char) (stands : Bool) : List Char := if stands then [mark] else []

def marked (mark : Char) : Option (List Char) → List Char
  | none => []
  | some word => mark :: word

theorem leads_markIf {heads rest : List Char} (mark : Char) (stands : Bool)
    (h : Leads heads rest) : Leads (mark :: heads) (markIf mark stands ++ rest) := by
  intro c hc
  cases stands with
  | false => exact List.mem_cons_of_mem _ (h c hc)
  | true =>
    cases hc
    exact List.mem_cons_self

theorem leads_marked {heads rest : List Char} (mark : Char) (word : Option (List Char))
    (h : Leads heads rest) : Leads (mark :: heads) (marked mark word ++ rest) := by
  intro c hc
  cases word with
  | none => exact List.mem_cons_of_mem _ (h c hc)
  | some word =>
    cases hc
    exact List.mem_cons_self

theorem takeMark_of_head {mark : Char} {cs : List Char} (h : cs.head? ≠ some mark) :
    takeMark mark cs = (false, cs) := by
  cases cs with
  | nil => rfl
  | cons c cs =>
    have hne : c ≠ mark := fun he => h (he ▸ rfl)
    rw [takeMark, if_neg hne]

theorem takeMark_markIf {mark : Char} {rest : List Char} (stands : Bool)
    (h : rest.head? ≠ some mark) : takeMark mark (markIf mark stands ++ rest) = (stands, rest) := by
  cases stands with
  | false => exact takeMark_of_head h
  | true => exact if_pos rfl

theorem takeMarked_marked {mark : Char} {inWord : Char → Bool} {word : Option (List Char)}
    {rest : List Char} (hword : ∀ w, word = some w → w ≠ [] ∧ ∀ c ∈ w, inWord c = true)
    (hmark : rest.head? ≠ some mark) (hrest : ∀ c, rest.head? = some c → inWord c = false) :
    takeMarked mark inWord (marked mark word ++ rest) = (word, rest) := by
  cases word with
  | none =>
    show takeMarked mark inWord rest = (none, rest)
    rw [takeMarked, takeMark_of_head hmark]
  | some w =>
    obtain ⟨hne, hchars⟩ := hword w rfl
    obtain ⟨htake, hdrop⟩ := Text.takeWhile_word hchars hrest
    have hmark : takeMark mark (mark :: (w ++ rest)) = (true, w ++ rest) := if_pos rfl
    show takeMarked mark inWord (mark :: (w ++ rest)) = (some w, rest)
    rw [takeMarked, hmark]
    dsimp only
    rw [htake, hdrop, if_neg (by simpa using hne)]

namespace Spelling

/-- The parts side by side. -/
def chars (s : Spelling) : List Char :=
  markIf '!' s.leadingMark ++ (s.name ++ (markIf '!' s.trailingMark
    ++ (markIf '+' s.accumulates ++ (marked '=' s.code ++ marked '>' s.output))))

/-- Parts that a spelling can have. -/
structure Proper (s : Spelling) : Prop where
  name : s.name ≠ [] ∧ ∀ c ∈ s.name, isNameChar c = true
  marks : (s.leadingMark && s.trailingMark) = false
  code : ∀ w, s.code = some w → w ≠ [] ∧ ∀ c ∈ w, Text.isWordChar c = true
  output : ∀ w, s.output = some w → w ≠ [] ∧ ∀ c ∈ w, isNameChar c = true

end Spelling

/-- The marks are no characters of names, and neither is a line feed. -/
theorem isNameChar_mark : ∀ c ∈ ['!', '+', '=', '>', '\n'], isNameChar c = false := by
  have hnone : ['!', '+', '=', '>', '\n'].all (fun c => !isNameChar c) = true := by decide
  intro c hc
  simpa using List.all_eq_true.mp hnone c hc

theorem isNameChar_of_isWordChar {c : Char} (h : Text.isWordChar c = true) :
    isNameChar c = true := by
  rw [isNameChar, h, Bool.true_or]

theorem isNameChar_of_leads {heads cs : List Char} (h : Leads heads cs)
    (hheads : heads ⊆ ['!', '+', '=', '>']) :
    ∀ c, cs.head? = some c → isNameChar c = false := fun c hc =>
  isNameChar_mark c (List.mem_append_left ['\n'] (hheads (h c hc)))

theorem mem_markIf {c mark : Char} {stands : Bool} (h : c ∈ markIf mark stands) : c = mark := by
  cases stands with
  | false => cases h
  | true => exact List.mem_singleton.mp h

theorem mem_marked {c mark : Char} {word : Option (List Char)} (h : c ∈ marked mark word) :
    c = mark ∨ ∃ w, word = some w ∧ c ∈ w := by
  cases word with
  | none => cases h
  | some w => exact (List.mem_cons.mp h).imp_right fun hc => ⟨w, rfl, hc⟩

namespace Spelling

/-- A spelling has no line feed. -/
theorem Proper.line {s : Spelling} (h : s.Proper) : '\n' ∉ s.chars := by
  have hfeed : ¬isNameChar '\n' = true := by simp [isNameChar_mark '\n' (by simp)]
  intro hmem
  simp only [chars, List.mem_append] at hmem
  rcases hmem with hmem | hmem | hmem | hmem | hmem | hmem
  · cases mem_markIf hmem
  · exact hfeed (h.name.2 _ hmem)
  · cases mem_markIf hmem
  · cases mem_markIf hmem
  · rcases mem_marked hmem with hmark | ⟨w, hw, hc⟩
    · cases hmark
    · exact hfeed (isNameChar_of_isWordChar ((h.code w hw).2 _ hc))
  · rcases mem_marked hmem with hmark | ⟨w, hw, hc⟩
    · cases hmark
    · exact hfeed ((h.output w hw).2 _ hc)

/-- Each part is taken where the one in front of it ends. -/
theorem Proper.taken {s : Spelling} (h : s.Proper) : spelling? s.chars = some s := by
  have hoff {cs : List Char} {heads : List Char} {mark : Char} (hl : Leads heads cs)
      (hm : mark ∉ heads) : cs.head? ≠ some mark := fun hc => hm (hl mark hc)
  have houtput : Leads ['>'] (marked '>' s.output ++ []) :=
    leads_marked '>' s.output fun c hc => nomatch hc
  rw [List.append_nil] at houtput
  have hcode := leads_marked '=' s.code houtput
  have haccumulates := leads_markIf '+' s.accumulates hcode
  have htrailing := leads_markIf '!' s.trailingMark haccumulates
  have hdrop : Text.dropFinalLineFeed s.chars = s.chars :=
    if_neg fun hlast => h.line (List.mem_of_getLast? hlast)
  have hname : ∀ rest : List Char, (s.name ++ rest).head? ≠ some '!' := by
    intro rest hhead
    obtain ⟨c, cs, hcs⟩ := List.exists_cons_of_ne_nil h.name.1
    rw [hcs] at hhead
    cases hhead
    have hmark := h.name.2 '!' (hcs ▸ List.mem_cons_self)
    rw [isNameChar_mark '!' (by simp)] at hmark
    cases hmark
  obtain ⟨htake, hrest⟩ := Text.takeWhile_word h.name.2
    (isNameChar_of_leads htrailing (by simp))
  have hlast : takeMarked '>' isNameChar (marked '>' s.output ++ []) = (s.output, []) :=
    takeMarked_marked h.output (by simp) (by simp)
  rw [List.append_nil] at hlast
  have hwords : ∀ c, (marked '>' s.output).head? = some c → Text.isWordChar c = false := by
    intro c hc
    have hnone := isNameChar_of_leads houtput (by simp) c hc
    rw [isNameChar, Bool.or_eq_false_iff] at hnone
    exact hnone.1
  rw [spelling?, hdrop, chars, takeMark_markIf _ (hname _)]
  dsimp only
  rw [htake, hrest, takeMark_markIf _ (hoff haccumulates (by simp))]
  dsimp only
  rw [takeMark_markIf _ (hoff hcode (by simp))]
  dsimp only
  rw [takeMarked_marked h.code (hoff houtput (by simp)) hwords]
  dsimp only
  rw [hlast, if_neg]
  simp [h.name.1, h.marks]

end Spelling

/-! ## What can be spelled -/

/-- The parts that a keyword is spelled with. -/
def spelling (k : Keyword) : Spelling where
  leadingMark := k.negation = .before
  name := k.name.toList
  trailingMark := k.negation = .after
  accumulates := k.accumulates
  code := k.shape.code?.map String.toList
  output := k.outputName.map String.toList

/-- A keyword with names of name characters, of a shape that has a code or needs none. -/
structure Spellable (k : Keyword) : Prop where
  name : Nameable k.name
  output : ∀ name, k.outputName = some name → Nameable name
  shape : k.shape.Coded
  short : k.shape.Short

theorem toList_compact (k : Keyword) : k.compact.toList = k.spelling.chars := by
  have hbefore : (if k.negation = .before then "!" else "").toList
      = markIf '!' (k.negation = .before) := by
    by_cases h : k.negation = .before <;> simp [h, markIf]
  have hafter : (if k.negation = .after then "!" else "").toList
      = markIf '!' (k.negation = .after) := by
    by_cases h : k.negation = .after <;> simp [h, markIf]
  have hplus : (if k.accumulates then "+" else "").toList = markIf '+' k.accumulates := by
    cases k.accumulates <;> simp [markIf]
  simp only [compact, String.toList_append, hbefore, hafter, hplus, spelling, Spelling.chars,
    List.append_assoc]
  cases k.shape.code? <;> cases k.outputName <;> simp [marked]

theorem negation_spelling (k : Keyword) : k.spelling.negation = k.negation := by
  cases hk : k.negation <;> simp [Spelling.negation, spelling, hk]

theorem Spellable.proper {k : Keyword} (h : k.Spellable) : k.spelling.Proper where
  name := ⟨fun hnil => h.name.ne (String.toList_inj.mp hnil), h.name.chars⟩
  marks := by cases hk : k.negation <;> simp [spelling, hk]
  code w hw := by
    obtain ⟨code, hcode, rfl⟩ := Option.map_eq_some_iff.mp hw
    exact Shape.isWordChar_code h.shape hcode
  output w hw := by
    obtain ⟨name, hname, rfl⟩ := Option.map_eq_some_iff.mp hw
    have hnameable := h.output name hname
    exact ⟨fun hnil => hnameable.ne (String.toList_inj.mp hnil), hnameable.chars⟩

/-- The parts make up the keyword. -/
theorem of_spelling (k : Keyword) :
    (⟨String.ofList k.spelling.name, k.shape, k.spelling.negation,
      k.spelling.output.map String.ofList, k.spelling.accumulates⟩ : Keyword) = k := by
  have hname : String.ofList k.spelling.name = k.name := String.ofList_toList
  have houtput : k.spelling.output.map String.ofList = k.outputName := by
    cases hk : k.outputName <;> simp [spelling, hk]
  rw [hname, houtput, negation_spelling]
  rfl

/-- What can be spelled is read back. -/
theorem Spellable.readBack {k : Keyword} (h : k.Spellable) : ofCompact k.compact = .ok k := by
  have hbuilt := k.of_spelling
  rw [ofCompact, toList_compact, h.proper.taken]
  dsimp only
  cases hcode : k.shape.code? with
  | none =>
    have hparts : k.spelling.code = none := by simp [spelling, hcode]
    have hflag : k.shape = .flag := by
      cases hk : k.shape <;> simp [Shape.code?, hk] at hcode ⊢
    rw [hflag] at hbuilt
    rw [hparts]
    exact congrArg Except.ok hbuilt
  | some code =>
    have hparts : k.spelling.code = some code.toList := by simp [spelling, hcode]
    rw [hparts]
    dsimp only
    rw [Shape.ofCode_code h.shape h.short hcode]
    exact congrArg Except.ok hbuilt

/-- Whatever builds a keyword, the keyword can be spelled. -/
theorem spellable_of_compact {text : String} {k : Keyword} (h : ofCompact text = .ok k) :
    k.Spellable := by
  obtain ⟨hname, -, hcoded⟩ := built_of_compact h
  unfold ofCompact at h
  split at h
  · cases h
  rename_i s hs
  have houtput : ∀ name, s.output.map String.ofList = some name → Nameable name := by
    intro name hname
    obtain ⟨output, ho, rfl⟩ := Option.map_eq_some_iff.mp hname
    exact (spelling?_names hs).2 output ho
  dsimp only at h
  split at h
  · cases h
    exact ⟨hname, houtput, hcoded, nofun⟩
  · obtain ⟨shape, hshape, h⟩ := bind_ok h
    cases h
    exact ⟨hname, houtput, hcoded, Shape.short_ofCode hshape⟩

/-- The compact spelling is faithful: all that can be spelled is read back, and all that is built
from a spelling can be spelled. -/
theorem ofCompact_compact (k : Keyword) :
    (k.Spellable → ofCompact k.compact = .ok k) ∧
      ∀ text, ofCompact text = .ok k → k.Spellable ∧ ofCompact k.compact = .ok k := by
  refine ⟨Spellable.readBack, fun text h => ?_⟩
  have hspellable := spellable_of_compact h
  exact ⟨hspellable, hspellable.readBack⟩

/-- A number in other digits, and a line feed at the end. -/
theorem ofCompact_compact_digits :
    ∃ k, ofCompact "döt-x!+=٣>y-1\n" = .ok k ∧ k.shape = .fixed 3 ∧ k.Spellable ∧
      k.compact = "döt-x!+=3>y-1" ∧ ofCompact k.compact = .ok k := by
  have hbuilt : ofCompact "döt-x!+=٣>y-1\n"
      = .ok ⟨"döt-x", .fixed 3, .after, some "y-1", true⟩ := by decide +kernel
  obtain ⟨hspellable, -⟩ := (ofCompact_compact _).2 _ hbuilt
  exact ⟨_, hbuilt, rfl, hspellable, by decide +kernel, (ofCompact_compact _).1 hspellable⟩

end Keyword

end FermRules
