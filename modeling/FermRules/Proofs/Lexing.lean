import FermRules.Rule.Printer
import FermRules.Rule.Reader
import Mathlib.Data.List.Forall2

/-! # The tokens of written text

`Lexes` follows the lexer through a piece of text from one mode to another, so
that the tokens of a text are put together from those of its pieces. A text that
ends between tokens or in a word `Spells` its tokens; a blank behind it ends the
word, and a semicolon behind it becomes the terminator of the statement. -/
namespace FermRules

/-- A text that is written without a line feed. -/
def Text.Unbroken (s : String) : Prop := '\n' ∉ s.toList

instance (s : String) : Decidable (Text.Unbroken s) := inferInstanceAs (Decidable ('\n' ∉ s.toList))

/-- A word is as long as its characters last. -/
theorem Text.takeWhile_word {inWord : Char → Bool} {word rest : List Char}
    (hword : ∀ c ∈ word, inWord c = true) (hrest : ∀ c, rest.head? = some c → inWord c = false) :
    (word ++ rest).takeWhile inWord = word ∧ (word ++ rest).dropWhile inWord = rest := by
  rw [List.takeWhile_append_of_pos hword, List.dropWhile_append_of_pos hword]
  cases rest with
  | nil => simp
  | cons c rest => simp [hrest c rfl]

namespace Lexer

/-- The tokens that the characters complete, and the mode behind them. -/
def scan : Nat → Mode → List Char → List Token × Mode
  | _, mode, [] => ([], mode)
  | column, mode, c :: rest =>
    let (tokens, mode) := step column c mode
    let (more, last) := scan (column + 1) mode rest
    (tokens ++ more, last)

theorem run_eq_scan (column : Nat) (mode : Mode) (cs : List Char) :
    run column mode cs
      = (finish (scan column mode cs).2).map ((scan column mode cs).1 ++ ·) := by
  induction cs generalizing column mode with
  | nil =>
    simp only [run, scan, List.nil_append]
    cases finish mode <;> rfl
  | cons c rest ih =>
    simp only [run, scan, ih]
    cases finish (scan (column + 1) (step column c mode).2 rest).2 with
    | error f => rfl
    | ok ts => simp [Except.map]

theorem scan_append (column : Nat) (mode : Mode) (cs ds : List Char) :
    scan column mode (cs ++ ds)
      = ((scan column mode cs).1 ++ (scan (column + cs.length) (scan column mode cs).2 ds).1,
        (scan (column + cs.length) (scan column mode cs).2 ds).2) := by
  induction cs generalizing column mode with
  | nil => rfl
  | cons c cs ih =>
    simp only [List.cons_append, scan, ih, List.append_assoc, List.length_cons]
    rw [Nat.add_assoc, Nat.add_comm 1]

/-- Wherever it starts, the lexer completes these tokens and ends in this mode. -/
def Lexes (mode : Mode) (cs : List Char) (tokens : List Token) (last : Mode) : Prop :=
  ∀ column, scan column mode cs = (tokens, last)

namespace Lexes

theorem nil (mode : Mode) : Lexes mode [] [] mode := fun _ => rfl

theorem append {mode next last : Mode} {cs ds : List Char} {tokens more : List Token}
    (hcs : Lexes mode cs tokens next) (hds : Lexes next ds more last) :
    Lexes mode (cs ++ ds) (tokens ++ more) last := by
  intro column
  rw [scan_append, hcs column, hds]

theorem cons {mode next last : Mode} {c : Char} {cs : List Char} {tokens more : List Token}
    (hc : ∀ column, step column c mode = (tokens, next)) (hcs : Lexes next cs more last) :
    Lexes mode (c :: cs) (tokens ++ more) last := by
  intro column
  simp only [scan, hc column, hcs (column + 1)]

/-! ## Words -/

/-- A character that neither ends a word nor opens a literal. -/
def Inside (c : Char) : Prop := Text.isBlank c = false ∧ quote? c = none

theorem word {w : List Char} (hw : ∀ c ∈ w, Inside c) (p : String) :
    Lexes (.word p) w [] (.word (p ++ String.ofList w)) := by
  induction w generalizing p with
  | nil =>
    rw [String.ofList_nil, String.append_empty]
    exact nil _
  | cons c w ih =>
    obtain ⟨⟨hblank, hquote⟩, hrest⟩ := List.forall_mem_cons.mp hw
    have hc : ∀ column, step column c (.word p) = ([], .word (p.push c)) := by
      intro column
      simp [step, hblank, hquote]
    have hp : p ++ String.ofList (c :: w) = p.push c ++ String.ofList w := by
      rw [← String.toList_inj]
      simp
    rw [hp]
    exact cons hc (ih hrest (p.push c))

theorem blank (p : String) : Lexes (.word p) [' '] (wordTokens p) (.word "") := by
  intro column
  have hb : Text.isBlank ' ' = true := by decide
  simp [scan, step, hb]

/-! ## Literals -/

theorem escaped (t : List Char) (opened : Nat) (text : String) :
    Lexes (.literal .double opened text) (Token.escape t ++ ['"'])
      [.literal (text ++ String.ofList t)] (.word "") := by
  induction t generalizing text with
  | nil =>
    intro column
    simp [Token.escape, scan, step, Quote.char]
  | cons c t ih =>
    have ht : text ++ String.ofList (c :: t) = text.push c ++ String.ofList t := by
      rw [← String.toList_inj]
      simp
    rw [ht]
    unfold Token.escape
    split
    · have hslash : ∀ column, step column '\\' (.literal .double opened text)
          = ([], .escaped opened text) := fun _ => by simp [step, Quote.char]
      have hc : ∀ column, step column c (.escaped opened text)
          = ([], .literal .double opened (text.push c)) := fun _ => rfl
      exact cons hslash (cons hc (ih _))
    · rename_i hplain
      simp only [Bool.or_eq_true, decide_eq_true_eq, not_or] at hplain
      have hc : ∀ column, step column c (.literal .double opened text)
          = ([], .literal .double opened (text.push c)) := by
        intro column
        simp [step, Quote.char, hplain.1, hplain.2]
      exact cons hc (ih _)

theorem literal (t : List Char) (p : String) :
    Lexes (.word p) ('"' :: Token.escape t ++ ['"'])
      (wordTokens p ++ [.literal (String.ofList t)]) (.word "") := by
  intro column
  have hopen : step column '"' (.word p) = (wordTokens p, .literal .double column "") := by
    have hb : Text.isBlank '"' = false := by decide
    simp [step, hb, quote?]
  simp only [List.cons_append, scan, hopen, escaped t column "" (column + 1),
    String.empty_append]

end Lexes

end Lexer

/-! ## Texts -/

namespace Token

/-- The token that a text is written as. -/
def written (text : String) : Token := if isSimple text then .word text else .literal text

theorem range_of_isSimpleChar {c : Char} (h : isSimpleChar c = true) :
    33 ≤ c.toNat ∧ c.toNat ≤ 126 := by
  simp only [isSimpleChar, Bool.or_eq_true, List.contains_eq_mem, List.mem_cons,
    decide_eq_true_eq, List.not_mem_nil, or_false] at h
  rcases h with h | h
  · change ((decide (c.val ≥ 65 ∧ c.val ≤ 90) || (decide (c.val ≥ 97) && decide (c.val ≤ 122)))
      || (decide (c.val ≥ 48) && decide (c.val ≤ 57))) = true at h
    simp only [Bool.or_eq_true, Bool.and_eq_true, decide_eq_true_eq, UInt32.le_iff_toNat_le,
      ge_iff_le] at h
    have hv : c.toNat = c.val.toNat := rfl
    simp at h
    omega
  · rcases h with rfl | rfl | rfl | rfl | rfl | rfl | rfl | rfl <;> decide

theorem ne_of_isSimpleChar {c d : Char} (h : isSimpleChar c = true)
    (hd : isSimpleChar d = false) : c ≠ d := by
  rintro rfl
  rw [h] at hd
  cases hd

theorem inside_of_isSimpleChar {c : Char} (h : isSimpleChar c = true) :
    Lexer.Lexes.Inside c := by
  constructor
  · obtain ⟨hlow, hhigh⟩ := range_of_isSimpleChar h
    have h13 : ¬c.toNat ≤ 13 := by omega
    have h32 : ¬c.toNat ≤ 32 := by omega
    have h133 : c.toNat ≤ 133 := by omega
    have hlt : ¬133 ≤ c.toNat := by omega
    simp [Text.isBlank, Text.blankRanges, Text.Ranges.contains, h13, h32, h133, hlt]
  · have hs := ne_of_isSimpleChar h (d := '\'') (by decide)
    have hd := ne_of_isSimpleChar h (d := '"') (by decide)
    simp [Lexer.quote?, hs, hd]

theorem simple_of_isSimple {text : String} (hl : Text.Unbroken text)
    (h : isSimple text = true) : text ≠ "" ∧ ∀ c ∈ text.toList, isSimpleChar c = true := by
  have hdrop : Text.dropFinalLineFeed text.toList = text.toList := by
    unfold Text.dropFinalLineFeed
    split
    · rename_i hlast
      exact absurd (List.mem_of_getLast? hlast) hl
    · rfl
  unfold isSimple at h
  rw [hdrop] at h
  simp only [Bool.and_eq_true, Bool.not_eq_true', List.isEmpty_eq_false_iff,
    List.all_eq_true] at h
  exact ⟨fun he => h.1 (by rw [he]; rfl), h.2⟩

theorem mem_escape {c : Char} {cs : List Char} (h : c ∈ escape cs) : c ∈ cs ∨ c = '\\' := by
  induction cs with
  | nil => cases h
  | cons d cs ih =>
    unfold escape at h
    split at h
    all_goals
      simp only [List.mem_cons] at h ⊢
      grind

theorem unbroken_write {text : String} (h : Text.Unbroken text) :
    Text.Unbroken (write text) := by
  unfold write
  split
  · exact h
  · intro hm
    rw [String.toList_ofList] at hm
    simp only [List.cons_append, List.mem_cons, List.mem_append, List.not_mem_nil, or_false] at hm
    rcases hm with hm | hm | hm
    · cases hm
    · rcases mem_escape hm with hm | hm
      · exact h hm
      · cases hm
    · cases hm

end Token

namespace Lexer.Lexes

/-- A simple text goes on with the word before it, any other one ends the word. -/
theorem write {text : String} (hl : Text.Unbroken text) (p : String) :
    if Token.isSimple text then Lexes (.word p) (Token.write text).toList [] (.word (p ++ text))
    else Lexes (.word p) (Token.write text).toList
      (wordTokens p ++ [.literal text]) (.word "") := by
  unfold Token.write
  split
  · rename_i hs
    have := word (fun c hc => Token.inside_of_isSimpleChar
      ((Token.simple_of_isSimple hl hs).2 c hc)) p
    rwa [String.ofList_toList] at this
  · have := literal text.toList p
    rwa [String.ofList_toList, ← String.toList_ofList (l := '"' :: _ ++ _)] at this

end Lexer.Lexes

theorem unbroken_joinWords {words : List String} (h : ∀ w ∈ words, Text.Unbroken w) :
    Text.Unbroken (joinWords words) := by
  fun_induction joinWords words with
  | case1 => exact List.not_mem_nil
  | case2 word => exact h word List.mem_cons_self
  | case3 word next rest ih =>
    obtain ⟨hword, hrest⟩ := List.forall_mem_cons.mp h
    have hnext := ih hrest
    unfold Text.Unbroken at hword hnext ⊢
    simp [hword, hnext]

/-- The text is a line that ends between tokens or in a word, and these are its
tokens. -/
def Spells (cs : List Char) (tokens : List Token) : Prop :=
  '\n' ∉ cs ∧ ∃ us w, Lexer.Lexes (.word "") cs us (.word w) ∧ tokens = us ++ Lexer.wordTokens w

namespace Spells

open Lexer

theorem tokenize {text : String} {tokens : List Token} (h : Spells text.toList tokens) :
    FermRules.tokenize text = .ok tokens := by
  obtain ⟨_, us, w, hl, rfl⟩ := h
  rw [FermRules.tokenize, run_eq_scan, hl 1]
  rfl

theorem nil : Spells [] [] := ⟨List.not_mem_nil, [], "", Lexes.nil _, rfl⟩

theorem word {w : String} (hne : w ≠ "") (hw : ∀ c ∈ w.toList, Lexes.Inside c) :
    Spells w.toList [.word w] := by
  have hlexes := Lexes.word hw ""
  rw [String.ofList_toList, String.empty_append] at hlexes
  have hline : '\n' ∉ w.toList := fun hm => by
    have hblank := (hw _ hm).1
    revert hblank
    decide
  exact ⟨hline, [], w, hlexes, by simp [wordTokens, hne]⟩

theorem write {text : String} (hl : Text.Unbroken text) :
    Spells (Token.write text).toList [Token.written text] := by
  refine ⟨Token.unbroken_write hl, ?_⟩
  have := Lexes.write hl ""
  unfold Token.written
  split at this
  · rename_i hs
    rw [if_pos hs]
    rw [String.empty_append] at this
    refine ⟨[], text, this, ?_⟩
    simp [wordTokens, (Token.simple_of_isSimple hl hs).1]
  · rename_i hs
    rw [if_neg hs]
    exact ⟨_, "", this, rfl⟩

theorem blank {cs ds : List Char} {tokens more : List Token} (hcs : Spells cs tokens)
    (hds : Spells ds more) : Spells (cs ++ ' ' :: ds) (tokens ++ more) := by
  obtain ⟨hline, us, w, hus, rfl⟩ := hcs
  obtain ⟨hline', vs, v, hvs, rfl⟩ := hds
  refine ⟨by simp [hline, hline'], us ++ (wordTokens w ++ vs), v, ?_, by simp⟩
  exact hus.append ((Lexes.blank w).append hvs)

/-- A word that is put behind a blank. -/
theorem joinWords {words : List String} {tokens : List (List Token)}
    (h : List.Forall₂ (fun w ts => Spells w.toList ts) words tokens) :
    Spells (FermRules.joinWords words).toList tokens.flatten := by
  induction h with
  | nil => exact nil
  | @cons w ts words tokens hw hrest ih =>
    cases hrest with
    | nil =>
      rw [List.flatten_cons, List.flatten_nil, List.append_nil]
      exact hw
    | cons _ _ =>
      rw [FermRules.joinWords, String.toList_append, String.toList_append, List.append_assoc]
      exact hw.blank ih

end Spells

theorem LeafRule.dropTerminator_concat (us : List Token) (w : String) :
    LeafRule.dropTerminator (us ++ [.word (w ++ ";")]) = us ++ Lexer.wordTokens w := by
  induction us with
  | nil =>
    have hends : (Token.word (w ++ ";")).endsWith ';' = true := by
      simp [Token.endsWith, Token.word]
    rw [List.nil_append, List.nil_append, LeafRule.dropTerminator, if_pos hends]
    by_cases hw : w = ""
    · simp [hw, Token.word, Lexer.wordTokens]
    · have hne : w ++ ";" ≠ ";" := by
        intro he
        refine hw (String.toList_inj.mp ?_)
        have := congrArg String.toList he
        simpa using this
      simp [Token.word, Lexer.wordTokens, hw, hne]
  | cons u us ih =>
    obtain ⟨second, rest, hs⟩ :=
      List.exists_cons_of_ne_nil (List.append_ne_nil_of_right_ne_nil us (List.cons_ne_nil _ []))
    rw [List.cons_append, hs, LeafRule.dropTerminator, ← hs, ih, List.cons_append]

/-- The semicolon behind a statement is no part of its last word. -/
theorem Spells.terminated {text : String} {tokens : List Token} (h : Spells text.toList tokens) :
    ∃ ts, FermRules.tokenize (text ++ ";") = .ok ts ∧ LeafRule.dropTerminator ts = tokens := by
  obtain ⟨hline, us, w, hl, rfl⟩ := h
  have hsemi : Lexer.Lexes (.word w) [';'] [] (.word (w ++ ";")) := by
    have hinside : Lexer.Lexes.Inside ';' := by
      unfold Lexer.Lexes.Inside
      decide
    exact Lexer.Lexes.word (w := [';']) (by simpa using hinside) w
  have hspells : Spells (text ++ ";").toList (us ++ [.word (w ++ ";")]) := by
    refine ⟨by simpa using hline, us, w ++ ";", ?_, ?_⟩
    · rw [String.toList_append]
      simpa using hl.append hsemi
    · have hne : w ++ ";" ≠ "" := by
        intro he
        have := congrArg String.toList he
        simp at this
      simp [Lexer.wordTokens, hne]
  exact ⟨_, hspells.tokenize, LeafRule.dropTerminator_concat us w⟩

end FermRules
