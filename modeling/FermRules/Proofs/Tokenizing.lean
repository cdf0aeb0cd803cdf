import FermRules.Dump.Fault
import FermRules.Proofs.Splitting

/-! # Texts side by side

A text that is read without a fault ends between tokens or in a word, and a blank
behind it ends the word. What stands behind the blanks is then read as if it stood
alone, only further to the right, so its tokens are the same and the column of a
quote that is never closed grows by what is in front.

From this follows what a text becomes that is written as a single token. Between
quotes it is read back whatever it is. Without quotes it is a word, and one text
without quotes is more than a word: simple characters with a line feed behind them
count as simple, and the line feed is a blank. -/
namespace FermRules

/-- The same quote, with more characters in front of it. -/
def UnclosedQuote.shift (n : Nat) (q : UnclosedQuote) : UnclosedQuote := ⟨q.column + n⟩

namespace Lexer

/-! ## Further to the right -/

/-- The same mode, with more characters in front of it. -/
def Mode.shift (n : Nat) : Mode → Mode
  | .word text => .word text
  | .literal quote opened text => .literal quote (opened + n) text
  | .escaped opened text => .escaped (opened + n) text

theorem step_shift (n column : Nat) (c : Char) (mode : Mode) :
    step (column + n) c (mode.shift n)
      = ((step column c mode).1, (step column c mode).2.shift n) := by
  cases mode with
  | word text =>
    simp only [Mode.shift, step]
    split
    · rfl
    · cases quote? c <;> rfl
  | literal quote opened text =>
    simp only [Mode.shift, step]
    split
    · rfl
    · split <;> rfl
  | escaped opened text => rfl

theorem finish_shift (n : Nat) (mode : Mode) :
    finish (mode.shift n) = (finish mode).mapError (UnclosedQuote.shift n) := by
  cases mode <;> rfl

theorem run_shift (n column : Nat) (mode : Mode) (cs : List Char) :
    run (column + n) (mode.shift n) cs
      = (run column mode cs).mapError (UnclosedQuote.shift n) := by
  induction cs generalizing column mode with
  | nil => exact finish_shift n mode
  | cons c cs ih =>
    have hcolumn : column + n + 1 = column + 1 + n := by omega
    simp only [run, step_shift, hcolumn, ih]
    cases run (column + 1) (step column c mode).2 cs <;> rfl

/-! ## Behind a blank -/

/-- A blank behind a complete text ends its last token. -/
theorem run_complete {column : Nat} {mode : Mode} {cs : List Char} {tokens : List Token}
    (h : run column mode cs = .ok tokens) {blank : Char} (hblank : Text.isBlank blank = true)
    (ds : List Char) :
    run column mode (cs ++ blank :: ds)
      = (run (column + cs.length + 1) (.word "") ds).map (tokens ++ ·) := by
  induction cs generalizing column mode tokens with
  | nil =>
    cases mode with
    | word text =>
      cases h
      simp only [List.nil_append, run, step, hblank, if_true, List.length_nil, Nat.add_zero]
    | literal | escaped => cases h
  | cons c cs ih =>
    have hcolumn : column + (c :: cs).length + 1 = column + 1 + cs.length + 1 := by
      rw [List.length_cons]
      omega
    simp only [run] at h
    cases hrest : run (column + 1) (step column c mode).2 cs with
    | error fault =>
      rw [hrest] at h
      cases h
    | ok more =>
      rw [hrest] at h
      cases h
      rw [List.cons_append, hcolumn]
      simp only [run, ih hrest]
      cases run (column + 1 + cs.length + 1) (.word "") ds with
      | error fault => rfl
      | ok behind => simp [Except.map]

theorem run_blanks {blanks : List Char} (h : ∀ c ∈ blanks, Text.isBlank c = true) (column : Nat)
    (ds : List Char) :
    run column (.word "") (blanks ++ ds) = run (column + blanks.length) (.word "") ds := by
  induction blanks generalizing column with
  | nil => rfl
  | cons c blanks ih =>
    obtain ⟨hc, hblanks⟩ := List.forall_mem_cons.mp h
    have hstep : step column c (.word "") = ([], .word "") := by simp [step, hc, wordTokens]
    have hcolumn : column + (c :: blanks).length = column + 1 + blanks.length := by
      rw [List.length_cons]
      omega
    rw [List.cons_append, run_silent hstep, ih hblanks, hcolumn]

end Lexer

/-- A text that begins with a blank is read behind another one as if it stood alone. -/
theorem tokenize_behind {a b : String} {tokens : List Token} (ha : tokenize a = .ok tokens)
    (hblank : ∀ c ∈ b.toList.head?, Text.isBlank c = true) :
    tokenize (a ++ b)
      = ((tokenize b).mapError (UnclosedQuote.shift a.length)).map (tokens ++ ·) := by
  cases hb : b.toList with
  | nil =>
    obtain rfl : b = "" := String.toList_inj.mp hb
    rw [String.append_empty, ha]
    exact congrArg Except.ok (List.append_nil tokens).symm
  | cons c cs =>
    have hc : Text.isBlank c = true := hblank c (by rw [hb]; rfl)
    have hstep : Lexer.step 1 c (.word "") = ([], .word "") := by
      simp [Lexer.step, hc, Lexer.wordTokens]
    have halone : tokenize b = Lexer.run 2 (.word "") cs := by
      rw [tokenize, hb, Lexer.run_silent hstep]
    have hcolumn : 1 + a.toList.length + 1 = 2 + a.length := by
      rw [String.length_toList]
      omega
    rw [halone, tokenize, String.toList_append, hb, Lexer.run_complete ha hc, hcolumn]
    exact congrArg _ (Lexer.run_shift _ 2 (.word "") cs)

/-- Blanks in front of a text complete no token. -/
theorem tokenize_blanks {blanks : String} (h : ∀ c ∈ blanks.toList, Text.isBlank c = true)
    (b : String) :
    tokenize (blanks ++ b) = (tokenize b).mapError (UnclosedQuote.shift blanks.length) := by
  rw [tokenize, String.toList_append, Lexer.run_blanks h, String.length_toList]
  exact Lexer.run_shift _ 1 (.word "") b.toList

/-- Blanks part two texts: each is read as if it stood alone. -/
theorem tokenize_parted {a blanks : String} {tokens : List Token} (hne : blanks ≠ "")
    (hblank : ∀ c ∈ blanks.toList, Text.isBlank c = true) (ha : tokenize a = .ok tokens)
    (b : String) :
    tokenize (a ++ blanks ++ b)
      = ((tokenize b).mapError (UnclosedQuote.shift (a.length + blanks.length))).map
          (tokens ++ ·) := by
  have hbegins : ∀ c ∈ (blanks ++ b).toList.head?, Text.isBlank c = true := by
    intro c hc
    rw [String.toList_append, List.head?_append_of_ne_nil _ fun hnil =>
      hne (String.toList_inj.mp hnil)] at hc
    exact hblank c (List.mem_of_mem_head? hc)
  rw [String.append_assoc, tokenize_behind ha hbegins, tokenize_blanks hblank]
  cases tokenize b with
  | error q =>
    have hcolumn : q.column + blanks.length + a.length = q.column + (a.length + blanks.length) := by
      omega
    exact congrArg (fun n => Except.error (UnclosedQuote.mk n)) hcolumn
  | ok more => rfl

/-- The tokens of a text on a line, or the fault that is reported there. -/
def tokensAt (line : Option Int) (text : String) : Except LocatedFault (List Token) :=
  (tokenize text).mapError fun q => ⟨.rule (.ofUnclosedQuote q), line⟩

theorem tokensAt_ok {line : Option Int} {text : String} {tokens : List Token} :
    tokensAt line text = .ok tokens ↔ tokenize text = .ok tokens := by
  unfold tokensAt
  cases tokenize text <;> simp [Except.mapError]

theorem tokensAt_error {line : Option Int} {text : String} {located : LocatedFault} :
    tokensAt line text = .error located
      ↔ ∃ q, tokenize text = .error q ∧ located = ⟨.rule (.ofUnclosedQuote q), line⟩ := by
  unfold tokensAt
  cases tokenize text <;> simp [Except.mapError, eq_comm]

/-- Tokens are put side by side as texts are with blanks between them. A quote that is never
closed is reported on the same line, as many columns further on as stand in front. -/
theorem tokensAt_append (line : Option Int) {a b blanks : String} {tokens : List Token}
    (hne : blanks ≠ "") (hblank : ∀ c ∈ blanks.toList, Text.isBlank c = true)
    (ha : tokensAt line a = .ok tokens) :
    (∀ more, tokensAt line b = .ok more →
      tokensAt line (a ++ blanks ++ b) = .ok (tokens ++ more)) ∧
    ∀ located, tokensAt line b = .error located →
      ∃ column, located = ⟨.rule (.unclosedQuote column), line⟩ ∧
        tokensAt line (a ++ blanks ++ b)
          = .error ⟨.rule (.unclosedQuote (column + (a.length + blanks.length))), line⟩ := by
  have hparted := tokenize_parted hne hblank (tokensAt_ok.mp ha) b
  constructor
  · intro more hb
    rw [tokensAt_ok.mp hb] at hparted
    exact tokensAt_ok.mpr hparted
  · intro located hb
    obtain ⟨q, hq, rfl⟩ := tokensAt_error.mp hb
    rw [hq] at hparted
    exact ⟨q.column, rfl, tokensAt_error.mpr ⟨q.shift _, hparted, rfl⟩⟩

/-- An escaped quote in front, and a wide blank. -/
theorem tokensAt_append_unclosed :
    tokensAt (some 7) "-s \"a\\\"\"b" = .ok [.word "-s", .literal "a\"", .word "b"] ∧
    tokensAt (some 7) "c 'd\\" = .error ⟨.rule (.unclosedQuote 3), some 7⟩ ∧
    tokensAt (some 7) ("-s \"a\\\"\"b" ++ "\u3000\t" ++ "c 'd\\")
      = .error ⟨.rule (.unclosedQuote 14), some 7⟩ := by
  have hfront : tokensAt (some 7) "-s \"a\\\"\"b"
      = .ok [.word "-s", .literal "a\"", .word "b"] := by decide +kernel
  have hback : tokensAt (some 7) "c 'd\\" = .error ⟨.rule (.unclosedQuote 3), some 7⟩ := by
    decide +kernel
  have hblank : ∀ c ∈ "\u3000\t".toList, Text.isBlank c = true :=
    List.all_eq_true.mp (by decide)
  obtain ⟨column, heq, hboth⟩ := (tokensAt_append (some 7) (by decide) hblank hfront).2 _ hback
  cases heq
  exact ⟨hfront, hback, hboth⟩

/-! ## A text as one token -/

namespace Token

/-- A word of simple characters. -/
structure SimpleWord (word : String) : Prop where
  ne : word ≠ ""
  chars : ∀ c ∈ word.toList, isSimpleChar c = true

/-- A simple word with a line feed behind it. -/
def SimpleLine (text : String) : Prop := ∃ word, SimpleWord word ∧ text = word ++ "\n"

/-- A text counts as simple if it is a simple word, or a simple line. -/
theorem isSimple_cases {text : String} (h : isSimple text = true) :
    SimpleWord text ∨ SimpleLine text := by
  by_cases hfeed : text.toList.getLast? = some '\n'
  · refine .inr ⟨String.ofList text.toList.dropLast, ⟨?_, ?_⟩, ?_⟩
    all_goals simp only [isSimple, Text.dropFinalLineFeed, if_pos hfeed, Bool.and_eq_true,
      Bool.not_eq_true', List.isEmpty_eq_false_iff, List.all_eq_true] at h
    · intro hempty
      rw [← String.toList_inj, String.toList_ofList] at hempty
      exact h.1 hempty
    · rw [String.toList_ofList]
      exact h.2
    · rw [← String.toList_inj, String.toList_append, String.toList_ofList]
      exact (List.dropLast_append_getLast? _ hfeed).symm
  · simp only [isSimple, Text.dropFinalLineFeed, if_neg hfeed, Bool.and_eq_true,
      Bool.not_eq_true', List.isEmpty_eq_false_iff, List.all_eq_true] at h
    refine .inl ⟨?_, h.2⟩
    rintro rfl
    exact h.1 rfl

theorem isSimple_of_simpleLine {text : String} (h : SimpleLine text) : isSimple text = true := by
  obtain ⟨word, hword, rfl⟩ := h
  have hdrop : Text.dropFinalLineFeed (word ++ "\n").toList = word.toList := by
    simp [Text.dropFinalLineFeed]
  have hne : word.toList ≠ [] := fun hnil => hword.ne (String.toList_inj.mp hnil)
  unfold isSimple
  rw [hdrop]
  simpa [hne] using hword.chars

end Token

theorem tokenize_simpleWord {word : String} (h : Token.SimpleWord word) :
    tokenize word = .ok [.word word] :=
  (Spells.word h.ne fun c hc => Token.inside_of_isSimpleChar (h.chars c hc)).tokenize

/-- The line feed behind a simple word is a blank. -/
theorem tokenize_simpleLine {word : String} (h : Token.SimpleWord word) :
    tokenize (word ++ "\n") = .ok [.word word] := by
  have hfeed : ∀ c ∈ "\n".toList, Text.isBlank c = true := List.all_eq_true.mp (by decide)
  have hparted := tokenize_parted (by decide) hfeed (tokenize_simpleWord h) ""
  rwa [String.append_empty] at hparted

theorem tokenize_quoted (text : String) :
    tokenize (String.ofList ('"' :: Token.escape text.toList ++ ['"'])) = .ok [.literal text] := by
  have hlexes := Lexer.Lexes.literal text.toList ""
  rw [String.ofList_toList] at hlexes
  rw [tokenize, String.toList_ofList, Lexer.run_eq_scan, hlexes 1]
  rfl

/-- A text is written as one token, and it is read back unless it is a simple line. That is
written as it is, and what is read back is without the line feed. -/
theorem tokenize_write (text : String) :
    ∃ token, tokenize (Token.write text) = .ok [token] ∧
      (¬Token.SimpleLine text → token.text = text) ∧
      (Token.SimpleLine text → token.text ++ "\n" = text) := by
  by_cases hsimple : Token.isSimple text = true
  · rw [Token.write, if_pos hsimple]
    rcases Token.isSimple_cases hsimple with hword | ⟨word, hword, rfl⟩
    · refine ⟨.word text, tokenize_simpleWord hword, fun _ => rfl, ?_⟩
      rintro ⟨word, -, rfl⟩
      exact absurd (hword.chars '\n' (by simp)) (by decide)
    · refine ⟨.word word, tokenize_simpleLine hword, ?_, fun _ => rfl⟩
      exact fun hline => absurd ⟨word, hword, rfl⟩ hline
  · have hline : ¬Token.SimpleLine text := fun h => hsimple (Token.isSimple_of_simpleLine h)
    rw [Token.write, if_neg hsimple]
    exact ⟨.literal text, tokenize_quoted text, fun _ => rfl, fun h => absurd h hline⟩

/-- Not every text is read back. -/
theorem simple_line_not_read_back :
    ¬∃ token, tokenize (Token.write "abc\n") = .ok [token] ∧ token.text = "abc\n" := by
  have hread : tokenize (Token.write "abc\n") = .ok [.word "abc"] := by decide +kernel
  rintro ⟨token, htoken, htext⟩
  rw [hread] at htoken
  cases htoken
  revert htext
  decide

end FermRules
