import FermRules.Proofs.Tokenizing

/-! # Written arrays are read back

The parentheses of a written array stand at the first and the last token if
these are simple words, and are tokens of their own beside a literal. The reader
takes both, and stops behind the closing one because no written item ends in a
parenthesis outside of quotes. What is written behind the array begins with a blank,
so it is no part of the last token, and the reader stands at its first one. -/
namespace FermRules

open Lexer (Lexes wordTokens)

namespace Value

/-- The tokens of the items, where `p` stands in front of the first and a
parenthesis behind the last. -/
def arrayTokens (p : String) : List String → List Token
  | [] => [.word (p ++ ")")]
  | [text] =>
    if Token.isSimple text then [.word (p ++ text ++ ")")]
    else wordTokens p ++ [.literal text, .word ")"]
  | text :: next :: rest =>
    (if Token.isSimple text then [.word (p ++ text)] else wordTokens p ++ [.literal text])
      ++ arrayTokens "" (next :: rest)

theorem inside_closing : Lexes.Inside ')' := by
  unfold Lexes.Inside
  decide

theorem lexes_closing (p : String) : Lexes (.word p) [')'] [] (.word (p ++ ")")) :=
  Lexes.word (w := [')']) (by simpa using inside_closing) p

theorem wordTokens_of_ne {w : String} (h : w ≠ "") : wordTokens w = [.word w] := by
  simp [wordTokens, h]

theorem append_closing_ne (p : String) : p ++ ")" ≠ "" := by
  intro he
  have := congrArg String.toList he
  simp at this

/-- The text of the items and the parenthesis, read where `p` has been read of a
word, completes all tokens but the last. -/
theorem lexes_items (p : String) {items : List String} (hl : ∀ s ∈ items, Text.Unbroken s) :
    ∃ us w, Lexes (.word p) ((joinWords (items.map Token.write)).toList ++ [')']) us (.word w) ∧
      w ≠ "" ∧ arrayTokens p items = us ++ [.word w] := by
  induction items generalizing p with
  | nil => exact ⟨[], p ++ ")", lexes_closing p, append_closing_ne p, rfl⟩
  | cons text rest ih =>
    obtain ⟨htext, hrest⟩ := List.forall_mem_cons.mp hl
    have hw := Lexes.write htext p
    cases rest with
    | nil =>
      simp only [List.map_cons, List.map_nil, joinWords, arrayTokens]
      split at hw <;> rename_i hs
      · rw [if_pos hs]
        exact ⟨_, _, hw.append (lexes_closing _), append_closing_ne _, by simp⟩
      · rw [if_neg hs]
        exact ⟨_, _, hw.append (lexes_closing _), append_closing_ne _, by simp⟩
    | cons next rest =>
      obtain ⟨us, w, hus, hne, htokens⟩ := ih "" hrest
      simp only [List.map_cons, joinWords, String.toList_append, List.append_assoc] at hus ⊢
      refine ⟨(if Token.isSimple text then [.word (p ++ text)]
        else wordTokens p ++ [.literal text]) ++ us, w, ?_, hne, ?_⟩
      · split at hw <;> rename_i hs
        · rw [if_pos hs]
          have hword : p ++ text ≠ "" := by
            intro he
            refine (Token.simple_of_isSimple htext hs).1 (String.toList_inj.mp ?_)
            have := congrArg String.toList he
            simp only [String.toList_append, List.append_eq_nil_iff, String.toList_empty] at this
            exact this.2
          have hblank := Lexes.blank (p ++ text)
          rw [wordTokens_of_ne hword] at hblank
          exact hw.append (hblank.append hus)
        · rw [if_neg hs]
          have := hw.append ((Lexes.blank "").append hus)
          simpa [wordTokens] using this
      · rw [arrayTokens, htokens, List.append_assoc]

theorem spells_array {items : List String} (hl : ∀ s ∈ items, Text.Unbroken s) :
    Spells ("(" ++ joinWords (items.map Token.write) ++ ")").toList (arrayTokens "(" items) := by
  obtain ⟨us, w, hus, hne, htokens⟩ := lexes_items "(" hl
  have hopen : Lexes (.word "") ['('] [] (.word "(") := by
    have hinside : Lexes.Inside '(' := by
      unfold Lexes.Inside
      decide
    exact Lexes.word (w := ['(']) (by simpa using hinside) ""
  have hline : Text.Unbroken (joinWords (items.map Token.write)) := by
    refine unbroken_joinWords fun w hw => ?_
    obtain ⟨text, hm, rfl⟩ := List.mem_map.mp hw
    exact Token.unbroken_write (hl text hm)
  refine ⟨?_, us, w, ?_, by rw [htokens, wordTokens_of_ne hne]⟩
  · unfold Text.Unbroken at hline
    simpa using hline
  · simpa using hopen.append hus

/-! ## Reading -/

theorem readItems_closing (option : String) (text : String) (rest : List Token) :
    readItems option (text.toList ++ [')']) false rest
      = .ok (arrayItem text.toList false, rest) := by
  unfold readItems
  rw [if_pos (by simp), List.dropLast_concat]

theorem readItems_open {option : String} {text : List Char} {quoted : Bool} {t : Token}
    {rest last : List Token} {items : List String}
    (hopen : (!quoted && text.getLast? = some ')') = false)
    (h : readItems option t.text.toList t.quoted rest = .ok (items, last)) :
    readItems option text quoted (t :: rest) = .ok (arrayItem text quoted ++ items, last) := by
  rw [readItems, if_neg (by rw [hopen]; simp), h]
  rfl

theorem simple_open {text : String} (hl : Text.Unbroken text)
    (hs : Token.isSimple text = true) :
    arrayItem text.toList false = [text] ∧
      (!false && text.toList.getLast? = some ')') = false := by
  obtain ⟨hne, hchars⟩ := Token.simple_of_isSimple hl hs
  constructor
  · simp [arrayItem, hne]
  · simp only [Bool.not_false, Bool.true_and, decide_eq_false_iff_not]
    intro hlast
    have := hchars _ (List.mem_of_getLast? hlast)
    revert this
    decide

/-- The items that begin at the first of these tokens. -/
def ReadsItems (option : String) (tokens : List Token) (items : List String)
    (rest : List Token) : Prop :=
  ∃ t more, tokens = t :: more ∧
    readItems option t.text.toList t.quoted (more ++ rest) = .ok (items, rest)

theorem readsItems_literal (option : String) {text : String} {tokens : List Token}
    {items : List String} {rest : List Token} (h : ReadsItems option tokens items rest) :
    ReadsItems option (.literal text :: tokens) (text :: items) rest := by
  obtain ⟨t, more, rfl, hread⟩ := h
  refine ⟨_, _, rfl, ?_⟩
  have hopen : (!true && text.toList.getLast? = some ')') = false := rfl
  have := readItems_open hopen hread
  simpa [arrayItem, Token.literal] using this

theorem readsItems_closing (option : String) (rest : List Token) :
    ReadsItems option [.word ")"] [] rest := by
  refine ⟨_, _, rfl, ?_⟩
  simpa [arrayItem, Token.word] using readItems_closing option "" rest

theorem readsItems_arrayTokens (option : String) {items : List String} (hne : items ≠ [])
    (hl : ∀ s ∈ items, Text.Unbroken s) (rest : List Token) :
    ReadsItems option (arrayTokens "" items) items rest := by
  induction items with
  | nil => exact absurd rfl hne
  | cons text others ih =>
    obtain ⟨htext, hothers⟩ := List.forall_mem_cons.mp hl
    cases others with
    | nil =>
      unfold arrayTokens
      split
      · rename_i hs
        refine ⟨_, _, rfl, ?_⟩
        have := readItems_closing option text rest
        rw [(simple_open htext hs).1] at this
        simpa [Token.word] using this
      · exact readsItems_literal option (readsItems_closing option rest)
    | cons next others =>
      have htail := ih (List.cons_ne_nil _ _) hothers
      unfold arrayTokens
      split
      · rename_i hs
        obtain ⟨t, more, heq, hread⟩ := htail
        refine ⟨_, _, rfl, ?_⟩
        have := readItems_open (simple_open htext hs).2 hread
        rw [(simple_open htext hs).1] at this
        simpa [Token.word, heq] using this
      · exact readsItems_literal option htail

/-- A parenthesis in front joins a first word or is a token of its own. -/
theorem arrayTokens_open {items : List String} (hne : items ≠ []) :
    (∃ w more, arrayTokens "" items = .word w :: more ∧
        arrayTokens "(" items = .word ("(" ++ w) :: more)
      ∨ arrayTokens "(" items = .word "(" :: arrayTokens "" items := by
  cases items with
  | nil => exact absurd rfl hne
  | cons text others =>
    cases others with
    | nil =>
      by_cases hs : Token.isSimple text
      · exact .inl ⟨text ++ ")", [], by simp [arrayTokens, hs],
          by simp [arrayTokens, hs, String.append_assoc]⟩
      · exact .inr (by simp [arrayTokens, hs, wordTokens])
    | cons next others =>
      by_cases hs : Token.isSimple text
      · exact .inl ⟨text, arrayTokens "" (next :: others), by simp [arrayTokens, hs],
          by simp [arrayTokens, hs]⟩
      · exact .inr (by simp [arrayTokens, hs, wordTokens])

/-- The tokens of a written array begin an array, and reading it gives the items
and stops behind them. -/
theorem readArray_arrayTokens (option : String) {items : List String}
    (hl : ∀ s ∈ items, Text.Unbroken s) (rest : List Token) :
    ∃ t more, arrayTokens "(" items = t :: more ∧ opensArray t = true ∧
      readArray option t (more ++ rest) = .ok (items, rest) := by
  by_cases hne : items = []
  · subst hne
    refine ⟨_, [], rfl, by decide, ?_⟩
    simpa [readArray, Token.word, arrayItem] using readItems_closing option "" rest
  · obtain ⟨t, more, heq, hread⟩ := readsItems_arrayTokens option hne hl rest
    rcases arrayTokens_open hne with ⟨w, others, hw, hopen⟩ | hopen
    · rw [hw] at heq
      cases heq
      refine ⟨_, _, hopen, by simp [opensArray, Token.startsWith, Token.word], ?_⟩
      simpa [readArray, Token.word] using hread
    · refine ⟨_, _, hopen, by decide, ?_⟩
      have hopen : (!false && ([] : List Char).getLast? = some ')') = false := rfl
      have := readItems_open hopen hread
      simpa [readArray, Token.word, heq, arrayItem] using this

/-! ## In front of other text -/

/-- Every number of items but one is written between parentheses. -/
theorem render_array {items : List String} (h : items.length ≠ 1) :
    (list items).render = .ok ("(" ++ joinWords (items.map Token.write) ++ ")") := by
  unfold render renderItems
  split
  · exact absurd rfl h
  · rfl

/-- The first token of a written array opens an array. Reading it gives the items, and stops in
front of the first token of what is written behind it. -/
theorem readArray_render (option : String) {items : List String} (hcount : items.length ≠ 1)
    (hline : ∀ s ∈ items, Text.Unbroken s) {suffix : String} {behind : List Token}
    (hblank : ∀ c ∈ suffix.toList.head?, Text.isBlank c = true)
    (hbehind : tokenize suffix = .ok behind) :
    ∃ written first more, (list items).render = .ok written ∧
      tokenize (written ++ suffix) = .ok (first :: more ++ behind) ∧ opensArray first = true ∧
      readArray option first (more ++ behind) = .ok (items, behind) := by
  obtain ⟨first, more, htokens, hopen, hread⟩ := readArray_arrayTokens option hline behind
  have hwritten := (spells_array hline).tokenize
  rw [htokens] at hwritten
  refine ⟨_, first, more, render_array hcount, ?_, hopen, hread⟩
  rw [tokenize_behind hwritten hblank, hbehind]
  rfl

def awkwardItems : List String := ["", "plain", "!", "a, \"(b", "c)", "\\"]

/-- Items that look like the marks of an array, in front of tokens that look like its end. -/
theorem readArray_render_awkward :
    awkwardItems.length ≠ 1 ∧ (∀ s ∈ awkwardItems, Text.Unbroken s) ∧
    tokenize "\u3000-j 'x)' )" = .ok [.word "-j", .literal "x)", .word ")"] ∧
    ∃ first more,
      tokenize ("(\"\" plain \"!\" \"a, \\\"(b\" \"c)\" \"\\\\\")" ++ "\u3000-j 'x)' )")
        = .ok (first :: more ++ [.word "-j", .literal "x)", .word ")"]) ∧
      readArray "set" first (more ++ [.word "-j", .literal "x)", .word ")"])
        = .ok (awkwardItems, [.word "-j", .literal "x)", .word ")"]) := by
  have hline : ∀ s ∈ awkwardItems, Text.Unbroken s := by decide
  have hblank : ∀ c ∈ "\u3000-j 'x)' )".toList.head?, Text.isBlank c = true := by
    rintro c ⟨⟩
    decide
  have hbehind : tokenize "\u3000-j 'x)' )" = .ok [.word "-j", .literal "x)", .word ")"] := rfl
  have hrender : (list awkwardItems).render
      = .ok "(\"\" plain \"!\" \"a, \\\"(b\" \"c)\" \"\\\\\")" := rfl
  obtain ⟨written, first, more, hwritten, htokens, -, hread⟩ :=
    readArray_render "set" (by decide) hline hblank hbehind
  obtain rfl := Except.ok.inj (hrender.symm.trans hwritten)
  exact ⟨by decide, hline, hbehind, first, more, htokens, hread⟩

end Value

end FermRules
