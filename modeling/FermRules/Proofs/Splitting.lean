import FermRules.Proofs.Lexing
import Mathlib.Data.List.TakeWhile

/-! # Splitting a text token by token

Seen from one token to the next, a text is split by skipping blanks and then
reading a literal or matching a word. A word that matches no character would break
this off, but behind the blanks stands a character that is none, and if it is no
quote either, then a word begins with it. So the text is split as the lexer does
it, character by character, and into the same tokens with the same column for a
quote that is never closed. -/
namespace FermRules.Lexer

def isInside (c : Char) : Bool := !Text.isBlank c && (quote? c).isNone

/-- The longest word in front, and what is behind it. The match fails where there
is none. -/
def matchWord? (cs : List Char) : Option (List Char × List Char) :=
  if (cs.takeWhile isInside).isEmpty then none
  else some (cs.takeWhile isInside, cs.dropWhile isInside)

/-- The literal up to its closing quote, and what is behind it, if it is closed. -/
def closed? (quote : Quote) : List Char → Option (List Char × List Char)
  | [] => none
  | c :: rest =>
    if c = quote.char then some ([], rest)
    else if quote = .double && c = '\\' then
      match rest with
      | [] => none
      | d :: rest => (closed? quote rest).map fun (text, behind) => (d :: text, behind)
    else (closed? quote rest).map fun (text, behind) => (c :: text, behind)

theorem closed?_length {quote : Quote} {cs text behind : List Char}
    (h : closed? quote cs = some (text, behind)) : behind.length < cs.length := by
  fun_induction closed? quote cs generalizing text with
  | case1 => cases h
  | case2 rest =>
    cases h
    simp
  | case3 => cases h
  | case4 _ _ d rest _ ih =>
    obtain ⟨⟨inner, last⟩, hinner, heq⟩ := Option.map_eq_some_iff.mp h
    cases heq
    have := ih hinner
    simp only [List.length_cons]
    omega
  | case5 c rest _ _ ih =>
    obtain ⟨⟨inner, last⟩, hinner, heq⟩ := Option.map_eq_some_iff.mp h
    cases heq
    have := ih hinner
    simp only [List.length_cons]
    omega

theorem matchWord?_spec {cs word behind : List Char}
    (h : matchWord? cs = some (word, behind)) :
    word ≠ [] ∧ (∀ c ∈ word, isInside c = true) ∧ (∀ c ∈ behind.head?, isInside c = false) ∧
      word ++ behind = cs := by
  unfold matchWord? at h
  split at h
  · cases h
  rename_i hne
  cases h
  refine ⟨by simpa using hne, fun c => List.mem_takeWhile_imp, fun c hc => ?_,
    List.takeWhile_append_dropWhile⟩
  have := List.head?_dropWhile_not isInside cs
  rw [Option.mem_def.mp hc] at this
  exact this

theorem matchWord?_length {cs word behind : List Char}
    (h : matchWord? cs = some (word, behind)) : behind.length < cs.length := by
  obtain ⟨hne, -, -, rfl⟩ := matchWord?_spec h
  have := List.length_pos_iff.mpr hne
  rw [List.length_append]
  omega

theorem stripStart_length {cs rest : List Char} {c : Char}
    (h : Text.stripStart cs = c :: rest) : rest.length < cs.length := by
  have := (List.dropWhile_suffix Text.isBlank (l := cs)).length_le
  rw [show cs.dropWhile Text.isBlank = c :: rest from h, List.length_cons] at this
  exact this

/-- Splits what is left of a text of this length; there is no result if the match
of a word fails. -/
def split (length : Nat) (cs : List Char) : Option (Except UnclosedQuote (List Token)) :=
  match _hcs : Text.stripStart cs with
  | [] => some (.ok [])
  | c :: rest =>
    match quote? c with
    | some quote =>
      match _hclosed : closed? quote rest with
      | none => some (.error ⟨length - rest.length⟩)
      | some (text, behind) =>
        (split length behind).map fun tokens => tokens.map (.literal (String.ofList text) :: ·)
    | none =>
      match _hword : matchWord? (c :: rest) with
      | none => none
      | some (word, behind) =>
        (split length behind).map fun tokens => tokens.map (.word (String.ofList word) :: ·)
termination_by cs.length
decreasing_by
  · exact (closed?_length _hclosed).trans (stripStart_length _hcs)
  · exact (matchWord?_length _hword).trans_le (stripStart_length _hcs)

/-! ## The tokens that the lexer makes of the same text -/

theorem Lexes.run {mode last : Mode} {cs : List Char} {tokens : List Token}
    (h : Lexes mode cs tokens last) (column : Nat) (ds : List Char) :
    run column mode (cs ++ ds) = (run (column + cs.length) last ds).map (tokens ++ ·) := by
  rw [run_eq_scan, scan_append, h column, run_eq_scan]
  cases finish (scan (column + cs.length) last ds).2 with
  | error fault => rfl
  | ok done => simp [Except.map]

/-- A word is complete before a character that is not inside one. -/
theorem step_ends {c : Char} (h : isInside c = false) (column : Nat) (word : String) :
    step column c (.word word)
      = (wordTokens word ++ (step column c (.word "")).1, (step column c (.word "")).2) := by
  have hempty : wordTokens "" = [] := rfl
  simp only [step, hempty]
  split
  · rw [List.append_nil]
  · rename_i hblank
    split
    · rw [List.append_nil]
    · rename_i hquote
      simp [isInside, hblank, hquote] at h

theorem run_ends {cs : List Char} (h : ∀ c ∈ cs.head?, isInside c = false) (column : Nat)
    (word : String) :
    run column (.word word) cs
      = (run column (.word "") cs).map (wordTokens word ++ ·) := by
  cases cs with
  | nil => simp [run, finish, wordTokens, Except.map]
  | cons c rest =>
    simp only [run, step_ends (h c rfl) column word]
    cases run (column + 1) (step column c (.word "")).2 rest with
    | error fault => rfl
    | ok tokens => simp [Except.map]

theorem run_matched {length : Nat} {cs word behind : List Char} (hlength : cs.length ≤ length)
    (h : matchWord? cs = some (word, behind)) :
    run (length + 1 - cs.length) (.word "") cs
      = (run (length + 1 - behind.length) (.word "") behind).map
          (.word (String.ofList word) :: ·) := by
  obtain ⟨hne, hinside, hends, rfl⟩ := matchWord?_spec h
  rw [List.length_append] at hlength
  have hlexes : ∀ c ∈ word, Lexes.Inside c := fun c hc => by
    simpa [isInside, Lexes.Inside] using hinside c hc
  have htokens : wordTokens (String.ofList word) = [.word (String.ofList word)] := by
    rw [wordTokens, if_neg]
    intro hempty
    have := congrArg String.toList hempty
    rw [String.toList_ofList] at this
    exact hne this
  have hnext : length + 1 - (word ++ behind).length + word.length = length + 1 - behind.length := by
    rw [List.length_append]
    omega
  rw [(Lexes.word hlexes "").run, String.empty_append, run_ends hends, htokens, hnext]
  cases run (length + 1 - behind.length) (.word "") behind <;> rfl

theorem run_silent {column : Nat} {mode next : Mode} {c : Char}
    (h : step column c mode = ([], next)) (rest : List Char) :
    run column mode (c :: rest) = run (column + 1) next rest := by
  simp only [run, h]
  cases run (column + 1) next rest <;> rfl

/-- What becomes of a literal of which this text has been read, and of what is
behind it. -/
def closing (length opened : Nat) (text : String) :
    Option (List Char × List Char) → Except UnclosedQuote (List Token)
  | none => .error ⟨opened⟩
  | some (more, behind) =>
    (run (length + 1 - behind.length) (.word "") behind).map
      (.literal (text ++ String.ofList more) :: ·)

theorem closing_push (length opened : Nat) (text : String) (c : Char)
    (found : Option (List Char × List Char)) :
    closing length opened (text.push c) found
      = closing length opened text (found.map fun (more, behind) => (c :: more, behind)) := by
  cases found with
  | none => rfl
  | some found =>
    have htext : text.push c ++ String.ofList found.1 = text ++ String.ofList (c :: found.1) := by
      rw [← String.toList_inj]
      simp
    simp only [closing, Option.map_some, htext]

theorem run_literal {length : Nat} (quote : Quote) (opened : Nat) (cs : List Char)
    (column : Nat) (text : String) (hcolumn : column + cs.length = length + 1) :
    run column (.literal quote opened text) cs
      = closing length opened text (closed? quote cs) := by
  fun_induction closed? quote cs generalizing column text with
  | case1 => rfl
  | case2 rest =>
    have hnext : column + 1 = length + 1 - rest.length := by
      simp only [List.length_cons] at hcolumn
      omega
    simp [run, step, closing, hnext]
  | case3 c hc hslash => simp [run, step, hc, hslash, finish, closing, Except.map]
  | case4 c hc hslash d rest ih =>
    have hescape : step column c (.literal quote opened text) = ([], .escaped opened text) := by
      simp only [step, if_neg hc, if_pos hslash]
    obtain rfl : quote = .double := by
      simp only [Bool.and_eq_true, decide_eq_true_eq] at hslash
      exact hslash.1
    have hrest : column + 1 + 1 + rest.length = length + 1 := by
      simp only [List.length_cons] at hcolumn
      omega
    rw [run_silent hescape, run_silent rfl, ih _ _ hrest, closing_push]
  | case5 c rest hc hplain ih =>
    have hinside : step column c (.literal quote opened text)
        = ([], .literal quote opened (text.push c)) := by
      simp only [step, if_neg hc, if_neg hplain]
    have hrest : column + 1 + rest.length = length + 1 := by
      simp only [List.length_cons] at hcolumn
      omega
    rw [run_silent hinside, ih _ _ hrest, closing_push]

/-- Behind the blanks stands no blank. -/
theorem isBlank_of_stripStart {cs rest : List Char} {c : Char}
    (h : Text.stripStart cs = c :: rest) : Text.isBlank c = false := by
  have := List.head?_dropWhile_not Text.isBlank cs
  rw [show cs.dropWhile Text.isBlank = c :: rest from h] at this
  exact this

/-- A word begins behind the blanks if no literal does. -/
theorem matchWord?_of_stripStart {cs rest : List Char} {c : Char}
    (h : Text.stripStart cs = c :: rest) (hquote : quote? c = none) :
    ∃ found, matchWord? (c :: rest) = some found := by
  simp [matchWord?, isInside, isBlank_of_stripStart h, hquote]

/-- The blanks in front complete no token. -/
theorem run_stripStart {length : Nat} (cs : List Char) (hcs : cs.length ≤ length) :
    run (length + 1 - cs.length) (.word "") cs
      = run (length + 1 - (Text.stripStart cs).length) (.word "") (Text.stripStart cs) := by
  induction cs with
  | nil => rfl
  | cons c rest ih =>
    rw [List.length_cons] at hcs
    cases hc : Text.isBlank c with
    | true =>
      have hstep : step (length + 1 - (c :: rest).length) c (.word "") = ([], .word "") := by
        simp [step, hc, wordTokens]
      have hstrip : Text.stripStart (c :: rest) = Text.stripStart rest := by
        simp [Text.stripStart, hc]
      have hnext : length + 1 - (c :: rest).length + 1 = length + 1 - rest.length := by
        rw [List.length_cons]
        omega
      rw [run_silent hstep, hnext, hstrip, ih (by omega)]
    | false =>
      have hstrip : Text.stripStart (c :: rest) = c :: rest := by
        simp [Text.stripStart, hc]
      rw [hstrip]

/-- A quote behind the blanks opens a literal. -/
theorem run_opened {length : Nat} {cs rest : List Char} {c : Char} {quote : Quote}
    (hlength : cs.length ≤ length) (hcs : Text.stripStart cs = c :: rest)
    (hquote : quote? c = some quote) :
    run (length + 1 - cs.length) (.word "") cs
      = closing length (length - rest.length) "" (closed? quote rest) := by
  have hrest : rest.length < length := (stripStart_length hcs).trans_le hlength
  have hcolumn : length + 1 - (c :: rest).length = length - rest.length := by
    rw [List.length_cons]
    omega
  have hstep : step (length - rest.length) c (.word "")
      = ([], .literal quote (length - rest.length) "") := by
    simp [step, isBlank_of_stripStart hcs, hquote, wordTokens]
  rw [run_stripStart cs hlength, hcs, hcolumn, run_silent hstep]
  exact run_literal quote _ rest _ "" (by omega)

/-- No word fails to match, and the tokens are those of the lexer. -/
theorem split_eq {length : Nat} (cs : List Char) (hlength : cs.length ≤ length) :
    split length cs = some (run (length + 1 - cs.length) (.word "") cs) := by
  fun_induction split length cs with
  | case1 cs hcs =>
    rw [run_stripStart cs hlength, hcs]
    rfl
  | case2 cs c rest hcs quote hquote hclosed =>
    rw [run_opened hlength hcs hquote, hclosed]
    rfl
  | case3 cs c rest hcs quote hquote text behind hclosed ih =>
    have hbehind : behind.length ≤ length :=
      ((closed?_length hclosed).trans (stripStart_length hcs)).le.trans hlength
    rw [run_opened hlength hcs hquote, hclosed, ih hbehind, closing, String.empty_append]
    rfl
  | case4 cs c rest hcs hquote hword =>
    obtain ⟨found, hfound⟩ := matchWord?_of_stripStart hcs hquote
    rw [hword] at hfound
    cases hfound
  | case5 cs c rest hcs hquote word behind hword ih =>
    have hstripped : (c :: rest).length ≤ length := (stripStart_length hcs).trans_le hlength
    have hbehind : behind.length ≤ length := (matchWord?_length hword).le.trans hstripped
    rw [run_stripStart cs hlength, hcs, run_matched hstripped hword, ih hbehind]
    rfl

theorem split_tokenize (text : String) :
    split text.toList.length text.toList = some (tokenize text) := by
  rw [split_eq _ (Nat.le_refl _), Nat.add_sub_cancel_left]
  rfl

end FermRules.Lexer
