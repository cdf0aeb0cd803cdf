import FermRules.Proofs.ImpliedModules
import FermRules.Proofs.NegationMarks
import FermRules.Proofs.Tokenizing

/-! # The spellings of a list

The words of a list stand in one token with commas between them, or each in a
token of its own between parentheses. A reader that asks for a list takes the same
words from either and stops at the same place, and no marker that it could look
for stands in front, so what it makes of them is the same.

Modules may also be named one by one. Each option then finds the list open that
the one in front of it has begun, and adds its module there. Modules declare no
protocols, so which of them are left out does not depend on where they stand
among the others. -/
namespace FermRules

namespace Token

instance (word : String) : Decidable (SimpleWord word) :=
  decidable_of_iff (word ≠ "" ∧ word.toList.all isSimpleChar = true)
    ⟨fun h => ⟨h.1, List.all_eq_true.mp h.2⟩, fun h => ⟨h.ne, List.all_eq_true.mpr h.chars⟩⟩

theorem SimpleWord.unbroken {word : String} (h : SimpleWord word) : Text.Unbroken word :=
  fun hfeed => absurd (h.chars '\n' hfeed) (by decide)

theorem SimpleWord.isSimple {word : String} (h : SimpleWord word) : isSimple word = true := by
  have hne : word.toList ≠ [] := fun hnil => h.ne (String.toList_inj.mp hnil)
  have hfeed : word.toList.getLast? ≠ some '\n' := fun hlast =>
    h.unbroken (List.mem_of_getLast? hlast)
  simpa [Token.isSimple, Text.dropFinalLineFeed, hfeed, hne] using h.chars

end Token

namespace Value

/-! ## Commas and parentheses -/

/-- The words in one token, with commas between them. -/
def commaToken (words : List String) : Token := .word (",".intercalate words)

/-- The option once for each word. -/
def repeatedTokens (option : Token) (words : List String) : List Token :=
  words.flatMap fun word => [option, .word word]

/-- Any option that asks for a list reads these words from the tokens, and none of what is behind
them. They are not taken for a marker, nor do they close the statement. -/
structure Lists (tokens : List Token) (words : List String) : Prop where
  first : ∃ t more, tokens = t :: more ∧ t.isNegation = false
  last : ∃ t, tokens.getLast? = some t ∧ t.endsWith ';' = false
  reads : ∀ option rest, readList option (tokens ++ rest) = .ok (words, rest)

theorem commaToken_chars {words : List String} (h : ∀ w ∈ words, Token.SimpleWord w) :
    ∀ c ∈ (commaToken words).text.toList, Token.isSimpleChar c = true ∨ c = ',' := by
  show ∀ c ∈ (",".intercalate words).toList, _
  induction words with
  | nil => simp
  | cons word words ih =>
    obtain ⟨hword, hwords⟩ := List.forall_mem_cons.mp h
    cases words with
    | nil =>
      rw [String.intercalate_singleton]
      exact fun c hc => .inl (hword.chars c hc)
    | cons next words =>
      intro c hc
      rw [String.intercalate_cons_cons, String.toList_append, String.toList_append,
        List.mem_append, List.mem_append] at hc
      rcases hc with (hc | hc) | hc
      · exact .inl (hword.chars c hc)
      · exact .inr (List.mem_singleton.mp hc)
      · exact ih hwords c hc

theorem splitOn_commaToken {words : List String} (hne : words ≠ [])
    (h : ∀ w ∈ words, Token.SimpleWord w) :
    ((commaToken words).text.toList.splitOn ',').map String.ofList = words := by
  have hcomma : ∀ cs ∈ words.map String.toList, ',' ∉ cs := by
    intro cs hcs hmem
    obtain ⟨word, hword, rfl⟩ := List.mem_map.mp hcs
    exact absurd ((h word hword).chars ',' hmem) (by decide)
  have htext : (commaToken words).text.toList = [','].intercalate (words.map String.toList) :=
    String.toList_intercalate
  rw [htext, List.splitOn_intercalate ',' hcomma (by simpa using hne), List.map_map]
  simp

theorem lists_commaToken {words : List String} (hne : words ≠ [])
    (h : ∀ w ∈ words, Token.SimpleWord w) : Lists [commaToken words] words := by
  have hfree : ∀ c, Token.isSimpleChar c = false → c ≠ ',' →
      c ∉ (commaToken words).text.toList := by
    intro c hc hcomma hmem
    rcases commaToken_chars h c hmem with hsimple | rfl
    · rw [hc] at hsimple
      cases hsimple
    · exact hcomma rfl
  have hopens : opensArray (commaToken words) = false := by
    have hhead : (commaToken words).text.toList.head? ≠ some '(' := fun hhead =>
      hfree '(' (by decide) (by decide) (List.mem_of_mem_head? hhead)
    simp [opensArray, Token.startsWith, hhead]
  refine ⟨⟨_, [], rfl, ?_⟩, ?_, ?_⟩
  · have hmark : (commaToken words).text ≠ "!" := by
      intro he
      exact hfree '!' (by decide) (by decide) (by simp [he])
    simp [Token.isNegation, hmark]
  · have hlast : (commaToken words).text.toList.getLast? ≠ some ';' := fun hlast =>
      hfree ';' (by decide) (by decide) (List.mem_of_getLast? hlast)
    exact ⟨_, rfl, by simp [Token.endsWith, hlast]⟩
  · intro option rest
    rw [List.singleton_append, readList, readWord_cons, ok_bind]
    dsimp only
    rw [if_neg (by simp [hopens]), if_neg (by simp [commaToken, Token.word]),
      splitOn_commaToken hne h]
    rfl

/-- The tokens of an array of simple words are the words, but for the parentheses at the first
and the last. -/
theorem arrayTokens_simple (p : String) {front : List String} {last : String}
    (h : ∀ w ∈ front ++ [last], Token.SimpleWord w) :
    arrayTokens p (front ++ [last])
      = ((front ++ [last ++ ")"]).modifyHead (p ++ ·)).map Token.word := by
  induction front generalizing p with
  | nil =>
    have hlast := (h last (by simp)).isSimple
    simp [arrayTokens, hlast, String.append_assoc]
  | cons word front ih =>
    obtain ⟨hword, hrest⟩ := List.forall_mem_cons.mp h
    obtain ⟨next, more, hmore⟩ := List.exists_cons_of_ne_nil
      (List.append_ne_nil_of_right_ne_nil front (List.cons_ne_nil last []))
    have htail := ih "" hrest
    have hempty : ∀ words : List String, words.modifyHead ("" ++ ·) = words := by
      intro words
      cases words <;> simp
    rw [hempty] at htail
    rw [List.cons_append, hmore, arrayTokens, if_pos hword.isSimple, ← hmore, htail]
    rfl

theorem lists_arrayTokens {words : List String} (hne : words ≠ [])
    (h : ∀ w ∈ words, Token.SimpleWord w) : Lists (arrayTokens "(" words) words := by
  have hline : ∀ w ∈ words, Text.Unbroken w := fun w hw => (h w hw).unbroken
  refine ⟨?_, ?_, ?_⟩
  · obtain ⟨t, more, heq, hopens, -⟩ := readArray_arrayTokens "" hline []
    exact ⟨t, more, heq, isNegation_opensArray hopens⟩
  · obtain ⟨front, last, rfl⟩ := List.eq_nil_or_concat words |>.resolve_left hne
    rw [List.concat_eq_append] at h ⊢
    have hclosing : ∀ w : String, (Token.word (w ++ ")")).endsWith ';' = false := by
      intro w
      simp [Token.endsWith, Token.word]
    rw [arrayTokens_simple "(" h]
    cases front with
    | nil => exact ⟨.word ("(" ++ last ++ ")"), by simp [String.append_assoc], hclosing _⟩
    | cons word front =>
      rw [List.cons_append, List.modifyHead_cons, ← List.cons_append, List.map_append,
        List.map_singleton, List.getLast?_concat]
      exact ⟨_, rfl, hclosing _⟩
  · intro option rest
    obtain ⟨t, more, heq, hopens, hread⟩ := readArray_arrayTokens option hline rest
    rw [heq, List.cons_append, readList, readWord_cons, ok_bind]
    dsimp only
    rw [if_pos hopens, hread]

theorem lists_word {word : String} (h : Token.SimpleWord word) : Lists [.word word] [word] := by
  have hlists := lists_commaToken (List.cons_ne_nil word []) (by simpa using h)
  rwa [commaToken, String.intercalate_singleton] at hlists

theorem repeatedTokens_last (option : Token) {words : List String} (hne : words ≠ [])
    (h : ∀ w ∈ words, Token.SimpleWord w) :
    ∃ t, (repeatedTokens option words).getLast? = some t ∧ t.endsWith ';' = false := by
  obtain ⟨front, last, rfl⟩ := List.eq_nil_or_concat words |>.resolve_left hne
  obtain ⟨t, ht, hopen⟩ := (lists_word (h last (by simp))).last
  refine ⟨t, ?_, hopen⟩
  simpa [repeatedTokens] using ht

/-! ## Where a list is asked for -/

/-- Behind the tokens an option asks for a list: for its whole value, or for a field of it after
the fields in front have been read. -/
inductive AwaitsList (k : Keyword) : List Token → Prop
  | value : k.shape = .list → AwaitsList k []
  | field {before behind : List FieldShape} {lead : List Token} {parts : List Value} :
      k.shape = .composite (before ++ .list :: behind) →
      readFields k.name lead before = .ok (parts, []) → AwaitsList k lead

/-- Fields are read from where the fields in front of them end. -/
theorem readFields_behind {option : String} {tokens rest : List Token} {before : List FieldShape}
    {parts : List Value} (h : readFields option tokens before = .ok (parts, rest))
    (fields : List FieldShape) :
    readFields option tokens (before ++ fields)
      = readFields option rest fields >>= fun (others, last) => .ok (parts ++ others, last) := by
  induction before generalizing tokens parts with
  | nil =>
    cases h
    show readFields option rest fields = _
    cases readFields option rest fields <;> rfl
  | cons field before ih =>
    obtain ⟨⟨part, behind⟩, hfield, h⟩ := bind_ok h
    obtain ⟨⟨others, last⟩, hothers, h⟩ := bind_ok h
    cases h
    rw [List.cons_append, readFields, hfield, ok_bind]
    dsimp only
    rw [ih hothers]
    cases readFields option rest fields <;> rfl

theorem AwaitsList.read_eq {k : Keyword} {lead xs ys : List Token} {words : List String}
    (h : AwaitsList k lead) (hxs : Lists xs words) (hys : Lists ys words) (rest : List Token) :
    read k (lead ++ (xs ++ rest)) = read k (lead ++ (ys ++ rest)) := by
  cases h with
  | value hshape =>
    simp only [read, hshape, List.nil_append, hxs.reads, hys.reads]
  | @field before behind _ _ hshape hlead =>
    have hfields : readFields k.name (lead ++ (xs ++ rest)) (before ++ .list :: behind)
        = readFields k.name (lead ++ (ys ++ rest)) (before ++ .list :: behind) := by
      rw [readFields_behind (readFields_append hlead (xs ++ rest)),
        readFields_behind (readFields_append hlead (ys ++ rest))]
      simp only [List.nil_append, readFields, readField, hxs.reads, hys.reads]
    simp only [read, hshape, hfields]

end Value

namespace Reading

variable {registry : Registry} {xs ys : List Token} {words : List String}

open Value (Lists AwaitsList)

/-! ## Reading on -/

theorem negationFollows_lists (hxs : Lists xs words) (hys : Lists ys words)
    (lead rest : List Token) :
    Polarity.negationFollows (lead ++ (xs ++ rest))
      = Polarity.negationFollows (lead ++ (ys ++ rest)) := by
  obtain ⟨x, xmore, rfl, hx⟩ := hxs.first
  obtain ⟨y, ymore, rfl, hy⟩ := hys.first
  cases lead with
  | nil => exact hx.trans hy.symm
  | cons t lead => rfl

/-- No marker is passed over, so an option reads its value where it looks for the marker. -/
theorem readOption_lists {k : Keyword} (hafter : k.negation ≠ .after) {lead : List Token}
    (h : AwaitsList k lead) (hxs : Lists xs words) (hys : Lists ys words) (r : Reading)
    (rest : List Token) :
    readOption registry k r (lead ++ (xs ++ rest))
      = readOption registry k r (lead ++ (ys ++ rest)) := by
  have hpolarity : Polarity.read k r.negated (lead ++ (xs ++ rest))
      = Polarity.read k r.negated (lead ++ (ys ++ rest)) := by
    simp only [Polarity.read, negationFollows_lists hxs hys]
  unfold readOption
  rw [hpolarity]
  cases hp : Polarity.read k r.negated (lead ++ (ys ++ rest)) with
  | error fault => rfl
  | ok p =>
    have hne : p ≠ .trailing := by
      rintro rfl
      exact hafter (Polarity.allowed_of_read hp).1
    rw [ok_bind, ok_bind, Polarity.skip_of_ne hne, Polarity.skip_of_ne hne, h.read_eq hxs hys]

theorem run_option_lists {r : Reading} {t : Token} {k : Keyword}
    (ho : r.opening registry t = .ok (.option k)) (hafter : k.negation ≠ .after)
    {lead : List Token} (h : AwaitsList k lead) (hxs : Lists xs words) (hys : Lists ys words)
    (rest : List Token) :
    r.run registry (t :: (lead ++ (xs ++ rest)))
      = r.run registry (t :: (lead ++ (ys ++ rest))) := by
  have hstep : r.step registry t (lead ++ (xs ++ rest))
      = r.step registry t (lead ++ (ys ++ rest)) := by
    rw [step, step, ho]
    exact readOption_lists hafter h hxs hys r rest
  rw [run_cons, run_cons, hstep]

/-! ## Modules one by one -/

/-- Two lists of modules join a clause one after the other as they do at once. -/
theorem accumulate?_modules (last : Clause) (names more : List String) :
    (last.accumulate? (.ofModules names) = none ∧
      last.accumulate? (.ofModules (names ++ more)) = none) ∨
    ∃ joined both, last.accumulate? (.ofModules names) = some joined ∧
      joined.accumulate? (.ofModules more) = some both ∧
      last.accumulate? (.ofModules (names ++ more)) = some both := by
  obtain ⟨keyword, value, definition⟩ := last
  by_cases hkey : keyword = "match"
  · subst hkey
    cases value with
    | list items =>
      refine .inr ⟨⟨"match", .list (items ++ names), definition⟩, _, rfl, rfl, ?_⟩
      rw [List.append_assoc]
      rfl
    | _ => exact .inl ⟨rfl, rfl⟩
  · exact .inl ⟨Clause.accumulate?_of_ne hkey, Clause.accumulate?_of_ne hkey⟩

/-- The list that modules are added to is left open for more. -/
theorem pushClause_modules (names more : List String) (cs : List Clause) :
    pushClause (.ofModules more) (pushClause (.ofModules names) cs)
      = pushClause (.ofModules (names ++ more)) cs := by
  rcases List.eq_nil_or_concat cs with rfl | ⟨front, last, rfl⟩
  · rfl
  · rw [List.concat_eq_append, pushClause_concat, pushClause_concat]
    rcases accumulate?_modules last names more with ⟨hone, htwo⟩ | ⟨joined, both, hone, hmore, htwo⟩
    · rw [hone, htwo]
      show pushClause (.ofModules more) (front ++ ([last] ++ [.ofModules names])) = _
      rw [← List.append_assoc, pushClause_concat, Clause.accumulate?_ofModules, List.append_assoc]
      rfl
    · rw [hone, htwo]
      show pushClause (.ofModules more) (front ++ [joined]) = _
      rw [pushClause_concat, hmore]

theorem push_modules (r : Reading) (names more : List String) :
    (r.push (.ofModules names)).push (.ofModules more) = r.push (.ofModules (names ++ more)) := by
  rw [push_eq, push_eq, push_eq, current_withCurrent, withCurrent_withCurrent, pushClause_modules]

theorem activate_push (r : Reading) (c : Clause) (names : List String) :
    (r.push c).activate registry names = (r.activate registry names).push c := by
  obtain ⟨scope, conditions, action, negated, protocols⟩ := r
  rcases action with _ | ⟨kind, target, params⟩
  · rfl
  · cases kind <;> rfl

theorem activate_activate (r : Reading) (names more : List String) :
    (r.activate registry names).activate registry more = r.activate registry (names ++ more) := by
  simp [activate, Scope.extendAll]

theorem addModules_nil (r : Reading) : r.addModules registry [] = r := by
  have hkept : r.kept registry [] = [] := rfl
  rw [addModules_eq, if_pos hkept]
  rfl

/-- Modules may be added one after the other, since none of them declares a protocol. -/
theorem addModules_append (r : Reading) (names more : List String) :
    (r.addModules registry names).addModules registry more
      = r.addModules registry (names ++ more) := by
  have hkept : r.kept registry (names ++ more) = r.kept registry names ++ r.kept registry more :=
    List.filter_append ..
  rw [addModules_eq registry r (names ++ more), hkept, ← activate_activate,
    addModules_eq registry r names]
  by_cases hnames : r.kept registry names = []
  · rw [if_pos hnames, addModules_eq, hnames, List.nil_append]
    rfl
  · have hprotocols : ((r.activate registry names).push
        (.ofModules (r.kept registry names))).kept registry more = r.kept registry more := by
      simp only [kept, push_protocols]
      rfl
    rw [if_neg hnames, if_neg (by simp [hnames])]
    show ((r.activate registry names).push (.ofModules _)).addModules registry more = _
    rw [addModules_eq, hprotocols, activate_push]
    by_cases hmore : r.kept registry more = []
    · rw [if_pos hmore, hmore, List.append_nil]
      rfl
    · rw [if_neg hmore]
      exact push_modules ..

theorem addModules_negated (r : Reading) (names : List String) :
    (r.addModules registry names).negated = r.negated := by
  rw [addModules_eq]
  split
  · rfl
  · exact push_negated ..

theorem step_modules {r : Reading} {t : Token} (ho : r.opening registry t = .ok .modules)
    {tokens : List Token} (h : Lists tokens words) (rest : List Token) :
    r.step registry t (tokens ++ rest)
      = if r.negated then .error .negatedModule
        else .ok (r.addModules registry words, rest) := by
  rw [step, ho, ok_bind]
  dsimp only [readModules]
  split
  · rfl
  · rw [h.reads]
    rfl

theorem run_repeated {t : Token}
    (ho : ∀ s : Reading, s.Sound registry → s.opening registry t = .ok .modules) {r : Reading}
    (hsound : r.Sound registry) (hn : r.negated = false)
    (hwords : ∀ w ∈ words, Token.SimpleWord w) (rest : List Token) :
    r.run registry (Value.repeatedTokens t words ++ rest)
      = (r.addModules registry words).run registry rest := by
  induction words generalizing r with
  | nil =>
    rw [addModules_nil]
    rfl
  | cons word words ih =>
    obtain ⟨hword, hothers⟩ := List.forall_mem_cons.mp hwords
    have hstep : r.step registry t ([.word word] ++ (Value.repeatedTokens t words ++ rest))
        = .ok (r.addModules registry [word], Value.repeatedTokens t words ++ rest) := by
      rw [step_modules (ho r hsound) (Value.lists_word hword), if_neg (by simp [hn])]
    have hnext := hsound.steps (steps_of_step hstep)
    have hplain : (r.addModules registry [word]).negated = false := by rw [addModules_negated, hn]
    show r.run registry (t :: ([.word word] ++ (Value.repeatedTokens t words ++ rest))) = _
    rw [run_cons, hstep, ok_bind]
    dsimp only
    rw [ih hnext hplain hothers, addModules_append, List.singleton_append]

/-- The option for modules is read once with all of them, or once with each. -/
theorem run_modules_repeated {t : Token}
    (ho : ∀ s : Reading, s.Sound registry → s.opening registry t = .ok .modules) {r : Reading}
    (hsound : r.Sound registry) (hne : words ≠ []) (hwords : ∀ w ∈ words, Token.SimpleWord w)
    {tokens : List Token} (h : Lists tokens words) (rest : List Token) :
    r.run registry (t :: (tokens ++ rest))
      = r.run registry (Value.repeatedTokens t words ++ rest) := by
  rw [run_cons, step_modules (ho r hsound) h]
  by_cases hn : r.negated = true
  · -- the first option takes the marker, and no option for modules may
    obtain ⟨word, others, rfl⟩ := List.exists_cons_of_ne_nil hne
    have hword := hwords word List.mem_cons_self
    show _ = r.run registry (t :: ([.word word] ++ (Value.repeatedTokens t others ++ rest)))
    rw [run_cons, step_modules (ho r hsound) (Value.lists_word hword), if_pos hn, if_pos hn]
  · rw [run_repeated ho hsound (by simpa using hn) hwords, if_neg hn, ok_bind]

end Reading

namespace LeafRule

variable {registry : Registry}

/-- Tokens in the middle of a rule may be replaced by others that are read alike there. -/
theorem ofTokens_replace (hr : registry.Legible) {front : List Token} {r : Reading}
    (hfront : (Reading.start registry).run registry front = .ok r) {xs ys : List Token}
    (hxs : ∃ t, xs.getLast? = some t ∧ t.endsWith ';' = false)
    (hys : ∃ t, ys.getLast? = some t ∧ t.endsWith ';' = false)
    (h : ∀ rest, r.run registry (xs ++ rest) = r.run registry (ys ++ rest)) (back : List Token) :
    ofTokens registry (front ++ xs ++ back) = ofTokens registry (front ++ ys ++ back) := by
  have hmiddle : ∀ tokens : List Token,
      (∃ t, tokens.getLast? = some t ∧ t.endsWith ';' = false) →
      ofTokens registry (front ++ tokens ++ back)
        = r.run registry (tokens ++ dropTerminator back) >>= Reading.finish := by
    rintro tokens ⟨t, hlast, hopen⟩
    have hend : dropTerminator (tokens ++ back) = tokens ++ dropTerminator back := by
      refine dropTerminator_append fun _ u hu => ?_
      obtain rfl : t = u := Option.some.inj (hlast.symm.trans hu)
      exact hopen
    have hdrop : dropTerminator (front ++ (tokens ++ back))
        = front ++ dropTerminator (tokens ++ back) := by
      refine dropTerminator_append fun hnil => ?_
      rw [(List.append_eq_nil_iff.mp hnil).1] at hlast
      cases hlast
    rw [ofTokens, List.append_assoc, hdrop, hend, Reading.run_append hr Reading.sound_start hfront]
  rw [hmiddle xs hxs, hmiddle ys hys, h]

end LeafRule

/-! ## The standard registry -/

/-- Behind tokens that are read without a fault, such as those of another rule without its
semicolon, words with commas between them are read as an array of the same words wherever an
option asks for a list, and modules also as if each had been named by an option of its own.
Whatever follows, the same rule or the same fault comes of it. -/
theorem list_spellings_agree {front : List Token} {r : Reading}
    (hfront : (Reading.start .standard).run .standard front = .ok r) {words : List String}
    (hne : words ≠ []) (hwords : ∀ w ∈ words, Token.SimpleWord w) (t : Token)
    (back : List Token) :
    (∀ k lead, r.opening .standard t = .ok (.option k) → Value.AwaitsList k lead →
      LeafRule.ofTokens .standard (front ++ (t :: lead ++ [Value.commaToken words]) ++ back)
        = LeafRule.ofTokens .standard
            (front ++ (t :: lead ++ Value.arrayTokens "(" words) ++ back)) ∧
    (t.quoted = false → Reading.optionName .standard t.text = "match" →
      LeafRule.ofTokens .standard (front ++ [t, Value.commaToken words] ++ back)
        = LeafRule.ofTokens .standard (front ++ (t :: Value.arrayTokens "(" words) ++ back) ∧
      LeafRule.ofTokens .standard (front ++ [t, Value.commaToken words] ++ back)
        = LeafRule.ofTokens .standard (front ++ Value.repeatedTokens t words ++ back)) := by
  have hr := Registry.legible_standard
  have hsound := Reading.sound_start.run hfront
  have hcomma := Value.lists_commaToken hne hwords
  have harray := Value.lists_arrayTokens hne hwords
  have hends : ∀ {tokens : List Token} (lead : List Token), Value.Lists tokens words →
      ∃ u, (t :: lead ++ tokens).getLast? = some u ∧ u.endsWith ';' = false := by
    rintro tokens lead ⟨-, ⟨u, hlast, hopen⟩, -⟩
    exact ⟨u, by rw [List.getLast?_append, hlast, Option.some_or], hopen⟩
  constructor
  · intro k lead ho hawaits
    have hk := (hsound.keyword (Reading.opens_of_opening ho)).2
    have hafter := Registry.standard_negated_before k hk
    refine LeafRule.ofTokens_replace hr hfront (hends lead hcomma) (hends lead harray) ?_ back
    intro rest
    have hread := Reading.run_option_lists ho hafter hawaits hcomma harray rest
    simpa using hread
  · intro hquoted hname
    have hmark : t.isNegation = false := by
      have hne : t.text ≠ "!" := by
        intro he
        rw [he] at hname
        revert hname
        decide
      simp [Token.isNegation, hne]
    have ho : ∀ s : Reading, s.Sound .standard → s.opening .standard t = .ok .modules :=
      fun s hs => Reading.opening_match hr hmark hquoted hname hs
    have hrepeated : ∀ {tokens : List Token}, Value.Lists tokens words → ∀ rest,
        r.run .standard (t :: tokens ++ rest)
          = r.run .standard (Value.repeatedTokens t words ++ rest) := fun h rest =>
      Reading.run_modules_repeated ho hsound hne hwords h rest
    constructor
    · refine LeafRule.ofTokens_replace hr hfront (hends [] hcomma) (hends [] harray) ?_ back
      exact fun rest => (hrepeated hcomma rest).trans (hrepeated harray rest).symm
    · refine LeafRule.ofTokens_replace hr hfront (hends [] hcomma)
        (Value.repeatedTokens_last t hne hwords) ?_ back
      exact hrepeated hcomma

/-- A protocol, and modules whose list is still open. -/
def openModules : List Token := [.word "-p", .word "tcp", .word "-m", .word "multiport,set"]

/-- A set is matched in two directions. Of two more modules one goes with the protocol, and the
other joins the open list. -/
theorem list_spellings_agree_set :
    (∃ r k, (Reading.start .standard).run .standard openModules = .ok r ∧
      r.opening .standard (.word "--match-set") = .ok (.option k) ∧
      Value.AwaitsList k [.word "x"]) ∧
    LeafRule.ofTokens .standard
        (openModules ++ [Token.word "--match-set", .word "x", .word "src,dst"] ++ [Token.word ";"])
      = LeafRule.ofTokens .standard
        (openModules ++ [Token.word "--match-set", .word "x", .word "(src", .word "dst)"]
          ++ [Token.word ";"]) ∧
    LeafRule.ofTokens .standard
        (openModules ++ [Token.word "-m", .word "tcp,conntrack"]
          ++ [Token.word "--ctstate", .word "NEW"])
      = LeafRule.ofTokens .standard
        (openModules ++ [Token.word "-m", .word "(tcp", .word "conntrack)"]
          ++ [Token.word "--ctstate", .word "NEW"]) ∧
    LeafRule.ofTokens .standard
        (openModules ++ [Token.word "-m", .word "tcp,conntrack"]
          ++ [Token.word "--ctstate", .word "NEW"])
      = LeafRule.ofTokens .standard
        (openModules ++ [Token.word "-m", .word "tcp", .word "-m", .word "conntrack"]
          ++ [Token.word "--ctstate", .word "NEW"]) := by
  have hset : ((Reading.start .standard).run .standard openModules).map (·.scope "match-set")
      = .ok (some (Keyword.composite "match-set" [.scalar, .list]).negatable) := by decide +kernel
  cases hfront : (Reading.start .standard).run .standard openModules with
  | error fault =>
    rw [hfront] at hset
    cases hset
  | ok r =>
    rw [hfront] at hset
    have hscope : r.scope "match-set" = some _ := Except.ok.inj hset
    have hname : Reading.optionName .standard "--match-set" = "match-set" := by decide +kernel
    have ho : r.opening .standard (.word "--match-set") = .ok (.option _) :=
      Reading.opening_eq_option.mpr ⟨by decide, rfl, by rw [Token.word, hname, hscope]⟩
    have hawaits : Value.AwaitsList (Keyword.composite "match-set" [.scalar, .list]).negatable
        [.word "x"] := @Value.AwaitsList.field _ [.scalar] [] _ [.scalar "x"] rfl rfl
    have hdirections := (list_spellings_agree hfront (List.cons_ne_nil "src" ["dst"])
      (by decide +kernel) (.word "--match-set") [.word ";"]).1 _ _ ho hawaits
    obtain ⟨harray, hrepeated⟩ := (list_spellings_agree hfront
      (List.cons_ne_nil "tcp" ["conntrack"]) (by decide +kernel) (.word "-m")
      [.word "--ctstate", .word "NEW"]).2 rfl (by decide +kernel)
    have hsrc : Value.commaToken ["src", "dst"] = .word "src,dst" ∧
        Value.arrayTokens "(" ["src", "dst"] = [.word "(src", .word "dst)"] := by decide +kernel
    have htcp : Value.commaToken ["tcp", "conntrack"] = .word "tcp,conntrack" ∧
        Value.arrayTokens "(" ["tcp", "conntrack"] = [.word "(tcp", .word "conntrack)"] := by
      decide +kernel
    rw [hsrc.1, hsrc.2] at hdirections
    rw [htcp.1, htcp.2] at harray
    rw [htcp.1] at hrepeated
    exact ⟨⟨r, _, rfl, ho, hawaits⟩, hdirections, harray, hrepeated⟩

end FermRules
