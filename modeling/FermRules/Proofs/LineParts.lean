import FermRules.Proofs.Handling
import FermRules.Proofs.Nesting

/-! # What a written line is, told from its text

A written line is the header of a domain, a table, a chain or a block of rules, a
closing brace, a policy, a statement, or none of these. Its text tells which by its
first word and its last characters, and what it names stands in between; only, no
rule may begin with a word that the lines around rules begin with. So the lines of a
conversion and the lines of its output correspond, one to one, and what is read in
the text is what has been written. -/
namespace FermRules

namespace Outline

/-- What a line is, with the name that it has. Comments, empty lines and chains without
rules are `other`. -/
inductive Part where
  | domain (name : String)
  | table (name : String)
  | chain (name : String)
  | block
  | close
  | policy (name : String)
  | statement
  | other
  deriving DecidableEq, Repr

/-- The part as a line is written for it. -/
def Part.written : Part → Part
  | .table name => .table (Token.write name)
  | .chain name => .chain (Token.write name)
  | part => part

/-- The characters in front of the first blank. -/
def firstWord (text : String) : String := String.ofList (text.toList.takeWhile (· ≠ ' '))

/-- What stands behind the first blank. -/
def others (text : String) : String := String.ofList ((text.toList.dropWhile (· ≠ ' ')).drop 1)

/-- What the header of a block says, without the brace. -/
def headerPart (header : String) : Part :=
  if firstWord header = "domain" then .domain (others header)
  else if firstWord header = "table" then .table (others header)
  else if firstWord header = "chain" then .chain (others header)
  else .block

/-- What a line without a brace says, without the semicolon. -/
def bodyPart (body : String) : Part :=
  if firstWord body = "policy" then .policy (others body) else .statement

/-- What the line is, by its text. -/
def part (line : String) : Part :=
  if line = "\x7d" then .close
  else if firstWord line = "#" then .other
  else match header? line with
    | some header => headerPart header
    | none =>
      if line.toList.getLast? = some ';' then bodyPart (String.ofList line.toList.dropLast)
      else .other

/-! ## First words -/

/-- A word is the first one whatever follows it behind a blank. -/
theorem firstWord_blank (word rest : String) :
    firstWord (word ++ " " ++ rest) = firstWord word := by
  have hlist : (word ++ " " ++ rest).toList = word.toList ++ ' ' :: rest.toList := by simp
  rw [firstWord, firstWord, hlist, List.takeWhile_append]
  split
  · rename_i hlength
    rw [(List.takeWhile_prefix _).eq_of_length hlength, List.takeWhile_cons_of_neg (by simp),
      List.append_nil]
  · rfl

theorem nonblank_of_not_mem {word : String} (h : ' ' ∉ word.toList) :
    ∀ c ∈ word.toList, decide (c ≠ ' ') = true :=
  fun _ hc => decide_eq_true fun he => h (he ▸ hc)

theorem firstWord_self {word : String} (h : ' ' ∉ word.toList) : firstWord word = word := by
  rw [firstWord, List.takeWhile_eq_self_iff.mpr (nonblank_of_not_mem h), String.ofList_toList]

theorem firstWord_named {word : String} (h : ' ' ∉ word.toList) (name : String) :
    firstWord (word ++ " " ++ name) = word ∧ others (word ++ " " ++ name) = name := by
  have hlist : (word ++ " " ++ name).toList = word.toList ++ ' ' :: name.toList := by simp
  refine ⟨(firstWord_blank word name).trans (firstWord_self h), ?_⟩
  rw [others, hlist, List.dropWhile_append_of_pos (nonblank_of_not_mem h),
    List.dropWhile_cons_of_neg (by simp), List.drop_one, List.tail_cons, String.ofList_toList]

theorem firstWord_joinWords (word : String) (words : List String) :
    firstWord (joinWords (word :: words)) = firstWord word := by
  cases words with
  | nil => rfl
  | cons next rest => exact firstWord_blank word _

/-- A semicolon behind a text only makes its first word longer. -/
theorem firstWord_semicolon {text word : String} (hword : ';' ∉ word.toList)
    (h : firstWord (text ++ ";") = word) : firstWord text = word := by
  have hlist : (text ++ ";").toList = text.toList ++ [';'] := by simp
  rw [firstWord, hlist, List.takeWhile_append] at h
  split at h
  · rw [List.takeWhile_cons_of_pos (by decide)] at h
    exact absurd (by rw [← h]; simp) hword
  · exact h

/-! ## Headers and bodies -/

theorem part_header {header : String} (h : firstWord header ≠ "#") :
    part (header ++ " \x7b") = headerPart header := by
  have hne : header ++ " \x7b" ≠ "\x7d" := by
    intro he
    simpa using congrArg (·.toList.getLast?) he
  have hword : firstWord (header ++ " \x7b") = firstWord header := by
    rw [← firstWord_blank header "\x7b", String.append_assoc]
    rfl
  rw [part, if_neg hne, hword, if_neg h, header?_block]

theorem part_body {body : String} (h : firstWord (body ++ ";") ≠ "#") :
    part (body ++ ";") = bodyPart body := by
  have hne : body ++ ";" ≠ "\x7d" := by
    intro he
    simpa using congrArg (·.toList.getLast?) he
  have hlast : (body ++ ";").toList.getLast? = some ';' := by simp
  have hbody : String.ofList (body ++ ";").toList.dropLast = body := by
    have hlist : (body ++ ";").toList = body.toList ++ [';'] := by simp
    rw [hlist, List.dropLast_concat, String.ofList_toList]
  rw [part, if_neg hne, if_neg h, header?_statement]
  dsimp only
  rw [if_pos hlast, hbody]

theorem part_comment (text : String) : part ("# " ++ text) = .other := by
  have hne : "# " ++ text ≠ "\x7d" := by
    intro he
    simpa using congrArg (·.toList.head?) he
  have hword : firstWord ("# " ++ text) = "#" := firstWord_blank "#" text
  rw [part, if_neg hne, if_pos hword]

/-- The braces of a chain without rules are on one line. -/
theorem part_empty (text : String) : part ("chain " ++ text ++ " \x7b\x7d") = .other := by
  have hlist : ("chain " ++ text ++ " \x7b\x7d").toList
      = ("chain " ++ text ++ " \x7b").toList ++ ['\x7d'] := by simp
  have hne : "chain " ++ text ++ " \x7b\x7d" ≠ "\x7d" := by
    intro he
    simpa using congrArg (·.toList.head?) he
  have hword : firstWord ("chain " ++ text ++ " \x7b\x7d") = "chain" := by
    rw [String.append_assoc]
    exact firstWord_blank "chain" _
  have hheader : header? ("chain " ++ text ++ " \x7b\x7d") = none := by
    refine if_neg fun hs => ?_
    rw [hlist] at hs
    simpa using hs.getLast (by simp)
  rw [part, if_neg hne, hword, if_neg (by decide), hheader]
  dsimp only
  rw [hlist, List.getLast?_concat, if_neg (by decide)]

/-! ## Texts of rules -/

/-- No line around rules begins with the first word of the text. -/
def Apart (text : String) : Prop := firstWord text ∉ Registry.frameWords

theorem Apart.of_word {word : String} (h : Token.isOptionWord word = true)
    (hword : word ∉ Registry.frameWords) : Apart word := by
  have hblank : ' ' ∉ word.toList := fun hc =>
    Token.ne_of_isSimpleChar (Token.simple_of_isOptionWord h ' ' hc) (by decide) rfl
  rwa [Apart, firstWord_self hblank]

theorem Apart.joinWords {word : String} (h : Apart word) (words : List String) :
    Apart (FermRules.joinWords (word :: words)) := by
  rwa [Apart, firstWord_joinWords]

theorem Apart.ne {text word : String} (h : Apart text) (hword : word ∈ Registry.frameWords) :
    firstWord text ≠ word := fun he => h (he ▸ hword)

theorem Apart.header {text : String} (h : Apart text) : part (text ++ " \x7b") = .block := by
  rw [part_header (h.ne (by decide)), headerPart, if_neg (h.ne (by decide)),
    if_neg (h.ne (by decide)), if_neg (h.ne (by decide))]

theorem Apart.statement {text : String} (h : Apart text) : part (text ++ ";") = .statement := by
  have hcomment : firstWord (text ++ ";") ≠ "#" := fun he =>
    h.ne (by decide) (firstWord_semicolon (by decide) he)
  rw [part_body hcomment, bodyPart, if_neg (h.ne (by decide))]

end Outline

namespace ConfigLine
open Outline (Part)

def part : ConfigLine → Part
  | openDomain name => .domain name
  | openTable name => .table name
  | openChain name => .chain name
  | openBlock _ => .block
  | close => .close
  | policy name => .policy name
  | statement _ => .statement
  | comment _ | blank | emptyChain _ => .other

/-- The text is what the line is written as, and it tells what the line is. -/
structure Says (registry : Registry) (line : ConfigLine) (text : String) : Prop where
  render : line.render registry = .ok text
  part : Outline.part text = line.part.written

end ConfigLine

/-- The clause is written with a word in front that no line around rules begins with. -/
structure Clause.Apart (c : Clause) : Prop where
  word : Token.isOptionWord c.renderedName = true
  free : c.renderedName ∉ Registry.frameWords

variable {registry : Registry}

theorem Clause.Apart.text {c : Clause} (h : c.Apart) {text : String} (hc : c.render = .ok text) :
    Outline.Apart text := by
  have hname : Outline.Apart c.renderedName := .of_word h.word h.free
  have hmark : Outline.Apart "!" := by unfold Outline.Apart; decide
  unfold Clause.render at hc
  split at hc
  all_goals
    obtain ⟨words, _, hc⟩ := bind_ok hc
    cases hc
  · exact hmark.joinWords _
  · exact hname.joinWords _
  · exact hname.joinWords _

theorem Registry.Clear.closed_apart (hr : registry.Clear) {table : List Keyword}
    (ht : table ⊆ registry.keywords) :
    Clause.Closed (fun _ => True) table Clause.Apart where
  option k hk _ _ _ _ :=
    ⟨(hr.legible.keyword k (ht hk)).called.word, hr.keyword k (ht hk)⟩
  modules _ _ _ :=
    have hfree : "mod" ∉ Registry.frameWords := by decide
    ⟨hr.legible.calls_mod.word, hfree⟩
  joined _ _ _ h _ hb := by
    obtain ⟨items, more, _, _, _, rfl⟩ := Clause.of_accumulate? hb
    exact ⟨h.word, h.free⟩

theorem Registry.Clear.action (hr : registry.Clear) {a : Action} {text : String}
    (ha : a.render registry = .ok text) : Outline.Apart text := by
  have hgoto : Outline.Apart "goto" := .of_word hr.legible.calls_goto.word (by decide)
  have hjump : Outline.Apart "jump" := .of_word hr.legible.calls_jump.word (by decide)
  unfold Action.render at ha
  split at ha
  · cases ha
    exact hgoto.joinWords _
  · obtain ⟨params, _, ha⟩ := bind_ok ha
    cases ha
    split
    · rename_i hknown
      refine Outline.Apart.joinWords (.of_word (hr.legible.target _ hknown).word ?_) _
      intro hword
      rw [hr.target _ hword] at hknown
      cases hknown
    · exact hjump.joinWords _

/-- The text of a rule begins as its first clause does, as its action does, or with the
word that stands for both. -/
theorem Registry.Clear.rule (hr : registry.Clear) {r : LeafRule}
    (hclauses : ∀ c ∈ r.conditions, c.Apart) {text : String}
    (h : r.render registry = .ok text) :
    ∃ body, text = body ++ ";" ∧ Outline.Apart body := by
  have hnop : Outline.Apart "NOP" := .of_word hr.legible.calls_nop.word (by decide)
  obtain ⟨conditions, action⟩ := r
  unfold LeafRule.render at h
  obtain ⟨texts, htexts, h⟩ := bind_ok h
  cases conditions with
  | nil =>
    cases htexts
    cases action with
    | none =>
      cases h
      exact ⟨"NOP", rfl, hnop⟩
    | some a =>
      obtain ⟨word, hword, h⟩ := bind_ok h
      cases h
      exact ⟨word, rfl, hr.action hword⟩
  | cons c cs =>
    rw [List.mapM_cons] at htexts
    obtain ⟨first, hfirst, htexts⟩ := bind_ok htexts
    obtain ⟨rest, _, htexts⟩ := bind_ok htexts
    cases htexts
    have hfirstApart := (hclauses c List.mem_cons_self).text hfirst
    cases action with
    | none =>
      cases h
      exact ⟨_, rfl, hfirstApart.joinWords _⟩
    | some a =>
      obtain ⟨word, _, h⟩ := bind_ok h
      cases h
      exact ⟨_, rfl, hfirstApart.joinWords _⟩

/-- What a line is written as tells what it is. -/
theorem Registry.Clear.parts (hr : registry.Clear) :
    ConfigLine.Inherits Clause.Apart (fun _ => True) fun line =>
      ∀ text, line.render registry = .ok text → Outline.part text = line.part.written where
  frame line hline text h := by
    cases line with
    | openBlock | statement => cases hline
    | comment text =>
      cases h
      exact Outline.part_comment text
    | blank | close =>
      cases h
      decide
    | openDomain name =>
      cases h
      obtain ⟨hfirst, hname⟩ := @Outline.firstWord_named "domain" (by decide) name
      rw [show "domain " = "domain" ++ " " from rfl, Outline.part_header (by rw [hfirst]; decide),
        Outline.headerPart, if_pos hfirst, hname]
      rfl
    | openTable name =>
      cases h
      obtain ⟨hfirst, hname⟩ := @Outline.firstWord_named "table" (by decide) (Token.write name)
      rw [show "table " = "table" ++ " " from rfl, Outline.part_header (by rw [hfirst]; decide),
        Outline.headerPart, hfirst, hname, if_neg (by decide), if_pos rfl]
      rfl
    | openChain name =>
      cases h
      obtain ⟨hfirst, hname⟩ := @Outline.firstWord_named "chain" (by decide) (Token.write name)
      rw [show "chain " = "chain" ++ " " from rfl, Outline.part_header (by rw [hfirst]; decide),
        Outline.headerPart, hfirst, hname, if_neg (by decide), if_neg (by decide), if_pos rfl]
      rfl
    | emptyChain name =>
      cases h
      exact Outline.part_empty _
    | policy name =>
      cases h
      obtain ⟨hfirst, hname⟩ := @Outline.firstWord_named "policy" (by decide) name
      have hcomment : Outline.firstWord ("policy" ++ " " ++ name ++ ";") ≠ "#" := by
        intro he
        rw [Outline.firstWord_semicolon (by decide) he] at hfirst
        exact absurd hfirst (by decide)
      rw [show "policy " = "policy" ++ " " from rfl, Outline.part_body hcomment,
        Outline.bodyPart, if_pos hfirst, hname]
      rfl
  block c hc text h := by
    obtain ⟨body, hbody, h⟩ := bind_ok h
    cases h
    exact (hc.text hbody).header
  statement r hrule text h := by
    obtain ⟨body, rfl, hbody⟩ := hr.rule hrule.conditions h
    exact hbody.statement
  merged _ _ _ _ hc _ _ _ := ⟨hc.word, hc.free⟩

theorem Registry.Clear.has_of_text (hr : registry.Clear) {text : String} {r : LeafRule}
    (h : LeafRule.ofText registry text = .ok r) : r.Has Clause.Apart fun _ => True := by
  obtain ⟨tokens, _, hread⟩ := LeafRule.tokens_of_text h
  obtain ⟨hconditions, _⟩ := LeafRule.made_of_tokens
    (hr.closed_apart registry.condition_subset_keywords)
    (hr.closed_apart registry.parameter_subset_keywords) (fun _ _ _ _ => trivial) hread
  exact ⟨hconditions, fun _ _ => trivial⟩

theorem ConfigLine.says_all {lines : List ConfigLine} {texts : List String}
    (hparts : ∀ line ∈ lines, ∀ text, line.render registry = .ok text →
      Outline.part text = line.part.written)
    (h : lines.mapM (render registry) = .ok texts) :
    List.Forall₂ (Says registry) lines texts := by
  induction lines generalizing texts with
  | nil =>
    cases h
    exact .nil
  | cons line lines ih =>
    obtain ⟨hline, hlines⟩ := List.forall_mem_cons.mp hparts
    rw [List.mapM_cons] at h
    obtain ⟨text, htext, h⟩ := bind_ok h
    obtain ⟨rest, hrest, h⟩ := bind_ok h
    cases h
    exact .cons ⟨htext, hline text htext⟩ (ih hlines hrest)

namespace Conversion

/-- The output has one line for each line of the conversion, and its text tells what
that one is. -/
theorem says_output (hr : registry.Clear) (settings : Settings) (lines : List String) :
    ∃ texts, Outline.texts? ((ofLines settings registry lines).output settings registry)
        = some texts ∧
      List.Forall₂ (ConfigLine.Says registry)
        (configLines (ofLines settings registry lines).events) texts := by
  obtain ⟨_, hshifts, _⟩ := shifts_ofLines hr.legible settings lines
  obtain ⟨texts, hrenders, htexts⟩ := hshifts.texts settings.indent
  have hparts := lines_ofLines hr.parts (fun _ _ => hr.has_of_text) settings lines
  exact ⟨texts, htexts, ConfigLine.says_all hparts hrenders⟩

end Conversion

end FermRules
