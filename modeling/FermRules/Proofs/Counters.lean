import FermRules.Dump.Conversion
import FermRules.Proofs.Lexing
import FermRules.Registry.Standard
import Mathlib.Data.List.DropRight
import Mathlib.Data.List.Forall2

/-! # Counters in front of rules

A dump may be made with the counters of its rules or without them, and its lines may
be indented. Blanks around a line are stripped before anything is read of it, those
in front of the counters and those behind the options alike. Counters begin with a
bracket, which begins no other kind of line, and what is behind them and their blanks
begins with the dash of the rule. So a line is read as the same line however it is
spelled, and a conversion knows of its lines only what they are read as. -/
namespace FermRules

namespace Text

/-- A text that is not empty, of characters of one class. -/
structure Row (inClass : Char → Bool) (text : String) : Prop where
  ne : text ≠ ""
  chars : ∀ c ∈ text.toList, inClass c = true

instance (inClass : Char → Bool) (text : String) : Decidable (Row inClass text) :=
  decidable_of_iff (text ≠ "" ∧ text.toList.all inClass = true)
    ⟨fun h => ⟨h.1, List.all_eq_true.mp h.2⟩, fun h => ⟨h.ne, List.all_eq_true.mpr h.chars⟩⟩

theorem Row.toList_ne {inClass : Char → Bool} {text : String} (h : Row inClass text) :
    text.toList ≠ [] := fun hnil => h.ne (String.toList_inj.mp hnil)

/-! ## Stripping -/

theorem rdropWhile_append_of_pos {inClass : Char → Bool} {after : List Char}
    (h : ∀ c ∈ after, inClass c = true) (cs : List Char) :
    (cs ++ after).rdropWhile inClass = cs.rdropWhile inClass := by
  have hreverse : ∀ c ∈ after.reverse, inClass c = true := fun c hc =>
    h c (List.mem_reverse.mp hc)
  rw [List.rdropWhile, List.reverse_append, List.dropWhile_append_of_pos hreverse]
  rfl

theorem rdropWhile_append_of_ne {inClass : Char → Bool} {cs : List Char}
    (h : cs.rdropWhile inClass ≠ []) (front : List Char) :
    (front ++ cs).rdropWhile inClass = front ++ cs.rdropWhile inClass := by
  have hne : (cs.reverse.dropWhile inClass).isEmpty = false := by
    simpa [List.rdropWhile] using h
  rw [List.rdropWhile, List.reverse_append, List.dropWhile_append, hne,
    if_neg Bool.false_ne_true, List.reverse_append, List.reverse_reverse]
  rfl

theorem strip_eq (cs : List Char) : strip cs = (cs.dropWhile isBlank).rdropWhile isBlank := rfl

/-- Blanks around a text are stripped with its own. -/
theorem strip_surrounded {before after : List Char} (hbefore : ∀ c ∈ before, isBlank c = true)
    (hafter : ∀ c ∈ after, isBlank c = true) (cs : List Char) :
    strip (before ++ cs ++ after) = strip cs := by
  have hfront : (before ++ cs ++ after).dropWhile isBlank = (cs ++ after).dropWhile isBlank := by
    rw [List.append_assoc, List.dropWhile_append_of_pos hbefore]
  rw [strip_eq, strip_eq, hfront, List.dropWhile_append]
  split
  · rename_i hempty
    rw [List.isEmpty_iff.mp hempty, List.dropWhile_eq_nil_iff.mpr hafter]
  · exact rdropWhile_append_of_pos hafter _

/-- Behind something that is no blank, a text keeps the blanks in front of it. -/
theorem strip_behind {c : Char} (hc : isBlank c = false) (front : List Char) {cs : List Char}
    (hcs : strip cs ≠ []) :
    strip (c :: front ++ cs) = c :: front ++ (cs.takeWhile isBlank ++ strip cs) := by
  have hstart : (c :: front ++ cs).dropWhile isBlank
      = c :: front ++ cs.takeWhile isBlank ++ cs.dropWhile isBlank := by
    rw [List.append_assoc, List.takeWhile_append_dropWhile]
    exact List.dropWhile_cons_of_neg (by simp [hc])
  rw [strip_eq, hstart, rdropWhile_append_of_ne hcs, List.append_assoc]
  rfl

theorem stripStart_blanks {blanks : List Char} (h : ∀ c ∈ blanks, isBlank c = true)
    (cs : List Char) : stripStart (blanks ++ cs) = stripStart cs :=
  List.dropWhile_append_of_pos h

end Text

namespace DumpLine

open Text (Row isBlank isDecimal strip stripStart)

/-- The packets and bytes that a rule has counted, in the digits of any script. -/
structure Counters where
  packets : String
  bytes : String
  digits : Row isDecimal packets ∧ Row isDecimal bytes

def Counters.text (k : Counters) : String := "[" ++ k.packets ++ ":" ++ k.bytes ++ "]"

/-- The second text is the first one with blanks around it and, where it is a rule that begins
with its command, with counters in front of it. -/
inductive Respelled (text : String) : String → Prop
  | same : Respelled text text
  | surrounded {other before after : String} (h : Respelled text other)
      (hbefore : ∀ c ∈ before.toList, isBlank c = true)
      (hafter : ∀ c ∈ after.toList, isBlank c = true) :
      Respelled text (before ++ other ++ after)
  | counted {other blanks chain options : String} (h : Respelled text other) (k : Counters)
      (hblanks : Row isBlank blanks) (hrule : ofText other = .rule chain options)
      (hcommand : ['-', 'A'] <+: strip other.toList) :
      Respelled text (k.text ++ blanks ++ other)

/-! ## Reading lines -/

theorem behindDigits?_row {digits : String} (h : Row isDecimal digits) {mark : Char}
    (hmark : isDecimal mark = false) (rest : List Char) :
    behindDigits? (digits.toList ++ mark :: rest) = some (mark :: rest) := by
  have hends : ∀ c, (mark :: rest).head? = some c → isDecimal c = false := by
    rintro c ⟨⟩
    exact hmark
  obtain ⟨htake, hdrop⟩ := Text.takeWhile_word h.chars hends
  rw [behindDigits?, htake, hdrop, if_neg (by simpa using h.ne)]

theorem behind?_cons (c : Char) (rest : List Char) : behind? c (c :: rest) = some rest := if_pos rfl

theorem behindBlanks?_row {blanks : String} (h : Row isBlank blanks) (cs : List Char) :
    behindBlanks? (blanks.toList ++ cs) = some (stripStart cs) := by
  obtain ⟨c, rest, hrow⟩ := List.exists_cons_of_ne_nil h.toList_ne
  have hchars := h.chars
  rw [hrow] at hchars ⊢
  obtain ⟨hc, hrest⟩ := List.forall_mem_cons.mp hchars
  rw [List.cons_append, behindBlanks?, if_pos hc, Text.stripStart_blanks hrest]

theorem Counters.toList_text (k : Counters) :
    k.text.toList = '[' :: (k.packets.toList ++ ':' :: (k.bytes.toList ++ [']'])) := by
  simp [text]

theorem behindCounters?_text (k : Counters) {blanks : String} (hblanks : Row isBlank blanks)
    (cs : List Char) :
    behindCounters? (k.text.toList ++ (blanks.toList ++ cs)) = some (stripStart cs) := by
  have htext : k.text.toList ++ (blanks.toList ++ cs) = '[' :: (k.packets.toList
      ++ ':' :: (k.bytes.toList ++ ']' :: (blanks.toList ++ cs))) := by
    simp [k.toList_text]
  have hcolon : isDecimal ':' = false := by decide
  have hbracket : isDecimal ']' = false := by decide
  simp only [behindCounters?, htext, behind?_cons, behindDigits?_row k.digits.1 hcolon,
    behindDigits?_row k.digits.2 hbracket, behindBlanks?_row hblanks, Option.bind_eq_bind,
    Option.bind_some]

/-- A line that begins with the command of a rule is a rule, or it is unknown. -/
theorem ofStripped_command (rest : List Char) :
    ofStripped ('-' :: 'A' :: rest)
      = (uncountedRule? ('-' :: 'A' :: rest)).getD
          (unknown (String.ofList ('-' :: 'A' :: rest))) := rfl

/-- So is a line that begins with counters, with what is behind them as the rule. -/
theorem ofStripped_counters (k : Counters) {blanks : String} (hblanks : Row isBlank blanks)
    (cs : List Char) :
    ofStripped (k.text.toList ++ (blanks.toList ++ cs))
      = (uncountedRule? (stripStart cs)).getD
          (unknown (String.ofList (k.text.toList ++ (blanks.toList ++ cs)))) := by
  have hrule : rule? (k.text.toList ++ (blanks.toList ++ cs)) = uncountedRule? (stripStart cs) := by
    rw [rule?, behindCounters?_text k hblanks, Option.getD_some]
  rw [← hrule, k.toList_text]
  rfl

/-- The blanks in front of a rule become those behind its counters. -/
theorem strip_counters (k : Counters) (blanks : String) {text : String}
    (hne : strip text.toList ≠ []) :
    strip (k.text ++ blanks ++ text).toList
      = k.text.toList ++ (blanks.toList ++ (text.toList.takeWhile isBlank ++ strip text.toList)) := by
  have hbracket : isBlank '[' = false := by decide
  have hbehind := Text.strip_behind hbracket
    (k.packets.toList ++ ':' :: (k.bytes.toList ++ [']']) ++ blanks.toList) hne
  rw [← List.cons_append, ← k.toList_text] at hbehind
  rw [String.toList_append, String.toList_append, hbehind, List.append_assoc]

/-- A rule that begins with its command is read without counters. -/
theorem uncountedRule?_of_ofText {text chain options : String} {rest : List Char}
    (hrule : ofText text = .rule chain options) (hstrip : strip text.toList = '-' :: 'A' :: rest) :
    uncountedRule? ('-' :: 'A' :: rest) = some (.rule chain options) := by
  rw [ofText, hstrip, ofStripped_command] at hrule
  cases hfound : uncountedRule? ('-' :: 'A' :: rest) with
  | none =>
    rw [hfound] at hrule
    cases hrule
  | some line =>
    rw [hfound] at hrule
    exact congrArg some hrule

/-- Counters in front of a rule leave it the same rule. -/
theorem ofText_counters (k : Counters) {blanks text chain options : String}
    (hblanks : Row isBlank blanks) (hrule : ofText text = .rule chain options)
    (hcommand : ['-', 'A'] <+: strip text.toList) :
    ofText (k.text ++ blanks ++ text) = ofText text := by
  obtain ⟨rest, hrest⟩ := hcommand
  have hstrip : strip text.toList = '-' :: 'A' :: rest := hrest.symm
  have hbegins : stripStart (strip text.toList) = '-' :: 'A' :: rest := by
    rw [hstrip]
    exact List.dropWhile_cons_of_neg (by decide)
  rw [hrule, ofText, strip_counters k blanks (by simp [hstrip]), ofStripped_counters k hblanks,
    Text.stripStart_blanks fun c => List.mem_takeWhile_imp, hbegins,
    uncountedRule?_of_ofText hrule hstrip, Option.getD_some]

/-- Another spelling of a line says the same. -/
theorem Respelled.ofText_eq {text other : String} (h : Respelled text other) :
    ofText other = ofText text := by
  induction h with
  | same => rfl
  | @surrounded other before after h hbefore hafter ih =>
    rw [← ih, ofText, String.toList_append, String.toList_append,
      Text.strip_surrounded hbefore hafter]
    rfl
  | counted h k hblanks hrule hcommand ih => rw [← ih, ofText_counters k hblanks hrule hcommand]

end DumpLine

/-! ## Converting dumps -/

namespace Conversion

open DumpLine (Respelled)

/-- A conversion depends on its lines by what they say. -/
theorem run_congr (settings : Settings) (registry : Registry) {lines others : List String}
    (h : others.map DumpLine.ofText = lines.map DumpLine.ofText) (number : Int) (ctx : Context) :
    run settings registry number ctx others = run settings registry number ctx lines := by
  induction lines generalizing others number ctx with
  | nil => rw [List.map_eq_nil_iff.mp h]
  | cons text rest ih =>
    obtain ⟨other, more, rfl, hother, hmore⟩ := List.map_eq_cons_iff.mp h
    simp only [run, hother, ih hmore]

/-- Counters of rules and blanks around lines change nothing of a conversion, neither a fault and
its line nor what is written, summed up or reported. -/
theorem ofLines_respelled (settings : Settings) (registry : Registry)
    {lines others : List String} (h : List.Forall₂ Respelled lines others) :
    ofLines settings registry others = ofLines settings registry lines := by
  have hsay : others.map DumpLine.ofText = lines.map DumpLine.ofText := by
    induction h with
    | nil => rfl
    | cons hline _ ih => rw [List.map_cons, List.map_cons, hline.ofText_eq, ih]
  rw [ofLines, ofLines, run_congr settings registry hsay]

/-- Among the lines are a rule with a quote that is never closed, and counters without a rule. -/
def uncountedDump : List String :=
  ["# by ip6tables-save", "*filter", "-A INPUT -j ACCEPT", "-A INPUT -s 'a", "[0:0] COMMIT"]

/-- The digits are of two scripts. -/
def someCounters : DumpLine.Counters where
  packets := "٣4"
  bytes := "0"
  digits := by decide

def countedDump : List String :=
  ["# by ip6tables-save", "*filter",
    " \t" ++ (someCounters.text ++ "\u2003" ++ "-A INPUT -j ACCEPT") ++ "\n",
    someCounters.text ++ "\u2003" ++ (" \t" ++ "-A INPUT -s 'a" ++ "\n"), "[0:0] COMMIT"]

def wideSettings : Settings := ⟨.ip, true, 8, true, Nat.le_of_ble_eq_true rfl⟩

/-- Blanks stand in front of counters and behind them, and the column of the quote is counted
behind all of them. -/
theorem ofLines_respelled_columns :
    List.Forall₂ Respelled uncountedDump countedDump ∧
    ofLines wideSettings .standard countedDump = ofLines wideSettings .standard uncountedDump ∧
    diagnostics (ofLines wideSettings .standard countedDump).events
      = ["line 4: unterminated quote at column 4", "line 5: unrecognized line: [0:0] COMMIT"] := by
  have hbefore : Text.Row Text.isBlank " \t" := by decide
  have hbetween : Text.Row Text.isBlank "\u2003" := by decide
  have hafter : Text.Row Text.isBlank "\n" := by decide
  have hrule : DumpLine.ofText "-A INPUT -j ACCEPT" = .rule "INPUT" "-j ACCEPT" := rfl
  have hcounted : Respelled "-A INPUT -j ACCEPT"
      (someCounters.text ++ "\u2003" ++ "-A INPUT -j ACCEPT") :=
    .counted .same someCounters hbetween hrule (by decide)
  have hindented : Respelled "-A INPUT -s 'a" (" \t" ++ "-A INPUT -s 'a" ++ "\n") :=
    .surrounded .same hbefore.chars hafter.chars
  have hquote : DumpLine.ofText (" \t" ++ "-A INPUT -s 'a" ++ "\n") = .rule "INPUT" "-s 'a" := rfl
  have hrespelled : List.Forall₂ Respelled uncountedDump countedDump :=
    .cons .same (.cons .same (.cons (.surrounded hcounted hbefore.chars hafter.chars)
      (.cons (.counted hindented someCounters hbetween hquote (by decide)) (.cons .same .nil))))
  exact ⟨hrespelled, ofLines_respelled wideSettings .standard hrespelled, by decide +kernel⟩

end Conversion

end FermRules
