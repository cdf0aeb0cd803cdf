import FermRules.Config.Layout
import FermRules.Proofs.LegalOptimizing
import FermRules.Proofs.RuleText

/-! # Written blocks are read back

Written rules are read line by line with a stack of the headers of open blocks.
A line that opens a block puts its header on the stack, a closing brace takes the
last one away, and any other line is a statement behind all headers of the stack.
Reading what a rule is written as leaves the stack as it was and finds the
statements of the leaves in order, each with the texts of the conditions of its
blocks in front. -/
namespace FermRules

/-! ## Lines -/

namespace Outline

/-- The lines of a text in which every line is ended by a line feed. -/
def lines (text : String) : List String :=
  ((text.toList.splitOn '\n').dropLast).map String.ofList

/-- A line without its margin. -/
def unindented (line : String) : String := String.ofList (line.toList.dropWhile (· = ' '))

/-- The lines of a text without their margins, if the last of them is ended. -/
def texts? (text : String) : Option (List String) :=
  if (text.toList.splitOn '\n').getLast? = some [] then some ((lines text).map unindented)
  else none

/-- The text in front of an opening brace. -/
def header? (line : String) : Option String :=
  if [' ', '\x7b'] <:+ line.toList then some (String.ofList line.toList.dropLast.dropLast)
  else none

/-- The statements of the lines, each behind the headers of its blocks, and the
headers that are left in the end. The last header of the stack is the innermost. -/
def read (stack : List String) : List String → Option (List String × List String)
  | [] => some ([], stack)
  | line :: rest =>
    if line = "\x7d" then
      if stack = [] then none else read stack.dropLast rest
    else match header? line with
      | some header => read (stack ++ [header]) rest
      | none =>
        (read stack rest).map fun (texts, last) => (joinWords (stack ++ [line]) :: texts, last)

end Outline

namespace Layout

variable {registry : Registry}

theorem splitOn_line {line more : String} (h : Text.Unbroken line) :
    (line ++ "\n" ++ more).toList.splitOn '\n' = line.toList :: more.toList.splitOn '\n' := by
  rw [← List.splitOn_append_cons_self_of_not_mem h]
  simp

theorem lines_append {line more : String} (h : Text.Unbroken line) :
    Outline.lines (line ++ "\n" ++ more) = line :: Outline.lines more := by
  rw [Outline.lines, splitOn_line h, List.dropLast_cons_of_ne_nil (List.splitOn_ne_nil _ _),
    List.map_cons, String.ofList_toList, Outline.lines]

theorem texts?_append {line more : String} (h : Text.Unbroken line) :
    Outline.texts? (line ++ "\n" ++ more)
      = (Outline.texts? more).map (Outline.unindented line :: ·) := by
  obtain ⟨first, rest, hmore⟩ := List.exists_cons_of_ne_nil (List.splitOn_ne_nil '\n' more.toList)
  rw [Outline.texts?, splitOn_line h, lines_append h, List.map_cons, hmore, List.getLast?_cons_cons,
    ← hmore, Outline.texts?]
  split
  · rfl
  · rfl

theorem eq_empty_of_texts? {text : String} (h : Outline.texts? text = some []) : text = "" := by
  unfold Outline.texts? at h
  split at h
  · rename_i hlast
    have hfront : (text.toList.splitOn '\n').dropLast = [] := by
      simpa only [Outline.lines, Option.some.injEq, List.map_eq_nil_iff] using h
    have hsplit := List.dropLast_append_getLast? _ hlast
    rw [hfront, List.nil_append] at hsplit
    have hchars : ['\n'].intercalate (text.toList.splitOn '\n') = text.toList :=
      List.intercalate_splitOn '\n'
    rw [← hsplit] at hchars
    exact String.toList_eq_nil_iff.mp hchars.symm
  · cases h

theorem unindented_margin (layout : Layout) (level : Nat) {text : String} (h : Text.Flush text) :
    Outline.unindented (layout.margin level ++ text) = text := by
  obtain ⟨c, cs, ht, hc⟩ := h
  have hdrop : (layout.margin level ++ text).toList.dropWhile (· = ' ') = text.toList := by
    have hblank : ∀ b ∈ List.replicate (layout.indent * level) ' ', decide (b = ' ') = true := by
      intro b hb
      simpa using List.eq_of_mem_replicate hb
    rw [String.toList_append, margin, String.toList_ofList, ht,
      List.dropWhile_append_of_pos hblank, List.dropWhile_cons_of_neg (by simpa using hc)]
  rw [Outline.unindented, hdrop, String.ofList_toList]

/-- The lines that are written can be told apart again, without their margins. -/
theorem lines_write {lines : List ConfigLine} {texts : List String}
    (h : lines.mapM (ConfigLine.render registry) = .ok texts)
    (ht : ∀ t ∈ texts, Text.Unbroken t ∧ Text.Flush t) (layout : Layout) :
    (layout.write registry lines).fault = none ∧
      (Outline.lines (layout.write registry lines).text).map Outline.unindented = texts := by
  induction lines generalizing texts layout with
  | nil =>
    cases h
    exact ⟨rfl, rfl⟩
  | cons line lines ih =>
    rw [List.mapM_cons] at h
    obtain ⟨text, hrender, h⟩ := bind_ok h
    obtain ⟨rest, hrest, h⟩ := bind_ok h
    cases h
    obtain ⟨⟨hline, hflush⟩, hrestline⟩ := List.forall_mem_cons.mp ht
    obtain ⟨hfault, hlines⟩ := ih hrest hrestline ⟨layout.indent, layout.levelBehind text⟩
    have hne : text ≠ "" := by
      rintro rfl
      obtain ⟨c, cs, hcs, _⟩ := hflush
      cases hcs
    have hwrite : layout.write registry (line :: lines)
        = { Layout.write registry ⟨layout.indent, layout.levelBehind text⟩ lines with
            text := layout.margin (layout.levelOf text) ++ text ++ "\n"
              ++ (Layout.write registry ⟨layout.indent, layout.levelBehind text⟩ lines).text } := by
      simp only [write, hrender, put, if_neg hne]
    have hmargin : Text.Unbroken (layout.margin (layout.levelOf text) ++ text) := by
      unfold Text.Unbroken at hline ⊢
      simp [margin, hline]
    rw [hwrite]
    refine ⟨hfault, ?_⟩
    rw [lines_append hmargin, List.map_cons, unindented_margin layout _ hflush, hlines]

end Layout

namespace Outline

variable {registry : Registry}

/-! ## Kinds of lines -/

theorem header?_block (text : String) : header? (text ++ " \x7b") = some text := by
  have hlist : (text ++ " \x7b").toList = text.toList ++ [' ', '\x7b'] := by simp
  rw [header?, hlist, if_pos (List.suffix_append _ _), List.dropLast_append_of_ne_nil (by simp)]
  simp

theorem header?_statement (body : String) : header? (body ++ ";") = none := by
  rw [header?, if_neg]
  intro h
  have hlast := h.getLast (by simp)
  simp at hlast

theorem read_block {stack : List String} (text : String) (rest : List String) :
    read stack ((text ++ " \x7b") :: rest) = read (stack ++ [text]) rest := by
  have hne : text ++ " \x7b" ≠ "\x7d" := by
    intro h
    have := congrArg (·.toList.getLast?) h
    simp at this
  rw [read, if_neg hne, header?_block]

theorem read_close (stack : List String) (text : String) (rest : List String) :
    read (stack ++ [text]) ("\x7d" :: rest) = read stack rest := by
  rw [read, if_pos rfl, if_neg (by simp), List.dropLast_concat]

theorem read_statement (stack : List String) (body : String) (rest : List String) :
    read stack ((body ++ ";") :: rest)
      = (read stack rest).map fun (texts, last) =>
        (joinWords (stack ++ [body ++ ";"]) :: texts, last) := by
  have hne : body ++ ";" ≠ "\x7d" := by
    intro h
    have := congrArg (·.toList.getLast?) h
    simp at this
  rw [read, if_neg hne, header?_statement]

/-! ## Trees -/

/-- Behind the clauses, whose texts are on the stack, the lines can be written;
reading them finds these rules and leaves the stack as it was. -/
def Reads (registry : Registry) (cs : List Clause) (stack : List String)
    (lines : List ConfigLine) (rules : List LeafRule) : Prop :=
  ∃ texts found, lines.mapM (ConfigLine.render registry) = .ok texts ∧
    (∀ t ∈ texts, Text.Unbroken t ∧ Text.Flush t) ∧
    (∀ more, read stack (texts ++ more)
      = (read stack more).map fun (others, last) => (found ++ others, last)) ∧
    found.map (LeafRule.ofText registry) = rules.map fun r => .ok (r.underAll cs).settled

theorem Reads.nil (cs : List Clause) (stack : List String) : Reads registry cs stack [] [] :=
  ⟨[], [], rfl, nofun, fun more => by simp, rfl⟩

theorem Reads.append {cs : List Clause} {stack : List String} {lines more : List ConfigLine}
    {rules others : List LeafRule} (h : Reads registry cs stack lines rules)
    (h' : Reads registry cs stack more others) :
    Reads registry cs stack (lines ++ more) (rules ++ others) := by
  obtain ⟨texts, found, htexts, hline, hread, hfound⟩ := h
  obtain ⟨texts', found', htexts', hline', hread', hfound'⟩ := h'
  refine ⟨texts ++ texts', found ++ found', ?_, List.forall_mem_append.mpr ⟨hline, hline'⟩, ?_, ?_⟩
  · rw [List.mapM_append, htexts, htexts']
    rfl
  · intro rest
    rw [List.append_assoc, hread, hread', Option.map_map]
    simp [Function.comp_def]
  · rw [List.map_append, List.map_append, hfound, hfound']

theorem Reads.statement (hr : registry.Legible) {cs : List Clause} {stack : List String}
    (hstack : cs.mapM Clause.render = .ok stack) {r : LeafRule}
    (h : (r.underAll cs).Legal registry (.start registry)) :
    Reads registry cs stack [.statement r] [r] := by
  obtain ⟨body, hbody, _, hspells, hflush⟩ := (LeafRule.legal_underAll.mp h).2.spells hr
  refine ⟨[body ++ ";"], [joinWords (stack ++ [body ++ ";"])], ?_, ?_, ?_, ?_⟩
  · rw [List.mapM_cons, ConfigLine.render, hbody]
    rfl
  · have hline : Text.Unbroken (body ++ ";") := by
      have := hspells.1
      unfold Text.Unbroken
      simpa using this
    simpa using ⟨hline, hflush.append ";"⟩
  · exact read_statement stack body
  · rw [List.map_singleton, List.map_singleton, ofText_behind hr h hstack hbody]

theorem Reads.block {cs : List Clause} {stack : List String} {c : Clause}
    {text : String} (htext : c.render = .ok text) (hline : Text.Unbroken text)
    (hflush : Text.Flush text) {lines : List ConfigLine} {rules : List LeafRule}
    (h : Reads registry (cs ++ [c]) (stack ++ [text]) lines rules) :
    Reads registry cs stack (.openBlock c :: lines ++ [ConfigLine.close])
      (rules.map (LeafRule.under c)) := by
  obtain ⟨texts, found, htexts, hlines, hread, hfound⟩ := h
  refine ⟨(text ++ " \x7b") :: texts ++ ["\x7d"], found, ?_, ?_, ?_, ?_⟩
  · rw [List.cons_append, List.mapM_cons, ConfigLine.render, htext, List.mapM_append, htexts]
    rfl
  · have hopen : Text.Unbroken (text ++ " \x7b") := by
      unfold Text.Unbroken at hline ⊢
      simpa using hline
    have hclose : Text.Unbroken "\x7d" ∧ Text.Flush "\x7d" :=
      ⟨by decide, '\x7d', [], rfl, by decide⟩
    exact List.forall_mem_append.mpr ⟨List.forall_mem_cons.mpr ⟨⟨hopen, hflush.append _⟩, hlines⟩,
      by simpa using hclose⟩
  · intro more
    rw [List.cons_append, List.cons_append, read_block, List.append_assoc, hread,
      List.singleton_append, read_close]
  · rw [hfound, List.map_map]
    exact List.map_congr_left fun r _ => by rw [Function.comp_apply, LeafRule.underAll_under]

mutual

theorem reads_rule (hr : registry.Legible) : ∀ (rule : Rule) {cs : List Clause}
    {stack : List String}, LegalAll registry (.start registry) cs →
    cs.mapM Clause.render = .ok stack →
    rule.LegalAt registry ((Known.start registry).afterAll registry cs) →
    Reads registry cs stack (ConfigLine.ofRule rule) rule.flatten
  | .leaf r, cs, stack, hcs, hstack, h => by
    rw [Rule.LegalAt] at h
    rw [ConfigLine.ofRule, Rule.flatten]
    exact Reads.statement hr hstack (LeafRule.legal_underAll.mpr ⟨hcs, h⟩)
  | .block c children, cs, stack, hcs, hstack, h => by
    rw [Rule.LegalAt] at h
    obtain ⟨text, htext, _, hspells, hflush⟩ := h.1.written
    have hmore : LegalAll registry (.start registry) (cs ++ [c]) := legalAll_concat.mpr ⟨hcs, h.1⟩
    have hpush : (cs ++ [c]).mapM Clause.render = .ok (stack ++ [text]) := by
      rw [List.mapM_append, hstack, List.mapM_cons, htext]
      rfl
    have hchildren : Rule.AllLegalAt registry
        ((Known.start registry).afterAll registry (cs ++ [c])) children := by
      rw [Known.afterAll_append]
      exact h.2
    rw [ConfigLine.ofRule, Rule.flatten]
    exact (reads_rules hr children hmore hpush hchildren).block htext hspells.1 hflush

theorem reads_rules (hr : registry.Legible) : ∀ (rules : List Rule) {cs : List Clause}
    {stack : List String}, LegalAll registry (.start registry) cs →
    cs.mapM Clause.render = .ok stack →
    Rule.AllLegalAt registry ((Known.start registry).afterAll registry cs) rules →
    Reads registry cs stack (ConfigLine.ofRules rules) (Rule.flattenAll rules)
  | [], cs, stack, _, _, _ => Reads.nil cs stack
  | rule :: rest, cs, stack, hcs, hstack, h => by
    rw [ConfigLine.ofRules, Rule.flattenAll]
    exact (reads_rule hr rule hcs hstack h.1).append (reads_rules hr rest hcs hstack h.2)

end

/-- Legal rules are written as lines that are read back without anything left on
the stack. -/
theorem read_write (hr : registry.Legible) {rules : List Rule}
    (h : Rule.AllLegalAt registry (.start registry) rules) (layout : Layout) :
    (layout.write registry (ConfigLine.ofRules rules)).fault = none ∧ ∃ found,
      read [] ((lines (layout.write registry (ConfigLine.ofRules rules)).text).map unindented)
        = some (found, []) ∧
      found.map (LeafRule.ofText registry)
        = (Rule.flattenAll rules).map fun r => .ok r.settled := by
  have hnone : ([] : List Clause).mapM Clause.render = .ok [] := rfl
  have hlegal : LegalAll registry (.start registry) [] := trivial
  obtain ⟨texts, found, htexts, hline, hread, hfound⟩ := reads_rules hr rules hlegal hnone h
  obtain ⟨hfault, hlines⟩ := Layout.lines_write htexts hline layout
  refine ⟨hfault, found, ?_, hfound⟩
  have hall := hread []
  rw [List.append_nil] at hall
  rw [hlines, hall]
  simp [read]

end Outline

/-- The rule was read from a line, and each module that was left out is covered. -/
def LeafRule.FromLine (registry : Registry) (r : LeafRule) : Prop :=
  ∃ text tokens, Text.Unbroken text ∧ tokenize text = .ok tokens ∧
    ofTokens registry tokens = .ok r ∧ Covered registry tokens

/-- Rules that were read from lines are optimized and written. Read back with a
stack, every statement behind the headers of its blocks is read as a rule, and
these are the leaves of the optimized rules in order, settled. -/
theorem read_optimized (layout : Layout) {rules : List LeafRule}
    (h : ∀ r ∈ rules, r.FromLine .standard) :
    (layout.write .standard (ConfigLine.ofRules (Rule.optimize (rules.map .leaf)))).fault = none ∧
    ∃ found,
      Outline.read [] ((Outline.lines (layout.write .standard
        (ConfigLine.ofRules (Rule.optimize (rules.map .leaf)))).text).map Outline.unindented)
        = some (found, []) ∧
      found.map (LeafRule.ofText .standard)
        = (Rule.flattenAll (Rule.optimize (rules.map .leaf))).map fun r => .ok r.settled := by
  have hr := Registry.legible_standard
  have hlegal : ∀ r ∈ rules, r.Legal .standard (.start .standard) := by
    intro r hm
    obtain ⟨text, tokens, hline, htokens, hread, hcovered⟩ := h r hm
    exact LeafRule.legal_of_text hr hline htokens hcovered hread
  have hall := (Rule.allLegalAt_map_leaf hlegal).optimize hr Known.sound_start
  exact Outline.read_write hr hall layout

def sourceClause : Clause :=
  ⟨"source", .scalar "::1", some ((Keyword.scalar "source").negatable.writtenAs "source-address")⟩

/-- The rule that accepts a protocol at one port from one source. -/
def portRule (protocol : String) : LeafRule :=
  ⟨[sourceClause,
    ⟨"protocol", .scalar protocol, some (Keyword.scalar "protocol").negatable⟩,
    ⟨"destination-port", .scalar "22", some (Keyword.scalar "destination-port").negatable⟩],
    some ⟨.jump, "ACCEPT", []⟩⟩

def portRules : List LeafRule := [portRule "tcp", portRule "udp", ⟨[sourceClause], none⟩]

/-- Two of the rules are merged, and the third one is left without a clause of
its own. -/
theorem read_optimized_ports :
    (∀ r ∈ portRules, r.FromLine .standard) ∧
    ((Layout.start 2).write .standard
        (ConfigLine.ofRules (Rule.optimize (portRules.map .leaf)))).text
      = "source-address ::1 \x7b\n  protocol (tcp udp) destination-port 22 ACCEPT;\n  NOP;\n"
        ++ "\x7d\n" ∧
    ∃ found,
      Outline.read [] ((Outline.lines ((Layout.start 2).write .standard
        (ConfigLine.ofRules (Rule.optimize (portRules.map .leaf)))).text).map Outline.unindented)
        = some (found, []) ∧
      found.map (LeafRule.ofText .standard)
        = (Rule.flattenAll (Rule.optimize (portRules.map .leaf))).map fun r => .ok r.settled := by
  have hlines : ∀ r ∈ portRules, r.FromLine .standard := by
    simp only [portRules, List.forall_mem_cons]
    refine ⟨⟨"-s ::1 -p tcp -m tcp --dport 22 -j ACCEPT",
        ["-s", "::1", "-p", "tcp", "-m", "tcp", "--dport", "22", "-j", "ACCEPT"].map .word, ?_⟩,
      ⟨"-s ::1 -p udp --dport 22 -j ACCEPT",
        ["-s", "::1", "-p", "udp", "--dport", "22", "-j", "ACCEPT"].map .word, ?_⟩,
      ⟨"-s ::1", ["-s", "::1"].map .word, ?_⟩, nofun⟩
    all_goals decide +kernel
  exact ⟨hlines, by decide +kernel, (read_optimized (.start 2) hlines).2⟩

end FermRules
