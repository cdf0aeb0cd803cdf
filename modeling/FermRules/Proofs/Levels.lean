import FermRules.Proofs.Outline
import FermRules.Proofs.TidyRules

/-! # Levels of written lines

The printer knows how deep a line stands only from the first and the last
character of the lines before it. This is right if a line that is not a closing
brace never begins with one, and if only the header of a block ends in an
opening brace; braces inside a line, quoted or not, do not count. Each line then
shifts the level as its kind asks for, rules leave it as it was, and the written
text can be checked again without knowing what its lines are. -/
namespace FermRules

/-! ## Checking a text -/

namespace Outline

/-- The number of blocks that are open behind the lines. A line that begins with
a closing brace ends a block, and one that ends in an opening brace begins one.
There is no result if a brace closes nothing, or if a line that is not empty does
not stand `indent` blanks further in for every block around it. -/
def depth? (indent depth : Nat) : List String → Option Nat
  | [] => some depth
  | line :: rest =>
    if line = "" then depth? indent depth rest
    else
      let text := unindented line
      let closes := text.toList.head? = some '\x7d'
      let outer := if closes then depth - 1 else depth
      let opened := if text.toList.getLast? = some '\x7b' then 1 else 0
      if closes ∧ depth = 0 then none
      else if line = String.ofList (List.replicate (indent * outer) ' ') ++ text then
        depth? indent (outer + opened) rest
      else none

end Outline

/-! ## Lines -/

/-- What a line does to the number of open blocks. -/
inductive Text.Shifts : Nat → String → Nat → Prop
  | blank {n : Nat} : Shifts n "" n
  | stays {n : Nat} {text : String} :
      Solid text → text.toList.getLast? ≠ some '\x7b' → Shifts n text n
  | opens {n : Nat} {text : String} :
      Solid text → text.toList.getLast? = some '\x7b' → Shifts n text (n + 1)
  | closes {n : Nat} : Shifts (n + 1) "\x7d" n

namespace Text

theorem Solid.flush {s : String} (h : Solid s) : Flush s := by
  obtain ⟨c, cs, hs, hblank, _⟩ := h.first
  exact ⟨c, cs, hs, hblank⟩

theorem Solid.ne_empty {s : String} (h : Solid s) : s ≠ "" := by
  rintro rfl
  obtain ⟨c, cs, hs, _⟩ := h.first
  cases hs

theorem Solid.head?_ne {s : String} (h : Solid s) : s.toList.head? ≠ some '\x7d' := by
  obtain ⟨c, cs, hs, _, hbrace⟩ := h.first
  rw [hs]
  simpa using hbrace

end Text

namespace Outline

theorem depth?_empty (indent depth : Nat) (rest : List String) :
    depth? indent depth ("" :: rest) = depth? indent depth rest := by
  rw [depth?, if_pos rfl]

/-- What the check makes of a text behind its margin. -/
theorem depth?_margin (layout : Layout) (level : Nat) {text : String} (h : Text.Flush text)
    (depth : Nat) (rest : List String) :
    depth? layout.indent depth ((layout.margin level ++ text) :: rest)
      = if text.toList.head? = some '\x7d' ∧ depth = 0 then none
        else if layout.margin level ++ text
            = layout.margin (if text.toList.head? = some '\x7d' then depth - 1 else depth) ++ text
          then depth? layout.indent
            ((if text.toList.head? = some '\x7d' then depth - 1 else depth)
              + (if text.toList.getLast? = some '\x7b' then 1 else 0)) rest
          else none := by
  have hne : layout.margin level ++ text ≠ "" := by
    intro he
    obtain ⟨c, cs, hcs, _⟩ := h
    have := congrArg String.toList he
    simp [hcs] at this
  rw [depth?, if_neg hne, Layout.unindented_margin layout level h]
  rfl

theorem depth?_solid (layout : Layout) {text : String} (h : Text.Solid text)
    (rest : List String) :
    depth? layout.indent layout.level ((layout.margin layout.level ++ text) :: rest)
      = depth? layout.indent
        (layout.level + (if text.toList.getLast? = some '\x7b' then 1 else 0)) rest := by
  rw [depth?_margin layout _ h.flush, if_neg fun hc => h.head?_ne hc.1, if_neg h.head?_ne,
    if_pos rfl]

theorem depth?_close (layout : Layout) (level : Nat) (rest : List String) :
    depth? layout.indent (level + 1) ((layout.margin level ++ "\x7d") :: rest)
      = depth? layout.indent level rest := by
  have hflush : Text.Flush "\x7d" := ⟨'\x7d', [], rfl, by decide⟩
  have hhead : "\x7d".toList.head? = some '\x7d' := by decide
  have hlast : "\x7d".toList.getLast? ≠ some '\x7b' := by decide
  rw [depth?_margin layout level hflush, if_neg (by simp), if_pos hhead, Nat.add_sub_cancel,
    if_pos rfl, if_neg hlast, Nat.add_zero]

end Outline

namespace Layout

/-- A line that is not empty is written behind its margin. -/
theorem put_of_ne {text : String} (h : text ≠ "") (layout : Layout) :
    layout.put text = (layout.margin (layout.levelOf text) ++ text ++ "\n",
      ⟨layout.indent, layout.levelBehind text⟩) := by
  rw [put, if_neg h]

theorem levelOf_solid {text : String} (h : Text.Solid text) (layout : Layout) :
    layout.levelOf text = layout.level := by
  rw [levelOf, if_neg h.head?_ne]

theorem unbroken_margin (layout : Layout) (level : Nat) :
    Text.Unbroken (layout.margin level) := by
  unfold Text.Unbroken
  simp [margin]

/-- The printer and the check agree on what a line does to the level, and behind its
margin the line is the text. -/
theorem put_of_shifts {layout : Layout} {text : String} {m : Nat}
    (h : Text.Shifts layout.level text m) :
    ∃ line, layout.put text = (line ++ "\n", ⟨layout.indent, m⟩) ∧ Text.Unbroken line ∧
      Outline.unindented line = text ∧
      ∀ rest, Outline.depth? layout.indent layout.level (line :: rest)
        = Outline.depth? layout.indent m rest := by
  obtain ⟨indent, n⟩ := layout
  cases h with
  | blank =>
    exact ⟨"", rfl, by decide, rfl, fun rest => Outline.depth?_empty indent n rest⟩
  | stays hsolid hlast =>
    refine ⟨(Layout.mk indent n).margin n ++ text, ?_, ?_, ?_, fun rest => ?_⟩
    · rw [put_of_ne hsolid.ne_empty, levelBehind, levelOf_solid hsolid, if_neg hlast]
      rfl
    · exact (unbroken_margin _ n).append hsolid.unbroken
    · exact unindented_margin _ n hsolid.flush
    · rw [Outline.depth?_solid ⟨indent, n⟩ hsolid, if_neg hlast]
      rfl
  | opens hsolid hlast =>
    refine ⟨(Layout.mk indent n).margin n ++ text, ?_, ?_, ?_, fun rest => ?_⟩
    · rw [put_of_ne hsolid.ne_empty, levelBehind, levelOf_solid hsolid, if_pos hlast]
    · exact (unbroken_margin _ n).append hsolid.unbroken
    · exact unindented_margin _ n hsolid.flush
    · rw [Outline.depth?_solid ⟨indent, n⟩ hsolid, if_pos hlast]
  | closes =>
    refine ⟨(Layout.mk indent m).margin m ++ "\x7d", ?_, ?_, ?_, fun rest => ?_⟩
    · rw [put_of_ne (by decide), levelBehind, levelOf, if_pos (by decide), if_neg (by decide)]
      rfl
    · exact (unbroken_margin _ m).append (by decide)
    · exact unindented_margin _ m ⟨'\x7d', [], rfl, by decide⟩
    · exact Outline.depth?_close ⟨indent, m⟩ m rest

/-- Writing goes on where it stopped. -/
theorem write_append {registry : Registry} {lines : List ConfigLine} {layout : Layout}
    (h : (layout.write registry lines).fault = none) (more : List ConfigLine) :
    layout.write registry (lines ++ more)
      = { (layout.write registry lines).layout.write registry more with
          text := (layout.write registry lines).text
            ++ ((layout.write registry lines).layout.write registry more).text } := by
  induction lines generalizing layout with
  | nil => simp [write]
  | cons line lines ih =>
    unfold write at h
    cases hline : line.render registry with
    | error fault =>
      rw [hline] at h
      cases h
    | ok text =>
      rw [hline] at h
      have htail : (Layout.write registry (layout.put text).2 lines).fault = none := h
      simp only [List.cons_append, write, hline, ih htail, String.append_assoc]

end Layout

namespace ConfigLine

variable {registry : Registry}

/-- The line has a text, and the text does this. -/
def Shifts (registry : Registry) (n : Nat) (line : ConfigLine) (m : Nat) : Prop :=
  ∃ text, line.render registry = .ok text ∧ Text.Shifts n text m

inductive ShiftsAll (registry : Registry) : Nat → List ConfigLine → Nat → Prop
  | nil {n : Nat} : ShiftsAll registry n [] n
  | cons {n mid m : Nat} {line : ConfigLine} {lines : List ConfigLine} :
      line.Shifts registry n mid → ShiftsAll registry mid lines m →
      ShiftsAll registry n (line :: lines) m

namespace ShiftsAll

variable {n mid m : Nat} {lines more : List ConfigLine}

theorem single {line : ConfigLine} (h : line.Shifts registry n m) :
    ShiftsAll registry n [line] m := .cons h .nil

theorem append (h : ShiftsAll registry n lines mid) (h' : ShiftsAll registry mid more m) :
    ShiftsAll registry n (lines ++ more) m := by
  induction h with
  | nil => exact h'
  | cons hline _ ih => exact .cons hline (ih h')

/-- Lines that shift the level are written without a fault, the layout behind
them is at the new level, and the check of the text ends there too. -/
theorem write (h : ShiftsAll registry n lines m) (indent : Nat) :
    ((Layout.mk indent n).write registry lines).fault = none ∧
    ((Layout.mk indent n).write registry lines).layout = ⟨indent, m⟩ ∧
    Outline.depth? indent n (Outline.lines ((Layout.mk indent n).write registry lines).text)
      = some m := by
  induction h with
  | nil => exact ⟨rfl, rfl, rfl⟩
  | @cons n mid m line lines hline _ ih =>
    obtain ⟨text, hrender, hshifts⟩ := hline
    obtain ⟨written, hput, hunbroken, _, hdepth⟩ :=
      @Layout.put_of_shifts ⟨indent, n⟩ _ _ hshifts
    obtain ⟨hfault, hlayout, hrest⟩ := ih
    simp only [Layout.write, hrender, hput]
    refine ⟨hfault, hlayout, ?_⟩
    rw [Layout.lines_append hunbroken, hdepth, hrest]

theorem of_append (h : ShiftsAll registry n (lines ++ more) m) :
    ∃ mid, ShiftsAll registry n lines mid ∧ ShiftsAll registry mid more m := by
  induction lines generalizing n with
  | nil => exact ⟨n, .nil, h⟩
  | cons line lines ih =>
    cases h with
    | cons hline hrest =>
      obtain ⟨mid, hlines, hmore⟩ := ih hrest
      exact ⟨mid, .cons hline hlines, hmore⟩

/-- The written text has one line for each of them, which says what that one says. -/
theorem texts (h : ShiftsAll registry n lines m) (indent : Nat) :
    ∃ texts, lines.mapM (render registry) = .ok texts ∧
      Outline.texts? ((Layout.mk indent n).write registry lines).text = some texts := by
  induction h with
  | nil => exact ⟨[], rfl, rfl⟩
  | @cons n mid m line lines hline _ ih =>
    obtain ⟨text, hrender, hshifts⟩ := hline
    obtain ⟨written, hput, hunbroken, htext, _⟩ := @Layout.put_of_shifts ⟨indent, n⟩ _ _ hshifts
    obtain ⟨texts, hrenders, hrest⟩ := ih
    refine ⟨text :: texts, ?_, ?_⟩
    · rw [List.mapM_cons, hrender, hrenders]
      rfl
    · simp only [Layout.write, hrender, hput]
      rw [Layout.texts?_append hunbroken, hrest, htext]
      rfl

/-- Lines that are written behind others only add their text. -/
theorem write_behind (h : ShiftsAll registry n (lines ++ more) m) (indent : Nat) :
    ∃ behind texts,
      ((Layout.mk indent n).write registry (lines ++ more)).text
        = ((Layout.mk indent n).write registry lines).text ++ behind ∧
      more.mapM (render registry) = .ok texts ∧ Outline.texts? behind = some texts := by
  obtain ⟨mid, hlines, hmore⟩ := h.of_append
  obtain ⟨hfault, hlayout, _⟩ := hlines.write indent
  obtain ⟨texts, hrenders, htexts⟩ := hmore.texts indent
  refine ⟨_, texts, ?_, hrenders, htexts⟩
  rw [Layout.write_append hfault, hlayout]

end ShiftsAll

/-! ## Kinds of lines -/

theorem shifts_block {n : Nat} {line : ConfigLine} {text : String}
    (hrender : line.render registry = .ok (text ++ " \x7b")) (h : Text.Solid text) :
    line.Shifts registry n (n + 1) := by
  refine ⟨_, hrender, .opens (h.append (by decide)) ?_⟩
  simp

theorem shifts_statement {n : Nat} {line : ConfigLine} {text : String}
    (hrender : line.render registry = .ok (text ++ ";")) (h : Text.Solid text) :
    line.Shifts registry n n := by
  refine ⟨_, hrender, .stays (h.append (by decide)) ?_⟩
  simp

theorem shifts_close (registry : Registry) (n : Nat) :
    ConfigLine.close.Shifts registry (n + 1) n := ⟨_, rfl, .closes⟩

mutual

theorem shifts_rule (hr : registry.Legible) : ∀ (rule : Rule) (n : Nat),
    rule.Tidy registry → ShiftsAll registry n (ofRule rule) n
  | .leaf r, n, h => by
    rw [Rule.Tidy] at h
    obtain ⟨body, hrender, hbody⟩ := h.line hr
    rw [ofRule]
    exact .single (shifts_statement hrender hbody)
  | .block c children, n, h => by
    rw [Rule.Tidy] at h
    obtain ⟨text, hrender, htext⟩ := h.1.line
    have hopen : (openBlock c).render registry = .ok (text ++ " \x7b") := by
      rw [render, hrender]
      rfl
    rw [ofRule]
    exact .cons (shifts_block hopen htext)
      ((shifts_rules hr children (n + 1) h.2).append (.single (shifts_close registry n)))

/-- However deep the blocks are nested, the rules leave the level as it was. -/
theorem shifts_rules (hr : registry.Legible) : ∀ (rules : List Rule) (n : Nat),
    Rule.AllTidy registry rules → ShiftsAll registry n (ofRules rules) n
  | [], n, _ => .nil
  | rule :: rest, n, h => by
    rw [Rule.AllTidy] at h
    rw [ofRules]
    exact (shifts_rule hr rule n h.1).append (shifts_rules hr rest n h.2)

end

end ConfigLine

end FermRules
