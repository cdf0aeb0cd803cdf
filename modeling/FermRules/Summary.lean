import FermRules.Dump.Event
import FermRules.Text.Console

/-! The report of a conversion as a table with one row for each chain. A table that would be wider
than the console takes the cells that are too many from its widest columns. -/

namespace FermRules.Summary

open Text (cells)

inductive Side where
  | left
  | right

/-- Blanks on the other side make the text `width` cells wide. -/
def pad (side : Side) (width : Nat) (text : List Char) : List Char :=
  let blanks := List.replicate (width - cells text) ' '
  match side with
  | .left => text ++ blanks
  | .right => blanks ++ text

/-- A text that is too wide ends in dots. -/
def fit (side : Side) (width : Nat) (text : List Char) : List Char :=
  if cells text ≤ width then pad side width text
  else pad side width (Text.Console.cut (width - 1) text ++ ['…'])

def headings : List (String × Side) :=
  [("Domain", .left), ("Table", .left), ("Chain", .left), ("Rules", .right), ("Statements", .right)]

def entries (s : ChainSummary) : List (List Char) :=
  [s.domain, s.table, s.chain, toString s.rules, toString s.statements].map Text.Console.shown

/-- What the columns of the widest table take up, without the bars between and around them. -/
def room : Nat := Text.Console.width - (headings.length + 1)

/-- Every column is as wide as its widest entry with a blank on each side. -/
def widths (rows : List (List (List Char))) : List Nat :=
  rows.foldl (List.zipWith fun width entry => min room (max width (cells entry + 2)))
    (headings.map (·.1.length + 2))

/-- The nearest natural number to a quotient, and the even one of two. -/
def nearest (n k : Nat) : Nat :=
  if k < 2 * (n % k) || (2 * (n % k) = k && n / k % 2 = 1) then n / k + 1 else n / k

/-- Takes `excess` from `columns` columns that are as wide as the widest, `most` at most from
each. -/
def takeEvenly (widest most : Nat) : Nat → Nat → List Nat → List Nat
  | _, _, [] => []
  | excess, columns, width :: rest =>
    if width = widest then
      let part := min most (nearest excess columns)
      (width - part) :: takeEvenly widest most (excess - part) (columns - 1) rest
    else width :: takeEvenly widest most excess columns rest

def total (widths : List Nat) : Nat := widths.foldl (· + ·) 0

/-- Narrows the widest columns to the next widest, and all these again, for so many rounds. -/
def narrow : Nat → List Nat → List Nat
  | 0, widths => widths
  | rounds + 1, widths =>
    let excess := total widths - room
    let widest := widths.foldl max 0
    let next := (widths.filter (· ≠ widest)).foldl max 0
    if excess = 0 then widths
    else narrow rounds
      (takeEvenly widest (min excess (widest - next)) excess (widths.count widest) widths)

/-- A round leaves fewer different widths, or none that is too wide. -/
def fittingWidths (rows : List (List (List Char))) : List Nat :=
  narrow headings.length (widths rows)

/-- A line across the table, by what stands at its left end, in it, between columns, and at its
right end. -/
structure Border where
  left : String
  fill : Char
  between : String
  right : String

def Border.draw (b : Border) (widths : List Nat) : String :=
  let parts := widths.map fun w => String.ofList (List.replicate w b.fill)
  b.left ++ b.between.intercalate parts ++ b.right ++ "\n"

def row (bar : String) (widths : List Nat) (entries : List (List Char)) : String :=
  let padded := List.zipWith (fun (w, (_, side)) entry =>
      String.ofList (' ' :: fit side (w - 2) entry ++ [' ']))
    (widths.zip headings) entries
  bar ++ bar.intercalate padded ++ bar ++ "\n"

/-- An odd blank goes to the right. -/
def centre (width : Nat) (text : List Char) : List Char :=
  pad .left width (pad .right (cells text + (width - cells text) / 2) text)

def tableWidth (widths : List Nat) : Nat := total widths + widths.length + 1

def table (summaries : List ChainSummary) : String :=
  let rows := summaries.map entries
  let widths := fittingWidths rows
  String.ofList (centre (tableWidth widths) "Import Summary".toList) ++ "\n"
    ++ Border.draw ⟨"┏", '━', "┳", "┓"⟩ widths
    ++ row "┃" widths (headings.map (·.1.toList))
    ++ Border.draw ⟨"┡", '━', "╇", "┩"⟩ widths
    ++ String.join (rows.map (row "│" widths))
    ++ Border.draw ⟨"└", '─', "┴", "┘"⟩ widths

def closing (skipped : Nat) : String :=
  if skipped = 0 then "✓ All lines converted\n"
  else toString skipped ++ " line(s) skipped, see warnings above\n"

def text (events : List Event) : String :=
  table (chainSummaries events) ++ closing (diagnostics events).length

end FermRules.Summary
