import FermRules.Text.Blank
import FermRules.Text.CellWidth
import FermRules.Text.Markup

/-! Markup as a console of fixed width shows it. Some control characters are left out, a tab reaches
to the next multiple of eight columns, and a line is broken before a word that does not fit in what
is left of it. A word that fits on no line starts on a line of its own and fills as many as it
takes. -/

namespace FermRules.Text.Console

/-- In cells. -/
def width : Nat := 1000

def tabWidth : Nat := 8

/-- Bell, backspace, vertical tab, form feed and carriage return. -/
def isSilent (c : Char) : Bool := [7, 8, 11, 12, 13].contains c.toNat

/-- The characters that a markup shows. -/
def shown (markup : String) : List Char := (Markup.shown markup).toList.filter fun c => !isSilent c

/-- Joins the parts of a line between its tabs, with `column` cells in front of them. -/
def expandTabs (column : Nat) : List (List Char) → List Char
  | [] => []
  | [part] => part
  | part :: rest =>
    let column := column + cells part
    let blanks := tabWidth - column % tabWidth
    part ++ List.replicate blanks ' ' ++ expandTabs (column + blanks) rest

/-- The words of a line with the blanks behind them; the first word has those in front of it too. -/
def words (cs : List Char) : List (List Char) :=
  match cs.splitBy fun a b => !isBlank a || isBlank b with
  | first :: second :: rest =>
    if first.all isBlank then (first ++ second) :: rest else first :: second :: rest
  | parts => parts

def trimEnd (cs : List Char) : List Char := (cs.reverse.dropWhile isBlank).reverse

/-- Puts characters at the front of the first line. -/
def extendLine (cs : List Char) : List (List Char) → List (List Char)
  | [] => [cs]
  | line :: rest => (cs ++ line) :: rest

/-- Cuts into pieces as wide as a line, the first of them as wide as `room`. -/
def chop (room : Nat) : List Cluster → List (List Char)
  | [] => []
  | c :: cs =>
    if c.cells ≤ room then extendLine c.chars (chop (room - c.cells) cs)
    else [] :: extendLine c.chars (chop (width - c.cells) cs)

/-- Lines that begin with `line`, of `column` cells, and go on with the words. -/
def fill (line : List Char) (column : Nat) : List (List Char) → List (List Char)
  | [] => [line]
  | word :: rest =>
    let wordCells := cells (trimEnd word)
    if column + wordCells ≤ width then fill (line ++ word) (column + cells word) rest
    else
      let pieces := if width < wordCells then chop width (clusters word) else [word]
      let last := pieces.getLast?.getD []
      (if line.isEmpty then [] else [line]) ++ pieces.dropLast ++ fill last (cells last) rest

/-- Takes blanks from the end of a line, no more than it has characters too many. -/
def dropBlanks (cs : List Char) : List Char :=
  cs.take (max (trimEnd cs).length (min cs.length width))

/-- What fits into `room` cells. A blank stands for half of a wide character. -/
def cutClusters (room : Nat) : List Cluster → List Char
  | [] => []
  | c :: cs =>
    if c.cells ≤ room then c.chars ++ cutClusters (room - c.cells) cs
    else List.replicate room ' '

def cut (room : Nat) (cs : List Char) : List Char :=
  if cells cs ≤ room then cs else cutClusters room (clusters cs)

def wrap (cs : List Char) : List (List Char) :=
  (fill [] 0 (words cs)).map fun line => cut width (dropBlanks line)

def display (markup : String) : String :=
  let lines := (shown markup).splitOn '\n'
  String.ofList (['\n'].intercalate
    (lines.flatMap fun line => wrap (expandTabs 0 (line.splitOn '\t'))))

end FermRules.Text.Console
