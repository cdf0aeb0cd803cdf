import FermRules.Keyword.Basic
import FermRules.Text.Lines
import FermRules.Text.Number
import FermRules.Text.Quoted
import FermRules.Text.WordChar

/-! The compact spelling of a keyword, `[!]name[!][+][=shape][>output]`: a mark before or after the
name allows a negation there, `+` lets the keyword accumulate. A shape is `s` (scalar), `l`
(literal), `c` (list), a number of words, or a row of `s` and `c` (composite); without one the
keyword is a flag. One line feed at the end is ignored. -/

namespace FermRules

inductive CompactFault where
  | malformed (text : String)
  | badShape (text : String)
  | notDecimal (code : String)
  | tooLong (digits : Nat)
  deriving DecidableEq, Repr

/-- Characters that are shown of a quoted number. -/
def quotedLength : Nat := 200

def CompactFault.message : CompactFault → String
  | malformed text => "Invalid keyword notation: " ++ Text.quoted text
  | badShape text => "Invalid parameter shape in " ++ Text.quoted text
  | notDecimal code =>
    "invalid literal for int() with base 10: "
      ++ String.ofList ((Text.quoted code).toList.take quotedLength)
  | tooLong digits =>
    "Exceeds the limit (" ++ toString Text.maxDigits
      ++ " digits) for integer string conversion: value has " ++ toString digits
      ++ " digits; use sys.set_int_max_str_digits() to increase the limit"

namespace FieldShape

def code : FieldShape → Char
  | scalar => 's'
  | list => 'c'

def ofCode? : Char → Option FieldShape
  | 's' => some scalar
  | 'c' => some list
  | _ => none

theorem ofCode?_code (f : FieldShape) : ofCode? f.code = some f := by cases f <;> rfl

end FieldShape

namespace Shape

/-- None for a flag, which has no code. -/
def code? : Shape → Option String
  | flag => none
  | scalar => some "s"
  | literal => some "l"
  | fixed count => some (toString count)
  | list => some "c"
  | composite fields => some (String.ofList (fields.map FieldShape.code))

/-- A row of two fields or more is a composite; `s` and `c` alone are shapes of their own. -/
def ofLetters? : List Char → Option Shape
  | ['s'] => some scalar
  | ['l'] => some literal
  | ['c'] => some list
  | cs => if 1 < cs.length then (cs.mapM FieldShape.ofCode?).map composite else none

/-- The shape of a code; `text` is the whole spelling, for messages. -/
def ofCode (text : String) (code : List Char) : Except CompactFault Shape :=
  if code.all Text.isDigit then
    let digits := (code.takeWhile Text.isDecimal).length
    if Text.maxDigits < digits then .error (.tooLong digits)
    else match Text.natural? Text.decimalValue? code with
      | none => .error (.notDecimal (String.ofList code))
      | some 0 => .error (.badShape text)
      | some (count + 1) => .ok (fixed (count + 1))
  else
    match ofLetters? code with
    | none => .error (.badShape text)
    | some shape => .ok shape

end Shape

namespace Keyword

def isNameChar (c : Char) : Bool := Text.isWordChar c || c = '-'

/-- The parts of a spelling before their meaning is checked. -/
structure Spelling where
  leadingMark : Bool
  name : List Char
  trailingMark : Bool
  accumulates : Bool
  code : Option (List Char)
  output : Option (List Char)

/-- Takes the mark away if it stands in front. -/
def takeMark (mark : Char) : List Char → Bool × List Char
  | [] => (false, [])
  | c :: rest => if c = mark then (true, rest) else (false, c :: rest)

/-- Takes a mark and the non-empty word behind it away if they stand in front. -/
def takeMarked (mark : Char) (inWord : Char → Bool) (cs : List Char) :
    Option (List Char) × List Char :=
  match takeMark mark cs with
  | (false, _) => (none, cs)
  | (true, rest) =>
    let word := rest.takeWhile inWord
    if word.isEmpty then (none, cs) else (some word, rest.dropWhile inWord)

def spelling? (text : List Char) : Option Spelling :=
  let (leadingMark, rest) := takeMark '!' (Text.dropFinalLineFeed text)
  let name := rest.takeWhile isNameChar
  let (trailingMark, rest) := takeMark '!' (rest.dropWhile isNameChar)
  let (accumulates, rest) := takeMark '+' rest
  let (code, rest) := takeMarked '=' Text.isWordChar rest
  let (output, rest) := takeMarked '>' isNameChar rest
  if name.isEmpty || !rest.isEmpty || (leadingMark && trailingMark) then none
  else some ⟨leadingMark, name, trailingMark, accumulates, code, output⟩

def Spelling.negation (s : Spelling) : Negation :=
  if s.leadingMark then .before else if s.trailingMark then .after else .never

def ofCompact (text : String) : Except CompactFault Keyword :=
  match spelling? text.toList with
  | none => .error (.malformed text)
  | some s => do
    let shape ← match s.code with
      | none => .ok .flag
      | some code => Shape.ofCode text code
    return ⟨String.ofList s.name, shape, s.negation, s.output.map String.ofList, s.accumulates⟩

def compact (k : Keyword) : String :=
  (if k.negation = .before then "!" else "") ++ k.name ++ (if k.negation = .after then "!" else "")
    ++ (if k.accumulates then "+" else "")
    ++ (match k.shape.code? with | none => "" | some code => "=" ++ code)
    ++ (match k.outputName with | none => "" | some output => ">" ++ output)

end Keyword

end FermRules
