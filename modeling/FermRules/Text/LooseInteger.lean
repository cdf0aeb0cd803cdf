import FermRules.Text.Number

/-! Integers in a loose spelling. Blanks may stand around the number; a sign and then zeros, with
underscores behind them, in front of it; a point with zeros at its end. Single underscores may
stand within it. What is left when all these but a minus sign are gone must be a canonical
integer. -/

namespace FermRules.Text.LooseInteger

inductive Fault where
  | malformed
  | tooLong
  deriving DecidableEq, Repr

/-- A plus sign in front of a minus sign stays, and so spoils the number. -/
def dropPlus : List Char → List Char
  | '+' :: '-' :: cs => '+' :: '-' :: cs
  | '+' :: cs => cs
  | cs => cs

def isFiller (c : Char) : Bool := c = '0' || c = '_'

/-- Drops a zero in front and the zeros and underscores behind it. The last of them stays where
the number ends there. A minus sign may follow them. -/
def dropZeros (cs : List Char) : List Char :=
  let rest := cs.dropWhile isFiller
  if cs.head? ≠ some '0' then cs
  else if rest.isEmpty || rest.head? = some '.' then
    (cs.takeWhile isFiller).getLast?.toList ++ rest
  else rest

/-- Drops a point if zeros and nothing else stand behind it. -/
def dropZeroPlaces (cs : List Char) : List Char :=
  let places := (cs.dropWhile (· ≠ '.')).drop 1
  if !places.isEmpty && places.all (· = '0') then cs.takeWhile (· ≠ '.') else cs

def cleanUnsigned (cs : List Char) : List Char := dropUnderscores (dropZeroPlaces (dropZeros cs))

def clean (cs : List Char) : List Char :=
  match dropPlus (trim isPadding cs) with
  | '-' :: cs => '-' :: cleanUnsigned cs
  | cs => cleanUnsigned cs

/-- No other digit stands behind a zero in front. -/
def canonicalNatural? (cs : List Char) : Option Nat :=
  if cs.head? = some '0' && cs ≠ ['0'] then none else natural? asciiValue? cs

def canonical? : List Char → Option Int
  | '-' :: cs => (canonicalNatural? cs).map fun n => -(n : Int)
  | cs => (canonicalNatural? cs).map Int.ofNat

/-- The length of the number that starts here, of its sign too. -/
def numberLength : List Char → Nat
  | '-' :: cs => if cs.head? = some '0' then 2 else (cs.takeWhile Char.isDigit).length + 1
  | cs => if cs.head? = some '0' then 1 else (cs.takeWhile Char.isDigit).length

def read (cs : List Char) : Except Fault Int :=
  let number := clean cs
  if maxDigits < numberLength number then .error .tooLong
  else match canonical? number with
    | some n => .ok n
    | none => .error .malformed

end FermRules.Text.LooseInteger
