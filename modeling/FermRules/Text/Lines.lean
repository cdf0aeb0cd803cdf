/-! Lines of a text. A carriage return followed by a line feed ends one line, and the end of the
text ends a line only if something stands on it. -/

namespace FermRules.Text

def isLineEnd (c : Char) : Bool :=
  (0x0a ≤ c.toNat && c.toNat ≤ 0x0d) || (0x1c ≤ c.toNat && c.toNat ≤ 0x1e)
    || c.toNat = 0x85 || c.toNat = 0x2028 || c.toNat = 0x2029

/-- Puts a character at the front of the first line. -/
def extendFirst (c : Char) : List (List Char) → List (List Char)
  | [] => [[c]]
  | line :: rest => (c :: line) :: rest

def splitLines : List Char → List (List Char)
  | [] => []
  | '\r' :: '\n' :: rest => [] :: splitLines rest
  | c :: rest => if isLineEnd c then [] :: splitLines rest else extendFirst c (splitLines rest)

def lines (text : String) : List String := (splitLines text.toList).map String.ofList

def dropFinalLineFeed (cs : List Char) : List Char :=
  if cs.getLast? = some '\n' then cs.dropLast else cs

end FermRules.Text
