import FermRules.Text.Lines

/-! Writing a text as a single token: as it is when it consists of simple characters, and between
double quotes otherwise. One line feed at the end does not count against a simple text. -/

namespace FermRules.Token

def isSimpleChar (c : Char) : Bool :=
  c.isAlphanum || ['_', '.', ':', '/', '@', '%', '+', '-'].contains c

def isSimple (text : String) : Bool :=
  let cs := Text.dropFinalLineFeed text.toList
  !cs.isEmpty && cs.all isSimpleChar

def escape : List Char → List Char
  | [] => []
  | c :: rest => if c = '"' || c = '\\' then '\\' :: c :: escape rest else c :: escape rest

def write (text : String) : String :=
  if isSimple text then text else String.ofList ('"' :: escape text.toList ++ ['"'])

end FermRules.Token
