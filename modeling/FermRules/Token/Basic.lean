/-! Tokens of a rule: words, and quoted literals whose text has no meaning of its own. -/

namespace FermRules

structure Token where
  text : String
  quoted : Bool
  deriving DecidableEq, Repr

namespace Token

def word (text : String) : Token := ⟨text, false⟩

def literal (text : String) : Token := ⟨text, true⟩

def isNegation (t : Token) : Bool := !t.quoted && t.text = "!"

def startsWith (t : Token) (c : Char) : Bool := !t.quoted && t.text.toList.head? = some c

def endsWith (t : Token) (c : Char) : Bool := !t.quoted && t.text.toList.getLast? = some c

end Token

end FermRules
