import FermRules.Text.Ranges

/-! Blanks: the characters that separate words and that are trimmed from lines. -/

namespace FermRules.Text

def blankRanges : Ranges :=
  [(9, 13), (28, 32), (133, 133), (160, 160), (5760, 5760), (8192, 8202), (8232, 8233),
   (8239, 8239), (8287, 8287), (12288, 12288)]

def isBlank (c : Char) : Bool := blankRanges.contains c.toNat

def stripStart (cs : List Char) : List Char := cs.dropWhile isBlank

/-- Takes the characters of a class away from both ends. -/
def trim (inClass : Char → Bool) (cs : List Char) : List Char :=
  ((cs.dropWhile inClass).reverse.dropWhile inClass).reverse

def strip (cs : List Char) : List Char := trim isBlank cs

end FermRules.Text
