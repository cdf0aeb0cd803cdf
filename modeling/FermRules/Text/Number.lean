import FermRules.Text.Blank
import FermRules.Text.Digit

/-! Numbers in base ten. Which characters are digits, and of what value, is a parameter. -/

namespace FermRules.Text

/-- The most digits that a number may have. -/
def maxDigits : Nat := 4300

def natural? (digit? : Char → Option Nat) (cs : List Char) : Option Nat :=
  if cs.isEmpty then none else cs.foldlM (fun n c => (digit? c).map (n * 10 + ·)) 0

/-- Takes away single underscores between characters; all others stay, and so spoil a number. -/
def dropUnderscores : List Char → List Char
  | [] => []
  | c :: '_' :: d :: rest => c :: dropUnderscores (d :: rest)
  | c :: rest => c :: dropUnderscores rest

def grouped? (digit? : Char → Option Nat) (cs : List Char) : Option Int :=
  (natural? digit? (dropUnderscores cs)).map Int.ofNat

def signed? (digit? : Char → Option Nat) : List Char → Option Int
  | '-' :: cs => (grouped? digit? cs).map (- ·)
  | '+' :: cs => grouped? digit? cs
  | cs => grouped? digit? cs

/-- Blanks that may surround a number: all but the separators of files, groups, records, units. -/
def isPadding (c : Char) : Bool := isBlank c && !(0x1c ≤ c.toNat && c.toNat ≤ 0x1f)

def integer? (digit? : Char → Option Nat) (cs : List Char) : Option Int :=
  if maxDigits < cs.countP (fun c => (digit? c).isSome) then none
  else signed? digit? (trim isPadding cs)

end FermRules.Text
