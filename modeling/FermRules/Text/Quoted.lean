import FermRules.Text.Printable

/-! How messages quote a text: between single quotes, or between double ones when it holds a single
quote and no double one, with everything that cannot be shown written as an escape. -/

namespace FermRules.Text

def hexDigits (width n : Nat) : String :=
  let digits := Nat.toDigits 16 n
  String.ofList (List.replicate (width - digits.length) '0' ++ digits)

def escapedChar (delimiter c : Char) : String :=
  if c = delimiter || c = '\\' then "\\" ++ String.singleton c
  else if c = '\n' then "\\n"
  else if c = '\r' then "\\r"
  else if c = '\t' then "\\t"
  else if isPrintable c then String.singleton c
  else if c.toNat < 0x100 then "\\x" ++ hexDigits 2 c.toNat
  else if c.toNat < 0x10000 then "\\u" ++ hexDigits 4 c.toNat
  else "\\U" ++ hexDigits 8 c.toNat

def quoteDelimiter (text : String) : Char :=
  if text.toList.contains '\'' && !text.toList.contains '"' then '"' else '\''

def quoted (text : String) : String :=
  let delimiter := quoteDelimiter text
  String.singleton delimiter ++ String.join (text.toList.map (escapedChar delimiter))
    ++ String.singleton delimiter

end FermRules.Text
