import FermRules.Text.Blank
import FermRules.Text.Digit

/-! Lines of a dump, by what they say. Blanks around a line and the counters in front of a rule have
no meaning. -/

namespace FermRules

inductive DumpLine where
  | blank
  | comment (text : String)
  | table (name : String)
  /-- Only a built-in chain has a policy. -/
  | chain (name : String) (policy : Option String)
  | rule (chain options : String)
  | commit
  | unknown (text : String)
  deriving DecidableEq, Repr

namespace DumpLine
open Text (isBlank isDecimal stripStart)

/-- The first word, and what follows behind the blanks after it. -/
def splitWord (cs : List Char) : List Char × List Char :=
  (cs.takeWhile (!isBlank ·), stripStart (cs.dropWhile (!isBlank ·)))

def table? : List Char → Option DumpLine
  | '*' :: name =>
    if !name.isEmpty && name.all (!isBlank ·) then some (table (String.ofList name)) else none
  | _ => none

/-- What follows the policy is ignored, unless it goes on behind a line feed. -/
def chain? : List Char → Option DumpLine
  | ':' :: rest =>
    let (name, rest) := splitWord rest
    let (policy, ignored) := splitWord rest
    if name.isEmpty || policy.isEmpty || ignored.contains '\n' then none
    else some (chain (String.ofList name)
      (if policy = ['-'] then none else some (String.ofList policy)))
  | _ => none

/-- What follows a non-empty row of decimal digits. -/
def behindDigits? (cs : List Char) : Option (List Char) :=
  if (cs.takeWhile isDecimal).isEmpty then none else some (cs.dropWhile isDecimal)

def behind? (c : Char) : List Char → Option (List Char)
  | [] => none
  | d :: rest => if d = c then some rest else none

/-- What follows a non-empty row of blanks. -/
def behindBlanks? : List Char → Option (List Char)
  | [] => none
  | c :: rest => if isBlank c then some (stripStart rest) else none

def behindCounters? (cs : List Char) : Option (List Char) := do
  let cs ← behindDigits? (← behind? '[' cs)
  let cs ← behindDigits? (← behind? ':' cs)
  behindBlanks? (← behind? ']' cs)

def uncountedRule? (cs : List Char) : Option DumpLine := do
  let cs ← behindBlanks? (← behind? 'A' (← behind? '-' cs))
  let (name, options) := splitWord cs
  if name.isEmpty || options.contains '\n' then none
  else some (rule (String.ofList name) (String.ofList options))

def rule? (cs : List Char) : Option DumpLine := uncountedRule? ((behindCounters? cs).getD cs)

def ofStripped (cs : List Char) : DumpLine :=
  if cs.isEmpty then blank
  else if cs.head? = some '#' then comment (String.ofList cs)
  else if cs = "COMMIT".toList then commit
  else (((table? cs).or (chain? cs)).or (rule? cs)).getD (unknown (String.ofList cs))

def ofText (text : String) : DumpLine := ofStripped (Text.strip text.toList)

end DumpLine

end FermRules
