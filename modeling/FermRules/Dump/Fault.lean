import FermRules.Rule.Fault

/-! What may be wrong with a line of a dump, and where. -/

namespace FermRules

inductive FaultKind where
  | structural
  | arity
  | grammar
  | quoting
  | unrecognized
  deriving DecidableEq, Repr

/-- A fatal fault ends the conversion, any other only the line. -/
def FaultKind.isFatal : FaultKind → Bool
  | structural | arity => true
  | grammar | quoting | unrecognized => false

/-- Lines that belong into a table. -/
inductive TableLine where
  | chain
  | rule
  | commit
  deriving DecidableEq, Repr

def TableLine.name : TableLine → String
  | chain => "chain declaration"
  | rule => "rule"
  | commit => "COMMIT"

inductive DumpFault where
  | outsideTable (line : TableLine)
  | unknownPolicy (policy chain : String)
  | unrecognized (text : String)
  | rule (fault : RuleFault)
  deriving DecidableEq, Repr

def RuleFault.kind : RuleFault → FaultKind
  | unclosedQuote _ => .quoting
  | missingParameter _ | nothingNegated | unclosedArray _ => .arity
  | _ => .grammar

namespace DumpFault

def kind : DumpFault → FaultKind
  | outsideTable _ => .structural
  | unknownPolicy .. => .grammar
  | unrecognized _ => .unrecognized
  | rule fault => fault.kind

def isFatal (f : DumpFault) : Bool := f.kind.isFatal

def message : DumpFault → String
  | outsideTable line => line.name ++ " outside of a table"
  | unknownPolicy policy chain => "unknown policy " ++ Text.quoted policy ++ " for chain " ++ chain
  | unrecognized text => "unrecognized line: " ++ text
  | rule fault => fault.message

end DumpFault

/-- A fault with the number of its line, if that is known. -/
structure LocatedFault where
  fault : DumpFault
  line : Option Int
  deriving DecidableEq, Repr

def LocatedFault.message (f : LocatedFault) : String :=
  match f.line with
  | none => f.fault.message
  | some n => "line " ++ toString n ++ ": " ++ f.fault.message

end FermRules
