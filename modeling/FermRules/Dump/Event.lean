import FermRules.Config.Line
import FermRules.Dump.Fault

/-! What happens in a conversion, in order. The configuration, the report and the log are views of
the same events. -/

namespace FermRules

/-- A converted chain, with the number of rules read and of statements written. -/
structure ChainSummary where
  domain : String
  table : String
  chain : String
  rules : Nat
  statements : Nat
  deriving DecidableEq, Repr

inductive Event where
  | wrote (line : ConfigLine)
  | closedChain (summary : ChainSummary)
  | unknownModule (name : String) (line : Int)
  | skipped (fault : LocatedFault)
  deriving DecidableEq, Repr

inductive LogLevel where
  | debug
  | warning
  deriving DecidableEq, Repr

structure LogRecord where
  level : LogLevel
  message : String
  deriving DecidableEq, Repr

def LogRecord.text (r : LogRecord) : String :=
  (match r.level with
    | .debug => "DEBUG "
    | .warning => "WARNING ") ++ r.message

namespace Event

def ofLines (lines : List ConfigLine) : List Event := lines.map wrote

def line? : Event → Option ConfigLine
  | wrote line => some line
  | _ => none

def summary? : Event → Option ChainSummary
  | closedChain summary => some summary
  | _ => none

def diagnostic? : Event → Option String
  | skipped fault => some fault.message
  | _ => none

def record? : Event → Option LogRecord
  | wrote _ => none
  | closedChain s => some ⟨.debug, "chain " ++ s.chain ++ ": " ++ toString s.rules ++ " rules -> "
      ++ toString s.statements ++ " statements"⟩
  | unknownModule name line =>
    some ⟨.debug, "line " ++ toString line ++ ": no keywords known for module " ++ name⟩
  | skipped fault => some ⟨.warning, fault.message⟩

end Event

def configLines (events : List Event) : List ConfigLine := events.filterMap Event.line?

def chainSummaries (events : List Event) : List ChainSummary := events.filterMap Event.summary?

def diagnostics (events : List Event) : List String := events.filterMap Event.diagnostic?

def logRecords (events : List Event) : List LogRecord := events.filterMap Event.record?

end FermRules
