import FermRules.Rule.Basic
import FermRules.Text.Quoted
import FermRules.Token.Lexer

/-! Why a rule cannot be read. -/

namespace FermRules

inductive RuleFault where
  | unclosedQuote (column : Nat)
  | repeatedNegation
  | optionExpected (found : String)
  | unknownOption (word : String)
  | negatedModule
  | negatedAction (kind : ActionKind)
  | secondAction
  | leadingNegation (keyword : String)
  | trailingNegation (keyword : String)
  | missingParameter (keyword : String)
  | nothingNegated
  | unclosedArray (keyword : String)
  deriving DecidableEq, Repr

namespace RuleFault

def ofUnclosedQuote (f : UnclosedQuote) : RuleFault := .unclosedQuote f.column

def message : RuleFault → String
  | unclosedQuote column => "unterminated quote at column " ++ toString column
  | repeatedNegation => "repeated '!'"
  | optionExpected found => "expected an option, found " ++ Text.quoted found
  | unknownOption word => "unknown option " ++ Text.quoted word
  | negatedModule => "a match module cannot be negated"
  | negatedAction kind => kind.name ++ " cannot be negated"
  | secondAction => "rule has more than one jump or goto"
  | leadingNegation keyword =>
    "option " ++ Text.quoted keyword ++ " cannot be negated with a leading '!'"
  | trailingNegation keyword =>
    "option " ++ Text.quoted keyword ++ " cannot be negated with a trailing '!'"
  | missingParameter keyword => "missing parameter for option " ++ Text.quoted keyword
  | nothingNegated => "'!' at end of rule negates nothing"
  | unclosedArray keyword => "unclosed array for option " ++ Text.quoted keyword

end RuleFault

end FermRules
