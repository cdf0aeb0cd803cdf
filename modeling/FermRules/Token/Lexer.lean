import FermRules.Text.Blank
import FermRules.Token.Basic

/-! Splitting rule text into tokens, one character at a time. A word ends at a blank or at a quote,
so a literal may follow a word directly. Inside double quotes a backslash makes the next character
stand for itself; inside single quotes it is a character like any other. -/

namespace FermRules

/-- A quote that is never closed; columns count from one. -/
structure UnclosedQuote where
  column : Nat
  deriving DecidableEq, Repr

namespace Lexer

inductive Quote where
  | single
  | double
  deriving DecidableEq, Repr

def Quote.char : Quote → Char
  | single => '\''
  | double => '"'

def quote? (c : Char) : Option Quote :=
  if c = '\'' then some .single else if c = '"' then some .double else none

/-- Where the lexer stands between two characters, with the text it has read of the current token.
Between tokens that is a word of no characters yet. -/
inductive Mode where
  | word (text : String)
  | literal (quote : Quote) (opened : Nat) (text : String)
  | escaped (opened : Nat) (text : String)
  deriving DecidableEq, Repr

def wordTokens (text : String) : List Token := if text = "" then [] else [.word text]

/-- The tokens that a character completes, and the mode behind it. -/
def step (column : Nat) (c : Char) : Mode → List Token × Mode
  | .word text =>
    if Text.isBlank c then (wordTokens text, .word "")
    else match quote? c with
      | some quote => (wordTokens text, .literal quote column "")
      | none => ([], .word (text.push c))
  | .literal quote opened text =>
    if c = quote.char then ([.literal text], .word "")
    else if quote = .double && c = '\\' then ([], .escaped opened text)
    else ([], .literal quote opened (text.push c))
  | .escaped opened text => ([], .literal .double opened (text.push c))

def finish : Mode → Except UnclosedQuote (List Token)
  | .word text => .ok (wordTokens text)
  | .literal _ opened _ | .escaped opened _ => .error ⟨opened⟩

def run (column : Nat) (mode : Mode) : List Char → Except UnclosedQuote (List Token)
  | [] => finish mode
  | c :: rest =>
    let (tokens, mode) := step column c mode
    (run (column + 1) mode rest).map (tokens ++ ·)

end Lexer

def tokenize (text : String) : Except UnclosedQuote (List Token) :=
  Lexer.run 1 (.word "") text.toList

end FermRules
