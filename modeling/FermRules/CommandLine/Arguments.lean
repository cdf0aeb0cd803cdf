import FermRules.Text.Lines
import FermRules.Text.Number

/-! Arguments of the command. Options may be cut short as long as only one option begins that way,
and take their value from behind an equals sign or from the next argument. The separator `--` makes
plain arguments of all behind it; as a value behind an equals sign it leaves the option without
one. -/

namespace FermRules.CommandLine

inductive Switch where
  | noOptimize
  | noHeader
  | summary
  | examples
  | verbose
  deriving DecidableEq, Repr

inductive Parameter where
  | domain
  | indent
  | output
  deriving DecidableEq, Repr

inductive Opt where
  | help
  | switch (s : Switch)
  | parameter (p : Parameter)
  deriving DecidableEq, Repr

def longOptions : List (String × Opt) :=
  [("--help", .help), ("--domain", .parameter .domain), ("--no-optimize", .switch .noOptimize),
   ("--indent", .parameter .indent), ("--no-header", .switch .noHeader),
   ("--output", .parameter .output), ("--summary", .switch .summary),
   ("--examples", .switch .examples), ("--verbose", .switch .verbose)]

/-- What an argument is before its place is taken into account. -/
inductive Argument where
  | plain (text : String)
  | separator
  | option (opt : Opt) (value : Option String)
  /-- The short form of help, with something attached to it. -/
  | shortHelp (attached : List Char)
  | unknown
  deriving DecidableEq, Repr

/-- The arguments cannot be understood. -/
inductive UsageFault where
  | ambiguous
  | unexpectedValue
  | missingValue
  | badValue
  | unexpectedArgument
  deriving DecidableEq, Repr

namespace Argument

/-- The part in front of the first equals sign, and the part behind it if there is one. -/
def splitEquals (cs : List Char) : List Char × Option (List Char) :=
  match cs.dropWhile (· ≠ '=') with
  | [] => (cs, none)
  | _ :: value => (cs.takeWhile (· ≠ '='), some value)

def long (cs : List Char) : Except UsageFault Argument :=
  let (name, value) := splitEquals cs
  let value := value.map String.ofList
  match longOptions.lookup (String.ofList name) with
  | some opt => .ok (.option opt value)
  | none =>
    match longOptions.filter fun (full, _) => name.isPrefixOf full.toList with
    | [] => .ok (if cs.contains ' ' then .plain (String.ofList cs) else .unknown)
    | [(_, opt)] => .ok (.option opt value)
    | _ => .error .ambiguous

/-- A number with a minus sign in front is no option. -/
def isNegativeNumber (cs : List Char) : Bool :=
  match Text.dropFinalLineFeed cs with
  | '-' :: rest =>
    let behind := rest.dropWhile Text.isDecimal
    match behind with
    | [] => !rest.isEmpty
    | '.' :: places => !places.isEmpty && places.all Text.isDecimal
    | _ => false
  | _ => false

def short (cs : List Char) : Argument :=
  match cs with
  | ['-', 'h'] => .option .help none
  | '-' :: 'h' :: '=' :: attached => .shortHelp attached
  | '-' :: 'h' :: attached => .shortHelp attached
  | _ => if isNegativeNumber cs || cs.contains ' ' then .plain (String.ofList cs) else .unknown

def ofText (text : String) : Except UsageFault Argument :=
  match text.toList with
  | '-' :: '-' :: rest => long ('-' :: '-' :: rest)
  | '-' :: c :: rest => .ok (short ('-' :: c :: rest))
  | _ => .ok (.plain text)

def ofTexts : List String → Except UsageFault (List Argument)
  | [] => .ok []
  | "--" :: rest => .ok (.separator :: rest.map .plain)
  | text :: rest => do return (← ofText text) :: (← ofTexts rest)

end Argument

/-- What the arguments ask for. The domain and the indentation may be given without a value. -/
structure Arguments where
  input : String := "-"
  domain : Option String := some "ip"
  optimize : Bool := true
  indent : Option Int := some 4
  header : Bool := true
  output : Option String := none
  summary : Bool := false
  examples : Bool := false
  verbose : Bool := false
  deriving DecidableEq, Repr

inductive Invocation where
  | help
  | run (arguments : Arguments)
  deriving DecidableEq, Repr

namespace Arguments

def turnOn (a : Arguments) : Switch → Arguments
  | .noOptimize => { a with optimize := false }
  | .noHeader => { a with header := false }
  | .summary => { a with summary := true }
  | .examples => { a with examples := true }
  | .verbose => { a with verbose := true }

def clearParameter (a : Arguments) : Parameter → Arguments
  | .domain => { a with domain := none }
  | .output => { a with output := none }
  | .indent => { a with indent := none }

def setParameter (a : Arguments) (p : Parameter) (value : String) : Except UsageFault Arguments :=
  if value = "--" then .ok (a.clearParameter p)
  else match p with
    | .domain => .ok { a with domain := some value }
    | .output => .ok { a with output := some value }
    | .indent =>
      match Text.integer? Text.decimalValue? value.toList with
      | some n => .ok { a with indent := some n }
      | none => .error .badValue

/-- The short form may be repeated in one argument, but nothing else may be attached to it. -/
def helpWith (attached : List Char) : Except UsageFault Invocation :=
  if !attached.isEmpty && attached.all (· = 'h') then .ok .help else .error .unexpectedValue

/-- Reads arguments up to the first fault. The input may have a separator right before or behind it;
`taken` says that it has been met, `extra` that an argument has no place. -/
def read (a : Arguments) (taken extra : Bool) : List Argument → Except UsageFault Invocation
  | [] => if extra then .error .unexpectedArgument else .ok (.run a)
  | .unknown :: rest => a.read taken true rest
  | .option .help none :: _ => .ok .help
  | .option .help (some _) :: _ => .error .unexpectedValue
  | .shortHelp attached :: _ => helpWith attached
  | .option (.switch s) none :: rest => (a.turnOn s).read taken extra rest
  | .option (.switch _) (some _) :: _ => .error .unexpectedValue
  | .option (.parameter p) (some value) :: rest => do
    (← a.setParameter p value).read taken extra rest
  | .option (.parameter p) none :: .plain value :: rest => do
    (← a.setParameter p value).read taken extra rest
  | .option (.parameter _) none :: _ => .error .missingValue
  | .separator :: .plain text :: rest =>
    if taken then a.read true true (.plain text :: rest)
    else { a with input := text }.read true extra rest
  | .separator :: rest => a.read true (extra || taken) rest
  | .plain text :: .separator :: rest =>
    if taken then a.read true true (.separator :: rest)
    else { a with input := text }.read true extra rest
  | .plain text :: rest =>
    if taken then a.read true true rest else { a with input := text }.read true extra rest

end Arguments

/-- An option that could be several is refused before any argument takes effect. -/
def Invocation.ofTexts (texts : List String) : Except UsageFault Invocation := do
  Arguments.read {} false false (← Argument.ofTexts texts)

end FermRules.CommandLine
