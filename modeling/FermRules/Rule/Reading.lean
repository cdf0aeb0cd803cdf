import FermRules.Registry.Basic
import FermRules.Rule.Value.Reader

/-! One step of reading a rule. The options that may come next depend on everything read before: a
protocol and a match module add to them, and a jump replaces them by the options of its target,
whose clauses then belong to the action. -/

namespace FermRules

/-- The options that may come next. -/
abbrev Scope := String → Option Keyword

/-- New keywords take the place of older ones with the same name. -/
def Scope.extend (scope : Scope) (keywords : Keywords) : Scope :=
  fun name => (keywords.find? name).or (scope name)

/-- The clause that a list and the one before it make, if the later definition accumulates. -/
def Clause.accumulate? (last c : Clause) : Option Clause :=
  match last.value, c.value, c.definition with
  | .list items, .list more, some k =>
    if k.accumulates && last.keyword = c.keyword then
      some { last with value := .list (items ++ more) }
    else none
  | _, _, _ => none

def pushClause (c : Clause) : List Clause → List Clause
  | [] => [c]
  | [last] =>
    match last.accumulate? c with
    | some joined => [joined]
    | none => [last, c]
  | first :: second :: rest => first :: pushClause c (second :: rest)

/-- Where the marker of a negated clause stands. -/
inductive Polarity where
  | plain
  | leading
  | trailing
  deriving DecidableEq, Repr

namespace Polarity

def negationFollows : List Token → Bool
  | t :: _ => t.isNegation
  | [] => false

def read (k : Keyword) (negated : Bool) (tokens : List Token) : Except RuleFault Polarity :=
  if negated && k.negation ≠ .before then .error (.leadingNegation k.name)
  else if k.shape ≠ .flag && negationFollows tokens then
    if k.negation = .after then .ok .trailing else .error (.trailingNegation k.name)
  else .ok (if negated then .leading else .plain)

/-- The tokens behind a trailing marker. -/
def skip : Polarity → List Token → List Token
  | trailing, tokens => tokens.tail
  | _, tokens => tokens

def wrap : Polarity → Value → Value
  | plain, value => value
  | leading, value => .negatedBefore value
  | trailing, value => .negatedAfter value

end Polarity

/-- What has been read of a rule. -/
structure Reading where
  scope : Scope
  conditions : List Clause
  action : Option Action
  negated : Bool
  protocols : List String

/-- What a word means where an option may begin. -/
inductive Opening where
  | negation
  | option (keyword : Keyword)
  | modules
  | action (kind : ActionKind)
  | target (name : String)
  | nothing

namespace Reading

def start (registry : Registry) : Reading := ⟨registry.conditions.find?, [], none, false, []⟩

/-- After a jump all clauses belong to the action. -/
def inTarget (r : Reading) : Bool :=
  match r.action with
  | some action => action.kind = .jump
  | none => false

def push (r : Reading) (c : Clause) : Reading :=
  match r.action with
  | some ⟨.jump, target, params⟩ => { r with action := some ⟨.jump, target, pushClause c params⟩ }
  | _ => { r with conditions := pushClause c r.conditions }

/-- The name of an option, without dashes in front. -/
def optionName (registry : Registry) (word : String) : String :=
  registry.resolve (String.ofList (word.toList.dropWhile (· = '-')))

/-- Keywords come first, so a registry may give the name of an action another meaning. -/
def opening (registry : Registry) (r : Reading) (t : Token) : Except RuleFault Opening :=
  if t.isNegation then .ok .negation
  else if t.quoted then .error (.optionExpected t.text)
  else
    let name := optionName registry t.text
    match r.scope name with
    | some k => .ok (.option k)
    | none =>
      if name = "match" then .ok .modules
      else if name = "jump" then .ok (.action .jump)
      else if name = "goto" then .ok (.action .goto)
      else if !r.inTarget && registry.isTarget name then .ok (.target name)
      else if name = "NOP" && !r.negated then .ok .nothing
      else .error (.unknownOption t.text)

def negate (r : Reading) : Except RuleFault Reading :=
  if r.negated then .error .repeatedNegation else .ok { r with negated := true }

/-- Declared protocols bring their keywords along. -/
def declare (registry : Registry) (r : Reading) (protocols : List String) : Reading :=
  { r with
    scope := protocols.foldl (fun scope p => scope.extend (registry.protocolKeywords p)) r.scope
    protocols := r.protocols ++ protocols }

def readOption (registry : Registry) (k : Keyword) (r : Reading) (tokens : List Token) :
    Except RuleFault (Reading × List Token) := do
  let polarity ← Polarity.read k r.negated tokens
  let (value, rest) ← Value.read k (polarity.skip tokens)
  let r := { r with negated := false }
  let r := if k.name = "protocol" && polarity = .plain
    then r.declare registry (value.items?.getD []) else r
  return (r.push ⟨k.name, polarity.wrap value, some k⟩, rest)

/-- All modules add their keywords, but those that a declared protocol implies are not recorded. -/
def addModules (registry : Registry) (r : Reading) (names : List String) : Reading :=
  let implied := r.protocols.map registry.moduleForProtocol
  let kept := names.filter fun name => !implied.contains name
  let r := { r with
    scope := names.foldl (fun scope m => scope.extend (registry.moduleKeywords m)) r.scope }
  if kept.isEmpty then r else r.push ⟨matchKeyword.name, .list kept, some matchKeyword⟩

def readModules (registry : Registry) (r : Reading) (tokens : List Token) :
    Except RuleFault (Reading × List Token) :=
  if r.negated then .error .negatedModule
  else do
    let (names, rest) ← Value.readList matchKeyword.name tokens
    return (r.addModules registry names, rest)

def act (registry : Registry) (r : Reading) (kind : ActionKind) (target : String) :
    Except RuleFault Reading :=
  if r.negated then .error (.negatedAction kind)
  else if r.action.isSome then .error .secondAction
  else
    let scope := match kind with
      | .jump => (registry.targetKeywords target).find?
      | .goto => r.scope
    .ok { r with action := some ⟨kind, target, []⟩, scope }

/-- Reads a token and the parameters that belong to it. -/
def step (registry : Registry) (r : Reading) (t : Token) (rest : List Token) :
    Except RuleFault (Reading × List Token) := do
  match ← r.opening registry t with
  | .negation => return (← r.negate, rest)
  | .option k => readOption registry k r rest
  | .modules => readModules registry r rest
  | .action kind =>
    let (target, rest) ← Value.readWord kind.name rest
    return (← r.act registry kind target.text, rest)
  | .target name => return (← r.act registry .jump name, rest)
  | .nothing => return (r, rest)

open Value (Within)

theorem Polarity.skip_length_le (p : Polarity) (tokens : List Token) :
    (p.skip tokens).length ≤ tokens.length := by
  cases p <;> simp [Polarity.skip]

theorem readOption_within (registry : Registry) (k : Keyword) (r : Reading) (tokens : List Token) :
    Within tokens.length (readOption registry k r tokens) := by
  unfold readOption
  cases Polarity.read k r.negated tokens with
  | error f => exact .error
  | ok p =>
    exact .bind ((Value.read_within k _).mono (Polarity.skip_length_le p tokens))
      fun _ _ h => .ok h

theorem readModules_within (registry : Registry) (r : Reading) (tokens : List Token) :
    Within tokens.length (readModules registry r tokens) := by
  unfold readModules
  split
  · exact .error
  · exact .bind (Value.readList_within _ tokens) fun _ _ h => .ok h

theorem step_within (registry : Registry) (r : Reading) (t : Token) (rest : List Token) :
    Within rest.length (step registry r t rest) := by
  unfold step
  cases r.opening registry t with
  | error f => exact .error
  | ok o =>
    cases o with
    | negation => exact .pair (Nat.le_refl _)
    | option k => exact readOption_within registry k r rest
    | modules => exact readModules_within registry r rest
    | action kind => exact .bind (Value.readWord_within _ rest) fun _ _ h => .pair h
    | target name => exact .pair (Nat.le_refl _)
    | nothing => exact .ok (Nat.le_refl _)

end Reading

end FermRules
