import FermRules.Registry.Basic
import FermRules.Rule.Basic
import FermRules.Rule.Value.Describe
import FermRules.Token.Literal

/-! Writing rules. A value that is absent or negated has no text of its own: the clause around it
writes the marker, so such a value deeper inside cannot be written. -/

namespace FermRules

structure Unrenderable where
  value : Value
  deriving DecidableEq, Repr

def Unrenderable.message (u : Unrenderable) : String := "Cannot render value " ++ u.value.describe

def joinWords : List String → String
  | [] => ""
  | [word] => word
  | word :: next :: rest => word ++ " " ++ joinWords (next :: rest)

namespace Value

/-- An array, or the item itself when there is just one. -/
def renderItems : List String → String
  | [text] => Token.write text
  | items => "(" ++ joinWords (items.map Token.write) ++ ")"

mutual

def render : Value → Except Unrenderable String
  | scalar text => .ok (Token.write text)
  | list items => .ok (renderItems items)
  | composite parts => do return joinWords (← renderParts parts)
  | value => .error ⟨value⟩

def renderParts : List Value → Except Unrenderable (List String)
  | [] => .ok []
  | part :: rest => do
    let text ← render part
    return text :: (← renderParts rest)

end

/-- The words that a value adds to its clause. -/
def words : Value → Except Unrenderable (List String)
  | absent => .ok []
  | value => do return [← render value]

end Value

def Clause.render (c : Clause) : Except Unrenderable String :=
  match c.value with
  | .negatedBefore value => do return joinWords ("!" :: c.renderedName :: (← value.words))
  | .negatedAfter value => do return joinWords (c.renderedName :: "!" :: (← value.words))
  | value => do return joinWords (c.renderedName :: (← value.words))

/-- The name of a known target stands for the jump to it. -/
def Action.render (registry : Registry) (a : Action) : Except Unrenderable String :=
  match a.kind with
  | .goto => .ok (joinWords ["goto", Token.write a.target])
  | .jump => do
    let target := if registry.isTarget a.target then [a.target] else ["jump", Token.write a.target]
    return joinWords (target ++ (← a.params.mapM Clause.render))

/-- A rule without conditions and action still needs a word. -/
def LeafRule.render (registry : Registry) (r : LeafRule) : Except Unrenderable String := do
  let conditions ← r.conditions.mapM Clause.render
  let action ← match r.action with
    | none => .ok []
    | some action => do pure [← action.render registry]
  let words := conditions ++ action
  return joinWords (if words.isEmpty then ["NOP"] else words) ++ ";"

end FermRules
