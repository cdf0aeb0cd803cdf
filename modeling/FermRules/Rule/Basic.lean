import FermRules.Keyword.Basic
import FermRules.Rule.Value.Basic

/-! Rules. A leaf rule holds conditions and perhaps an action; a block puts one condition in front
of all rules inside it. Two rules count as the same when they are after their definitions are
forgotten, for a definition says how a clause is written and not what it is. -/

namespace FermRules

structure Clause where
  keyword : String
  value : Value
  definition : Option Keyword
  deriving DecidableEq, Repr, Inhabited

namespace Clause

def bare (c : Clause) : Clause := { c with definition := none }

def Same (a b : Clause) : Prop := a.bare = b.bare

instance (a b : Clause) : Decidable (Same a b) := inferInstanceAs (Decidable (a.bare = b.bare))

def renderedName (c : Clause) : String :=
  match c.definition with
  | some k => k.renderedName
  | none => c.keyword

def mergeable (c : Clause) : Bool :=
  match c.definition with
  | some k => k.mergeable
  | none => false

end Clause

inductive ActionKind where
  | jump
  | goto
  deriving DecidableEq, Repr

def ActionKind.name : ActionKind → String
  | jump => "jump"
  | goto => "goto"

structure Action where
  kind : ActionKind
  target : String
  params : List Clause
  deriving DecidableEq, Repr

def Action.bare (a : Action) : Action := { a with params := a.params.map Clause.bare }

structure LeafRule where
  conditions : List Clause
  action : Option Action
  deriving DecidableEq, Repr

namespace LeafRule

def bare (r : LeafRule) : LeafRule := ⟨r.conditions.map Clause.bare, r.action.map Action.bare⟩

def Same (a b : LeafRule) : Prop := a.bare = b.bare

instance (a b : LeafRule) : Decidable (Same a b) := inferInstanceAs (Decidable (a.bare = b.bare))

/-- The rule with one more condition in front. -/
def under (c : Clause) (r : LeafRule) : LeafRule := { r with conditions := c :: r.conditions }

end LeafRule

inductive Rule where
  | leaf (rule : LeafRule)
  | block (shared : Clause) (children : List Rule)
  deriving Repr

namespace Rule

mutual

/-- Statements that a rule is written as; a block is one beside those inside it. -/
def statements : Rule → Nat
  | leaf _ => 1
  | block _ children => 1 + statementsAll children

def statementsAll : List Rule → Nat
  | [] => 0
  | rule :: rest => statements rule + statementsAll rest

end

end Rule

end FermRules
