import FermRules.Rule.Basic

/-! What rules mean. A block means its children with the shared condition in front of each, and an
array means that one of its items has to match. Blocks and arrays can be written out in full, so
that of any two lists of rules it can be said whether they take the same actions. -/

namespace FermRules

namespace Clause

/-- The clauses of one item each that an array stands for. Other clauses stand for themselves. -/
def alternatives (c : Clause) : List Clause :=
  match c.value.items? with
  | some items =>
    if c.mergeable then items.map fun text => { c with value := .scalar text } else [c]
  | none => [c]

/-- All ways to choose one alternative of each clause. -/
def choices : List Clause → List (List Clause)
  | [] => [[]]
  | c :: rest => c.alternatives.flatMap fun d => (choices rest).map (d :: ·)

end Clause

/-- The action of a rule, once for each way to meet its conditions. -/
def LeafRule.effects (holds : String → Value → Bool) (r : LeafRule) : List (Option Action) :=
  ((Clause.choices r.conditions).filter (·.all fun c => holds c.keyword c.value)).map
    fun _ => r.action.map Action.bare

namespace Rule

mutual

/-- The leaf rules that a rule stands for, each with the conditions of the blocks around it. -/
def flatten : Rule → List LeafRule
  | leaf rule => [rule]
  | block shared children => (flattenAll children).map (LeafRule.under shared)

def flattenAll : List Rule → List LeafRule
  | [] => []
  | rule :: rest => flatten rule ++ flattenAll rest

end

/-- The actions that rules take one after the other. -/
def effects (holds : String → Value → Bool) (rules : List Rule) : List (Option Action) :=
  (flattenAll rules).flatMap (LeafRule.effects holds)

theorem flattenAll_append (rules others : List Rule) :
    flattenAll (rules ++ others) = flattenAll rules ++ flattenAll others := by
  induction rules with
  | nil => rfl
  | cons rule rest ih => simp [flattenAll, ih]

theorem flattenAll_map_leaf (rules : List LeafRule) : flattenAll (rules.map leaf) = rules := by
  induction rules with
  | nil => rfl
  | cons rule rest ih => simp [flattenAll, flatten, ih]

theorem effects_append (holds : String → Value → Bool) (rules others : List Rule) :
    effects holds (rules ++ others) = effects holds rules ++ effects holds others := by
  simp [effects, flattenAll_append]

end Rule

end FermRules
