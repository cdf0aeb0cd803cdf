import FermRules.Rule.Factor

/-! Merging: consecutive rules that differ only in the value of their first condition become one
rule with an array there. -/

namespace FermRules

/-- The clause that stands for both, if the first may hold an array. -/
def Clause.unite? (c d : Clause) : Option Clause :=
  match c.value.items?, d.value.items? with
  | some items, some others =>
    if c.mergeable && c.keyword = d.keyword then some { c with value := .list (items ++ others) }
    else none
  | _, _ => none

namespace LeafRule

/-- The rules agree behind their first condition. -/
def sameBehind (conditions others : List Clause) (action other : Option Action) : Bool :=
  conditions.map Clause.bare = others.map Clause.bare
    && action.map Action.bare = other.map Action.bare

def unite? : LeafRule → LeafRule → Option LeafRule
  | ⟨c :: conditions, action⟩, ⟨d :: others, other⟩ =>
    if sameBehind conditions others action other then
      (c.unite? d).map fun head => ⟨head :: conditions, action⟩
    else none
  | _, _ => none

end LeafRule

namespace Rule

def unite? : Rule → Rule → Option Rule
  | leaf a, leaf b => (a.unite? b).map leaf
  | _, _ => none

/-- Merges a rule with as many as possible of those behind it, then goes on with the next. -/
def absorb (rule : Rule) : List Rule → List Rule
  | [] => [rule]
  | next :: rest =>
    match unite? rule next with
    | some both => absorb both rest
    | none => rule :: absorb next rest

def mergeSiblings : List Rule → List Rule
  | [] => []
  | first :: rest => absorb first rest

/-- A block with a single leaf inside is that leaf with one condition more. -/
def collapse (shared : Clause) : List Rule → Rule
  | [leaf rule] => leaf (rule.under shared)
  | children => block shared children

mutual

def mergeInside : Rule → Rule
  | leaf rule => leaf rule
  | block shared children => collapse shared (mergeSiblings (mergeInsideAll children))

def mergeInsideAll : List Rule → List Rule
  | [] => []
  | rule :: rest => mergeInside rule :: mergeInsideAll rest

end

def merge (rules : List Rule) : List Rule := mergeSiblings (mergeInsideAll rules)

def optimize (rules : List Rule) : List Rule := merge (factor rules)

end Rule

end FermRules
