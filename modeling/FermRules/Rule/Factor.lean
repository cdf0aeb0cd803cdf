import FermRules.Rule.Basic

/-! Factoring: consecutive rules that begin with the same condition become a block under it, and the
rules inside are factored again. -/

namespace FermRules.Rule

/-- Puts a rule in front of a factored list, joining the first of the list as far as the leading
conditions agree. -/
def graft (action : Option Action) : List Clause → List Rule → List Rule
  | [], rules => leaf ⟨[], action⟩ :: rules
  | c :: conditions, leaf ⟨d :: others, other⟩ :: rest =>
    if c.Same d then block c (graft action conditions [leaf ⟨others, other⟩]) :: rest
    else leaf ⟨c :: conditions, action⟩ :: leaf ⟨d :: others, other⟩ :: rest
  | c :: conditions, block d children :: rest =>
    if c.Same d then block c (graft action conditions children) :: rest
    else leaf ⟨c :: conditions, action⟩ :: block d children :: rest
  | c :: conditions, rules => leaf ⟨c :: conditions, action⟩ :: rules

def startsWithLeaf : List Rule → Bool
  | leaf _ :: _ => true
  | _ => false

/-- Blocks that are there already stay as they are and take in no rule. -/
def factor : List Rule → List Rule
  | [] => []
  | leaf rule :: rest =>
    if startsWithLeaf rest then graft rule.action rule.conditions (factor rest)
    else leaf rule :: factor rest
  | block shared children :: rest => block shared children :: factor rest

end FermRules.Rule
