import FermRules.Rule.Printer

/-! Lines of a configuration, by what they say. -/

namespace FermRules

inductive ConfigLine where
  | comment (text : String)
  | blank
  | openDomain (name : String)
  | openTable (name : String)
  | openChain (name : String)
  | emptyChain (name : String)
  | policy (name : String)
  | openBlock (shared : Clause)
  | statement (rule : LeafRule)
  | close
  deriving DecidableEq, Repr

namespace ConfigLine

def render (registry : Registry) : ConfigLine → Except Unrenderable String
  | comment text => .ok ("# " ++ text)
  | blank => .ok ""
  | openDomain name => .ok ("domain " ++ name ++ " \x7b")
  | openTable name => .ok ("table " ++ Token.write name ++ " \x7b")
  | openChain name => .ok ("chain " ++ Token.write name ++ " \x7b")
  | emptyChain name => .ok ("chain " ++ Token.write name ++ " \x7b\x7d")
  | policy name => .ok ("policy " ++ name ++ ";")
  | openBlock shared => do return (← shared.render) ++ " \x7b"
  | statement rule => rule.render registry
  | close => .ok "\x7d"

mutual

def ofRule : Rule → List ConfigLine
  | .leaf rule => [statement rule]
  | .block shared children => openBlock shared :: ofRules children ++ [close]

def ofRules : List Rule → List ConfigLine
  | [] => []
  | rule :: rest => ofRule rule ++ ofRules rest

end

end ConfigLine

end FermRules
