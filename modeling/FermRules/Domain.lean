import FermRules.Text.Lowercase

/-! The two address families that a rule set may be for. -/

namespace FermRules

inductive Domain where
  | ip
  | ip6
  deriving DecidableEq, Repr

namespace Domain

def name : Domain → String
  | ip => "ip"
  | ip6 => "ip6"

def ofName? (text : String) : Option Domain :=
  let text := Text.lowercase text
  if text = "ip" then some ip else if text = "ip6" then some ip6 else none

def occursIn (part : List Char) : List Char → Bool
  | [] => part.isEmpty
  | c :: rest => part.isPrefixOf (c :: rest) || occursIn part rest

/-- The domain of the tool that a comment names. -/
def ofComment? (text : String) : Option Domain :=
  if occursIn "ip6tables".toList text.toList then some ip6
  else if occursIn "iptables".toList text.toList then some ip
  else none

end Domain

end FermRules
