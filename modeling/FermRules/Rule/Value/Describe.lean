import FermRules.Rule.Value.Basic
import FermRules.Text.Quoted

/-! How messages show a value. -/

namespace FermRules.Value

def describeTuple : List String → String
  | [] => "()"
  | [part] => "(" ++ part ++ ",)"
  | parts => "(" ++ ", ".intercalate parts ++ ")"

def describeScalar (text : String) : String := "Scalar(text=" ++ Text.quoted text ++ ")"

mutual

def describe : Value → String
  | absent => "None"
  | scalar text => describeScalar text
  | list items => "ListValue(items=" ++ describeTuple (items.map describeScalar) ++ ")"
  | composite parts => "Composite(fields=" ++ describeTuple (describeParts parts) ++ ")"
  | negatedBefore value => "PreNegated(value=" ++ describe value ++ ")"
  | negatedAfter value => "Negated(value=" ++ describe value ++ ")"

def describeParts : List Value → List String
  | [] => []
  | part :: rest => describe part :: describeParts rest

end

end FermRules.Value
