import FermRules.Rule.Reading

/-! Reading a whole rule. -/

namespace FermRules

namespace Reading

/-- The reading behind all tokens, or the first fault. -/
def run (registry : Registry) (r : Reading) : List Token → Except RuleFault Reading
  | [] => .ok r
  | t :: rest =>
    match _h : r.step registry t rest with
    | .error fault => .error fault
    | .ok (r', rest') => run registry r' rest'
termination_by tokens => tokens.length
decreasing_by
  have := step_within registry r t rest r' rest' _h
  simp only [List.length_cons]
  omega

def finish (r : Reading) : Except RuleFault LeafRule :=
  if r.negated then .error .nothingNegated else .ok ⟨r.conditions, r.action⟩

/-- The modules named by the option that begins with this token. -/
def modulesAt (registry : Registry) (r : Reading) (t : Token) (rest : List Token) : List String :=
  match r.opening registry t, Value.readList matchKeyword.name rest with
  | .ok .modules, .ok (names, _) => names
  | _, _ => []

/-- The modules named up to the first fault, in order. -/
def modules (registry : Registry) (r : Reading) : List Token → List String
  | [] => []
  | t :: rest =>
    match _h : r.step registry t rest with
    | .error _ => []
    | .ok (r', rest') => r.modulesAt registry t rest ++ modules registry r' rest'
termination_by tokens => tokens.length
decreasing_by
  have := step_within registry r t rest r' rest' _h
  simp only [List.length_cons]
  omega

end Reading

namespace LeafRule

/-- A semicolon at the end of the last word closes the statement and is no part of it. -/
def dropTerminator : List Token → List Token
  | [] => []
  | [t] =>
    if t.endsWith ';' then
      if t.text = ";" then [] else [.word (String.ofList t.text.toList.dropLast)]
    else [t]
  | first :: second :: rest => first :: dropTerminator (second :: rest)

def ofTokens (registry : Registry) (tokens : List Token) : Except RuleFault LeafRule := do
  let r ← (Reading.start registry).run registry (dropTerminator tokens)
  r.finish

def ofText (registry : Registry) (text : String) : Except RuleFault LeafRule := do
  let tokens ← (tokenize text).mapError .ofUnclosedQuote
  ofTokens registry tokens

/-- The modules that a rule names without effect, for nothing is known about them. -/
def unknownModules (registry : Registry) (tokens : List Token) : List String :=
  ((Reading.start registry).modules registry (dropTerminator tokens)).filter
    fun name => (registry.moduleKeywords name).isEmpty

end LeafRule

end FermRules
