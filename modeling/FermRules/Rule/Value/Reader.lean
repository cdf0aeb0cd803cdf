import FermRules.Rule.Fault

/-! Reading the parameters of an option. A reader gives what it has read and the tokens behind it,
which are never more than it was given. -/

namespace FermRules.Value

def readWord (option : String) : List Token → Except RuleFault (Token × List Token)
  | [] => .error (.missingParameter option)
  | t :: rest => .ok (t, rest)

def arrayItem (text : List Char) (quoted : Bool) : List String :=
  if text.isEmpty && !quoted then [] else [String.ofList text]

/-- The items of an array of which `text` is still to be read before the other tokens. A closing
parenthesis belongs to the array only where it ends an unquoted word. -/
def readItems (option : String) (text : List Char) (quoted : Bool) (rest : List Token) :
    Except RuleFault (List String × List Token) :=
  if !quoted && text.getLast? = some ')' then .ok (arrayItem text.dropLast false, rest)
  else match rest with
    | [] => .error (.unclosedArray option)
    | t :: rest => do
      let (items, rest) ← readItems option t.text.toList t.quoted rest
      return (arrayItem text quoted ++ items, rest)

def readArray (option : String) (first : Token) (rest : List Token) :
    Except RuleFault (List String × List Token) :=
  readItems option first.text.toList.tail false rest

def opensArray (t : Token) : Bool := t.startsWith '('

/-- A list is an array, a literal as its only item, or items with commas between them. -/
def readList (option : String) (tokens : List Token) :
    Except RuleFault (List String × List Token) := do
  let (t, rest) ← readWord option tokens
  if opensArray t then readArray option t rest
  else if t.quoted then return ([t.text], rest)
  else return ((t.text.toList.splitOn ',').map String.ofList, rest)

def readFixed (option : String) (count : Nat) (tokens : List Token) :
    Except RuleFault (List String × List Token) :=
  if count ≤ tokens.length then .ok ((tokens.take count).map Token.text, tokens.drop count)
  else .error (.missingParameter option)

def readField (option : String) (tokens : List Token) :
    FieldShape → Except RuleFault (Value × List Token)
  | .scalar => do
    let (t, rest) ← readWord option tokens
    return (scalar t.text, rest)
  | .list => do
    let (items, rest) ← readList option tokens
    return (list items, rest)

def readFields (option : String) (tokens : List Token) :
    List FieldShape → Except RuleFault (List Value × List Token)
  | [] => .ok ([], tokens)
  | field :: fields => do
    let (part, rest) ← readField option tokens field
    let (parts, rest) ← readFields option rest fields
    return (part :: parts, rest)

def ofFixed : List String → Value
  | [text] => scalar text
  | items => list items

/-- The plain value of an option, without its negation. -/
def read (k : Keyword) (tokens : List Token) : Except RuleFault (Value × List Token) :=
  match k.shape with
  | .flag => .ok (absent, tokens)
  | .literal => do
    let (t, rest) ← readWord k.name tokens
    return (scalar t.text, rest)
  | .scalar => do
    let (t, rest) ← readWord k.name tokens
    if opensArray t then
      let (items, rest) ← readArray k.name t rest
      return (list items, rest)
    else return (scalar t.text, rest)
  | .list => do
    let (items, rest) ← readList k.name tokens
    return (list items, rest)
  | .fixed count => do
    let (items, rest) ← readFixed k.name count tokens
    return (ofFixed items, rest)
  | .composite fields => do
    let (parts, rest) ← readFields k.name tokens fields
    return (composite parts, rest)

/-- A result whose rest is no longer than `n`. -/
def Within {α : Type} (n : Nat) (result : Except RuleFault (α × List Token)) : Prop :=
  ∀ a rest, result = .ok (a, rest) → rest.length ≤ n

theorem Within.bind {α β : Type} {n : Nat} {result : Except RuleFault (α × List Token)}
    {next : α × List Token → Except RuleFault (β × List Token)} (h : Within n result)
    (hn : ∀ a rest, rest.length ≤ n → Within n (next (a, rest))) : Within n (result >>= next) := by
  intro b rest hb
  match result, h with
  | .ok (a, mid), h => exact hn a mid (h a mid rfl) b rest hb

theorem Within.ok {α : Type} {n : Nat} {a : α} {rest : List Token} (h : rest.length ≤ n) :
    Within n (.ok (a, rest)) := by
  intro b r hb
  cases hb
  exact h

theorem Within.error {α : Type} {n : Nat} {f : RuleFault} :
    Within n (.error f : Except RuleFault (α × List Token)) := by
  intro _ _ h
  cases h

theorem Within.mono {α : Type} {m n : Nat} {result : Except RuleFault (α × List Token)}
    (h : Within m result) (hmn : m ≤ n) : Within n result :=
  fun a rest hr => Nat.le_trans (h a rest hr) hmn

theorem Within.pair {α : Type} {n : Nat} {result : Except RuleFault α} {rest : List Token}
    (h : rest.length ≤ n) : Within n (do return (← result, rest)) := by
  cases result with
  | error f => exact .error
  | ok a => exact .ok h

theorem readWord_within (option : String) (tokens : List Token) :
    Within tokens.length (readWord option tokens) := by
  cases tokens with
  | nil => exact .error
  | cons t rest => exact .ok (by simp)

theorem readItems_within (option : String) (text : List Char) (quoted : Bool) (rest : List Token) :
    Within rest.length (readItems option text quoted rest) := by
  induction rest generalizing text quoted with
  | nil =>
    unfold readItems
    split
    · exact .ok (by simp)
    · exact .error
  | cons t rest ih =>
    unfold readItems
    split
    · exact .ok (by simp)
    · refine .bind (fun a r h => Nat.le_succ_of_le (ih _ _ a r h)) fun a r h => .ok h

theorem readList_within (option : String) (tokens : List Token) :
    Within tokens.length (readList option tokens) := by
  refine .bind (readWord_within option tokens) fun t rest h => ?_
  dsimp only
  split
  · exact (readItems_within option _ false rest).mono h
  · split <;> exact .ok h

theorem readField_within (option : String) (tokens : List Token) (field : FieldShape) :
    Within tokens.length (readField option tokens field) := by
  cases field with
  | scalar => exact .bind (readWord_within option tokens) fun _ _ h => .ok h
  | list => exact .bind (readList_within option tokens) fun _ _ h => .ok h

theorem readFields_within (option : String) (tokens : List Token) (fields : List FieldShape) :
    Within tokens.length (readFields option tokens fields) := by
  induction fields generalizing tokens with
  | nil => exact .ok (Nat.le_refl _)
  | cons field fields ih =>
    exact .bind (readField_within option tokens field) fun _ rest h =>
      .bind ((ih rest).mono h) fun _ _ h => .ok h

theorem read_within (k : Keyword) (tokens : List Token) :
    Within tokens.length (read k tokens) := by
  unfold read
  split
  · exact .ok (Nat.le_refl _)
  · exact .bind (readWord_within _ _) fun _ _ h => .ok h
  · refine .bind (readWord_within _ _) fun t rest h => ?_
    dsimp only
    split
    · exact .bind ((readItems_within _ _ _ _).mono h) fun _ _ h => .ok h
    · exact .ok h
  · exact .bind (readList_within _ _) fun _ _ h => .ok h
  · refine .bind ?_ fun _ _ h => .ok h
    unfold readFixed
    split
    · exact .ok (by simp)
    · exact .error
  · exact .bind (readFields_within _ _ _) fun _ _ h => .ok h

end FermRules.Value
