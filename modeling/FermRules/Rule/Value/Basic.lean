/-! Values of options. The reader makes a value of one plain part (a scalar, a list or a composite
of these), or none at all, under at most one negation; the type allows any nesting. -/

namespace FermRules

inductive Value where
  | absent
  | scalar (text : String)
  | list (items : List String)
  | composite (parts : List Value)
  | negatedBefore (value : Value)
  | negatedAfter (value : Value)
  deriving Repr, Inhabited

namespace Value

mutual

def same : Value → Value → Bool
  | absent, absent => true
  | scalar a, scalar b => a = b
  | list a, list b => a = b
  | composite a, composite b => sameParts a b
  | negatedBefore a, negatedBefore b => same a b
  | negatedAfter a, negatedAfter b => same a b
  | _, _ => false

def sameParts : List Value → List Value → Bool
  | [], [] => true
  | a :: as, b :: bs => same a b && sameParts as bs
  | _, _ => false

end

mutual

theorem same_iff : ∀ a b : Value, same a b = true ↔ a = b
  | absent, b => by cases b <;> simp [same]
  | scalar _, b => by cases b <;> simp [same]
  | list _, b => by cases b <;> simp [same]
  | composite as, b => by cases b <;> simp [same, sameParts_iff as]
  | negatedBefore a, b => by cases b <;> simp [same, same_iff a]
  | negatedAfter a, b => by cases b <;> simp [same, same_iff a]

theorem sameParts_iff : ∀ as bs : List Value, sameParts as bs = true ↔ as = bs
  | [], bs => by cases bs <;> simp [sameParts]
  | a :: as, bs => by cases bs <;> simp [sameParts, same_iff a, sameParts_iff as]

end

instance : DecidableEq Value := fun a b => decidable_of_iff _ (same_iff a b)

/-- The texts that a plain value offers as alternatives; composites have none. -/
def items? : Value → Option (List String)
  | scalar text => some [text]
  | list items => some items
  | _ => none

end Value

end FermRules
