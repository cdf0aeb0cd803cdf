/-! Option keywords: what parameters an option takes, where it may be negated, and how it is
written. -/

namespace FermRules

inductive FieldShape where
  | scalar
  | list
  deriving DecidableEq, Repr

/-- The parameters of an option. A literal is a single word that is never read as an array, and a
composite is a fixed sequence of fields. -/
inductive Shape where
  | flag
  | scalar
  | literal
  | fixed (count : Nat)
  | list
  | composite (fields : List FieldShape)
  deriving DecidableEq, Repr

def Shape.arity : Shape → Nat
  | flag => 0
  | scalar | literal | list => 1
  | fixed count => count
  | composite fields => fields.length

def Shape.fields : Shape → List FieldShape
  | composite fields => fields
  | _ => []

/-- Where the marker of a negated option may stand. -/
inductive Negation where
  | never
  | before
  | after
  deriving DecidableEq, Repr

structure Keyword where
  name : String
  shape : Shape
  negation : Negation
  outputName : Option String
  accumulates : Bool
  deriving DecidableEq, Repr

namespace Keyword

def ofShape (name : String) (shape : Shape) : Keyword := ⟨name, shape, .never, none, false⟩

def flag (name : String) : Keyword := ofShape name .flag

def scalar (name : String) : Keyword := ofShape name .scalar

def literal (name : String) : Keyword := ofShape name .literal

def list (name : String) : Keyword := ofShape name .list

def composite (name : String) (fields : List FieldShape) : Keyword :=
  ofShape name (.composite fields)

/-- The same keyword with a leading negation allowed. -/
def negatable (k : Keyword) : Keyword := { k with negation := .before }

def writtenAs (k : Keyword) (name : String) : Keyword := { k with outputName := some name }

def renderedName (k : Keyword) : String := k.outputName.getD k.name

/-- Whether rules that differ only in this keyword may share one array. An array stands for
alternatives, but a list that accumulates asks for all its items at once. -/
def mergeable (k : Keyword) : Bool := (k.shape = .scalar || k.shape = .list) && !k.accumulates

end Keyword

/-- A table of keywords, no two of one name. -/
abbrev Keywords := List Keyword

namespace Keywords

def find? (keywords : Keywords) (name : String) : Option Keyword :=
  List.find? (fun k => k.name = name) keywords

/-- A keyword whose name is taken already replaces the older one in its place. -/
def insert : Keywords → Keyword → Keywords
  | [], k => [k]
  | old :: rest, k => if old.name = k.name then k :: rest else old :: insert rest k

def ofList (definitions : List Keyword) : Keywords := definitions.foldl insert []

end Keywords

end FermRules
