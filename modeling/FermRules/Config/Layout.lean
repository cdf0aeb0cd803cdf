import FermRules.Config.Line

/-! Laying out lines. A line that begins with a closing brace stands one level further out, and one
that ends in an opening brace puts those behind it one level further in. -/

namespace FermRules

structure Layout where
  indent : Nat
  level : Nat
  deriving DecidableEq, Repr

namespace Layout

def start (indent : Nat) : Layout := ⟨indent, 0⟩

/-- The level at which a line stands. -/
def levelOf (layout : Layout) (text : String) : Nat :=
  if text.toList.head? = some '\x7d' then layout.level - 1 else layout.level

def levelBehind (layout : Layout) (text : String) : Nat :=
  layout.levelOf text + (if text.toList.getLast? = some '\x7b' then 1 else 0)

def margin (layout : Layout) (level : Nat) : String :=
  String.ofList (List.replicate (layout.indent * level) ' ')

/-- What a line adds to the text, with the layout behind it. -/
def put (layout : Layout) (text : String) : String × Layout :=
  (if text = "" then "\n" else layout.margin (layout.levelOf text) ++ text ++ "\n",
    { layout with level := layout.levelBehind text })

/-- What has been written, the layout behind it, and the value at which writing stopped. -/
structure Written where
  text : String
  layout : Layout
  fault : Option Unrenderable

def write (registry : Registry) (layout : Layout) : List ConfigLine → Written
  | [] => ⟨"", layout, none⟩
  | line :: rest =>
    match line.render registry with
    | .error fault => ⟨"", layout, some fault⟩
    | .ok text =>
      let (added, layout) := layout.put text
      let written := write registry layout rest
      { written with text := added ++ written.text }

end Layout

end FermRules
