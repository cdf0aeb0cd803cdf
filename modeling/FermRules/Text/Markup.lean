import FermRules.Text.Emoji

/-! Console markup. A tag stands between square brackets and begins with a small letter, a hash, a
slash or an at sign. A backslash in front of a tag makes it text, and two of them are one. Styles
are not shown here, so of a tag nothing is left. -/

namespace FermRules.Text.Markup

def opensTag (c : Char) : Bool := c.isLower || c = '#' || c = '/' || c = '@'

/-- What stands between the brackets of the tag that the text begins with. -/
def tag? : List Char → Option (List Char)
  | '[' :: c :: cs =>
    let inside := cs.takeWhile fun c => c ≠ '[' && c ≠ ']'
    if opensTag c && cs[inside.length]? = some ']' then some (c :: inside) else none
  | _ => none

def slashes (n : Nat) : List Char := List.replicate n '\\'

/-- Escapes the tags of a text that stands behind `n` backslashes. -/
def escapeFrom (n : Nat) : List Char → List Char
  | [] => slashes n
  | '\\' :: cs => escapeFrom (n + 1) cs
  | c :: cs => slashes (if (tag? (c :: cs)).isSome then 2 * n + 1 else n) ++ c :: escapeFrom 0 cs

/-- Makes a text stand for itself. A single backslash at the end is doubled, so that it escapes no
tag behind the text; where there are more, they stay. -/
def escape (text : String) : String :=
  let cs := escapeFrom 0 text.toList
  String.ofList (if (cs.reverse.takeWhile (· = '\\')).length = 1 then cs ++ ['\\'] else cs)

/-- The stretches of text in a markup, of which `text` and `n` backslashes have been read. -/
def stretchesFrom (text : List Char) (n : Nat) : List Char → List (List Char)
  | [] => [text ++ slashes n]
  | '\\' :: cs => stretchesFrom text (n + 1) cs
  | c :: cs =>
    match tag? (c :: cs) with
    | some inside =>
      text :: slashes (n / 2) :: (if n % 2 = 0 then [] else '[' :: inside ++ [']'])
        :: stretchesFrom [] 0 (cs.drop (inside.length + 1))
    | none => stretchesFrom (text ++ slashes n ++ [c]) 0 cs
termination_by cs => cs.length
decreasing_by all_goals simp only [List.length_cons, List.length_drop]; omega

/-- Takes away a backslash in front of a bracket that opens no tag. -/
def freeBrackets : List Char → List Char
  | [] => []
  | '\\' :: '[' :: cs => '[' :: freeBrackets cs
  | c :: cs => c :: freeBrackets cs

/-- The text that a markup shows. -/
def shown (markup : String) : String :=
  String.ofList ((stretchesFrom [] 0 markup.toList).flatMap fun text =>
    Emoji.replace (freeBrackets text))

end FermRules.Text.Markup
