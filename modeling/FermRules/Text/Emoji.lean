import FermRules.Text.Blank
import FermRules.Text.Emoji.Flags
import FermRules.Text.Emoji.Pictures
import FermRules.Text.Lowercase

/-! Pictures written by name between colons. Behind the name may stand how the picture is to be
shown, as text or as emoji. What names no picture stays as it is, both its colons too. -/

namespace FermRules.Text.Emoji

def tones : List (String × Char) :=
  [("light", '🏻'), ("medium-light", '🏼'), ("medium", '🏽'), ("medium-dark", '🏾'), ("dark", '🏿')]

/-- The tone stands behind the person that the picture begins with, in place of a selector. -/
def withTone (tone : Char) (picture : String) : String :=
  match picture.toList with
  | [] => ""
  | person :: '\ufe0f' :: rest => String.ofList (person :: tone :: rest)
  | person :: rest => String.ofList (person :: tone :: rest)

def toned? (name : String) : Option String :=
  tones.findSome? fun (toneName, tone) => do
    let base ← ("_" ++ toneName ++ "_skin_tone").toList.isSuffixOf? name.toList
    let picture ← people.find? (String.ofList base)
    return withTone tone picture

def named? (name : String) : Option String :=
  (pictures.find? name).orElse fun _ => (flags.find? name).orElse fun _ => toned? name

/-- How a picture is to be shown, and the character that asks for it. -/
def selectors : List (String × Char) := [("-emoji", '\ufe0f'), ("-text", '\ufe0e')]

/-- What stands for the text between two colons. -/
def shown? (code : List Char) : Option (List Char) :=
  let (name, selector) := (selectors.findSome? fun (ending, selector) =>
    (ending.toList.isSuffixOf? code).map (·, [selector])).getD (code, [])
  (named? (lowercase (String.ofList name))).map (·.toList ++ selector)

/-- The text up to the next colon, if no blank stands before that. -/
def code? (cs : List Char) : Option (List Char) :=
  let code := cs.takeWhile fun c => c ≠ ':' && !isBlank c
  if cs[code.length]? = some ':' then some code else none

def replace : List Char → List Char
  | [] => []
  | c :: cs =>
    match if c = ':' then code? cs else none with
    | some code =>
      (shown? code).getD (':' :: code ++ [':']) ++ replace (cs.drop (code.length + 1))
    | none => c :: replace cs
termination_by cs => cs.length
decreasing_by all_goals simp only [List.length_cons, List.length_drop]; omega

end FermRules.Text.Emoji
