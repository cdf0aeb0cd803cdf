import FermRules.Domain
import FermRules.Text.LooseInteger

/-! Settings of a conversion, and how they are made from loosely typed values: numbers may be given
as text, switches as words. -/

namespace FermRules

structure Settings where
  /-- The domain of tables in front of which no comment names one. -/
  domain : Domain := .ip
  optimize : Bool := true
  indent : Nat := 4
  header : Bool := true
  indent_le : indent ≤ 16 := by decide

/-- A value that a setting may be given. A decimal is a number with places, whole or not. -/
inductive Setting where
  | null
  | switch (on : Bool)
  | integer (n : Int)
  | decimal (whole : Option Int)
  | text (text : String)
  | other

inductive SettingFault where
  | notText
  | unknownDomain
  | notInteger
  | badInteger
  | tooLarge
  | fractional
  | outOfRange
  | notSwitch
  | badSwitch
  deriving DecidableEq, Repr

/-- The text of a fault in a value of the right type. -/
def SettingFault.message? : SettingFault → Option String
  | unknownDomain => some "domain must be one of: ip, ip6"
  | outOfRange => some "indent must be between 0 and 16"
  | _ => none

inductive SettingName where
  | domain
  | optimize
  | indent
  | header
  deriving DecidableEq, Repr

def SettingName.text : SettingName → String
  | domain => "domain"
  | optimize => "optimize"
  | indent => "indent"
  | header => "header"

namespace Setting

/-- Whether a number fits a word of 64 bits, one of them for the sign. -/
def isWord (n : Int) : Bool := -0x8000000000000000 ≤ n && n < 0x8000000000000000

/-- Whether a number with places fits a word; the least of all words does not count. -/
def isPlacedWord (n : Int) : Bool := -0x8000000000000000 < n && n < 0x8000000000000000

def toInteger : Setting → Except SettingFault Int
  | switch on => .ok (if on then 1 else 0)
  | integer n => .ok n
  | decimal (some n) => if isPlacedWord n then .ok n else .error .tooLarge
  | decimal none => .error .fractional
  | text t => (Text.LooseInteger.read t.toList).mapError fun
    | .malformed => .badInteger
    | .tooLong => .tooLarge
  | null | other => .error .notInteger

/-- A word for on or off, in any case. -/
def switchOfText? (text : String) : Option Bool :=
  let word := String.ofList (text.toList.map Char.toLower)
  if ["1", "true", "t", "yes", "y", "on"].contains word then some true
  else if ["0", "false", "f", "no", "n", "off"].contains word then some false
  else none

/-- A number that does not fit is not even a wrong switch. -/
def switchOfNumber (fits : Bool) (n : Int) : Except SettingFault Bool :=
  if n = 0 then .ok false else if n = 1 then .ok true
  else .error (if fits then .badSwitch else .notSwitch)

def toSwitch : Setting → Except SettingFault Bool
  | switch on => .ok on
  | integer n => switchOfNumber (isWord n) n
  | decimal (some n) => switchOfNumber (isPlacedWord n) n
  | text t => match switchOfText? t with
    | some on => .ok on
    | none => .error .badSwitch
  | decimal none | null | other => .error .notSwitch

def toDomain : Setting → Except SettingFault Domain
  | text t => match Domain.ofName? t with
    | some domain => .ok domain
    | none => .error .unknownDomain
  | _ => .error .notText

def toIndent (setting : Setting) : Except SettingFault { n : Nat // n ≤ 16 } := do
  let n ← setting.toInteger
  if h : 0 ≤ n ∧ n ≤ 16 then return ⟨n.toNat, by omega⟩ else .error .outOfRange

end Setting

/-- Values for some of the settings. -/
structure GivenSettings where
  domain : Option Setting := none
  optimize : Option Setting := none
  indent : Option Setting := none
  header : Option Setting := none

namespace GivenSettings

def field {α : Type} (default : α) (read : Setting → Except SettingFault α)
    (given : Option Setting) : Except SettingFault α :=
  match given with
  | none => .ok default
  | some setting => read setting

def faultOf {α : Type} (name : SettingName) :
    Except SettingFault α → List (SettingName × SettingFault)
  | .ok _ => []
  | .error fault => [(name, fault)]

/-- All settings that are wrong are named, not only the first. -/
def resolve (given : GivenSettings) : Except (List (SettingName × SettingFault)) Settings :=
  let domain := field .ip Setting.toDomain given.domain
  let optimize := field true Setting.toSwitch given.optimize
  let indent := field ⟨4, by decide⟩ Setting.toIndent given.indent
  let header := field true Setting.toSwitch given.header
  match domain, optimize, indent, header with
  | .ok domain, .ok optimize, .ok indent, .ok header =>
    .ok ⟨domain, optimize, indent.1, header, indent.2⟩
  | _, _, _, _ =>
    .error (faultOf .domain domain ++ faultOf .optimize optimize ++ faultOf .indent indent
      ++ faultOf .header header)

end GivenSettings

end FermRules
