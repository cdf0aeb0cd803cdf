import FermRules.Keyword.Basic
import FermRules.Text.Lowercase

/-! What the options of a rule may be: the keywords known from the start, those that a protocol, a
match module or a target brings along, and other names for options. -/

namespace FermRules

structure Registry where
  aliases : List (String × String)
  conditions : Keywords
  protocols : List (String × Keywords)
  modules : List (String × Keywords)
  targets : List (String × Keywords)
  /-- The match module that goes with a protocol, where it does not have the protocol's name. -/
  protocolModules : List (String × String)

namespace Registry

def resolve (r : Registry) (name : String) : String := (r.aliases.lookup name).getD name

/-- A protocol is known by its name in lower case. -/
def protocolKeywords (r : Registry) (protocol : String) : Keywords :=
  (r.protocols.lookup (Text.lowercase protocol)).getD []

def moduleKeywords (r : Registry) (name : String) : Keywords := (r.modules.lookup name).getD []

def targetKeywords (r : Registry) (name : String) : Keywords := (r.targets.lookup name).getD []

def isTarget (r : Registry) (name : String) : Bool := (r.targets.lookup name).isSome

def moduleForProtocol (r : Registry) (protocol : String) : String :=
  let protocol := Text.lowercase protocol
  (r.protocolModules.lookup protocol).getD protocol

end Registry

/-- The keyword of the option that names match modules. -/
def matchKeyword : Keyword := ⟨"match", .list, .never, some "mod", true⟩

end FermRules
