import FermRules.CommandLine.Arguments
import FermRules.CommandLine.Files
import FermRules.Dump.Conversion
import FermRules.Registry.Standard
import FermRules.Summary
import FermRules.Text.Console
import FermRules.Text.Utf8

/-! A run of the command: what it prints, logs and writes, given its surroundings. The dump is read
to its end before the output is opened, and what was written before a fatal fault stays. -/

namespace FermRules.CommandLine

/-- Why a run fails. -/
inductive RunFault where
  | missingDump (path : String)
  | notUtf8 (path : String) (byte : Nat)
  | file (fault : FileFault) (path : String)
  | conversion (fault : LocatedFault)
  deriving DecidableEq, Repr

def RunFault.message : RunFault → String
  | missingDump path => "Dump file not found: " ++ path
  | notUtf8 path byte => "Dump is not valid UTF-8: " ++ path ++ " (byte " ++ toString byte ++ ")"
  | file fault path => fault.message path
  | conversion fault => fault.message

/-- What the console shows for a run that fails, in red if it can. -/
def errorText (message : String) : String :=
  Text.Console.display ("[red]Error: " ++ Text.Markup.escape message ++ "[/red]") ++ "\n"

structure Outcome where
  exit : Nat
  output : String := ""
  errors : String := ""
  log : List LogRecord := []
  /-- The path and the text of the output, if it does not go to standard output. -/
  written : Option (String × String) := none
  deriving DecidableEq, Repr

def exampleText : String := "\n".intercalate
  ["",
   "Usage Examples:",
   "",
   "1. Convert the running IPv4 rule set:",
   "   iptables-save | fermimporter > ferm.conf",
   "",
   "2. Convert an IPv6 dump without a header comment:",
   "   fermimporter rules.v6 --domain ip6",
   "",
   "3. Keep the rule list flat and show a summary:",
   "   fermimporter rules.v4 --no-optimize --summary --output ferm.conf",
   "",
   ""]

namespace Outcome

def failed (fault : RunFault) : Outcome :=
  { exit := 1, errors := errorText fault.message }

def badSettings (faults : List (SettingName × SettingFault)) : Outcome :=
  let reasons := faults.map fun (name, fault) => fault.message?.getD ("bad value for " ++ name.text)
  { exit := 2, errors := errorText ("invalid settings: " ++ ", ".intercalate reasons) }

end Outcome

namespace Arguments

def settings (a : Arguments) : Except (List (SettingName × SettingFault)) Settings :=
  GivenSettings.resolve {
    domain := some ((a.domain.map .text).getD .other)
    optimize := some (.switch a.optimize)
    indent := some ((a.indent.map .integer).getD .other)
    header := some (.switch a.header) }

/-- Whether the run gets as far as reading the dump. -/
def readsDump (a : Arguments) : Bool := !a.examples && a.settings.isOk

/-- The path that the output goes to. -/
def outputPath (a : Arguments) : Option String := a.output.map Path.normalize

end Arguments

def dumpLines (s : Surroundings) (path : String) : Except RunFault (List String) := do
  let bytes ← if path = "-" then .ok s.input else
    match s.read path with
    | .ok bytes => .ok bytes
    | .error .missing => .error (.missingDump path)
    | .error fault => .error (.file fault path)
  match Text.decodeUtf8 bytes with
  | .ok text => return Text.lines text
  | .error byte => throw (.notUtf8 path byte)

def openOutput (s : Surroundings) : Option String → Except RunFault Unit
  | none => .ok ()
  | some path => (s.create path).mapError fun fault => .file fault path

def convert (a : Arguments) (settings : Settings) (lines : List String) : Outcome :=
  let result := Conversion.ofLines settings .standard lines
  let text := result.output settings .standard
  { exit := if result.fault.isSome then 1 else 0
    output := if a.output.isSome then "" else text
    errors := match result.fault with
      | some fault => errorText fault.message
      | none => if a.summary then Summary.text result.events else ""
    log := (logRecords result.events).filter fun record => a.verbose || record.level ≠ .debug
    written := a.outputPath.map fun path => (path, text) }

def Arguments.run (s : Surroundings) (a : Arguments) : Outcome :=
  if a.examples then { exit := 0, output := exampleText }
  else match a.settings with
    | .error faults => .badSettings faults
    | .ok settings =>
      match (do let lines ← dumpLines s a.input; openOutput s a.outputPath; return lines) with
      | .error fault => .failed fault
      | .ok lines => convert a settings lines

end FermRules.CommandLine
