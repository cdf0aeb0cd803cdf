import FermRules.CommandLine.Run

/-! The command. It reads what the arguments ask for, and prints and writes what the run says. -/

namespace FermRules.CommandLine

def usage : String :=
  "usage: [--help] [--domain NAME] [--no-optimize] [--indent N] [--no-header] [--output PATH]\n"
    ++ "       [--summary] [--examples] [--verbose] [INPUT]\n"

def fileFaultOf : IO.Error → FileFault
  | .inappropriateType _ code _ => if code = 20 then .notDirectory else .isDirectory
  | .invalidArgument _ code _ => if code = 36 then .tooLong else .missing
  | _ => .missing

partial def readAll (stream : IO.FS.Stream) (read : ByteArray) : IO ByteArray := do
  let more ← stream.read 65536
  if more.isEmpty then return read else readAll stream (read ++ more)

/-- Reads the dump that the arguments name, and opens the output if that worked. -/
def surroundings (a : Arguments) : IO Surroundings := do
  if !a.readsDump then
    return ⟨.empty, fun _ => .error .missing, fun _ => .ok ()⟩
  let input ← if a.input = "-" then readAll (← IO.getStdin) .empty else pure .empty
  let read ← if a.input = "-" then pure (.ok .empty) else
    try pure (.ok (← IO.FS.readBinFile a.input))
    catch e => pure (.error (fileFaultOf e))
  let opened ← match a.outputPath, (dumpLines ⟨input, fun _ => read, fun _ => .ok ()⟩ a.input) with
    | some path, .ok _ =>
      try
        IO.FS.writeFile path ""
        pure (.ok ())
      catch e => pure (.error (fileFaultOf e))
    | _, _ => pure (.ok ())
  return ⟨input, fun _ => read, fun _ => opened⟩

def report (o : Outcome) : IO UInt32 := do
  for record in o.log do
    IO.eprintln record.text
  IO.print o.output
  if let some (path, text) := o.written then
    IO.FS.writeFile path text
  IO.eprint o.errors
  return o.exit.toUInt32

end FermRules.CommandLine

open FermRules.CommandLine in
def main (args : List String) : IO UInt32 := do
  match Invocation.ofTexts args with
  | .error _ =>
    IO.eprint usage
    return 2
  | .ok .help =>
    IO.print usage
    return 0
  | .ok (.run a) => report (a.run (← surroundings a))
