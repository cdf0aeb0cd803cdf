import FermRules.Text.Quoted

/-! Files, as far as the command touches them. -/

namespace FermRules.CommandLine

/-- Why a file cannot be opened. -/
inductive FileFault where
  | missing
  | notDirectory
  | isDirectory
  | tooLong
  | nul
  deriving DecidableEq, Repr

def FileFault.message (path : String) : FileFault → String
  | missing => "[Errno 2] No such file or directory: " ++ Text.quoted path
  | notDirectory => "[Errno 20] Not a directory: " ++ Text.quoted path
  | isDirectory => "[Errno 21] Is a directory: " ++ Text.quoted path
  | tooLong => "[Errno 36] File name too long: " ++ Text.quoted path
  | nul => "embedded null byte"

/-- The surroundings of a run: what is read from a path or from standard input, and whether a path
can be opened for writing. -/
structure Surroundings where
  input : ByteArray
  read : String → Except FileFault ByteArray
  create : String → Except FileFault Unit

namespace Path

/-- In bytes, without the NUL behind it. -/
def maxLength : Nat := 4095

def maxNameLength : Nat := 255

def isName (part : List Char) : Bool := !part.isEmpty && part ≠ ['.']

/-- The names in a path. -/
def names (path : List Char) : List (List Char) := (path.splitOn '/').filter isName

/-- Two slashes in front are kept, any other number counts as one. -/
def root (path : List Char) : List Char :=
  match path.takeWhile (· = '/') with
  | [] => []
  | ['/', '/'] => ['/', '/']
  | _ => ['/']

/-- The same path without empty parts and without dots that stand for the directory itself. -/
def normalize (path : String) : String :=
  let cs := path.toList
  let text := root cs ++ ['/'].intercalate (names cs)
  if text.isEmpty then "." else String.ofList text

/-- Such a path can only lead to a directory. -/
def endsInDirectory (path : List Char) : Bool :=
  match (path.splitOn '/').getLast? with
  | some part => !isName part
  | none => true

end Path

/-- A directory held in memory: files by their path with slashes, directories without content. -/
structure Directory where
  entries : List (String × Option ByteArray)

/-- Directories that stand at the root of every system. -/
def standardDirectories : List String :=
  ["bin", "boot", "dev", "etc", "home", "lib", "media", "mnt", "opt", "proc", "root", "run", "sbin",
   "srv", "sys", "tmp", "usr", "var"]

/-- A place that a path leads to: one in the directory, by the names that lead there, one of the
directories around it, the root of the system or a directory there, the null device, or one beside
all these. -/
inductive Place where
  | inside (names : List String)
  | around
  | root
  | standard (name : String)
  | nullDevice
  | beside
  deriving DecidableEq, Repr

namespace Place

/-- Two dots lead back, in the end out of the directory. -/
def enter (name : String) : Place → Place
  | inside names =>
    if name ≠ ".." then inside (names ++ [name])
    else if names.isEmpty then around else inside names.dropLast
  | around => if name = ".." then around else beside
  | root =>
    if name = ".." then root
    else if standardDirectories.contains name then standard name else beside
  | standard directory =>
    if name = ".." then root
    else if directory = "dev" && name = "null" then nullDevice else beside
  | nullDevice | beside => beside

/-- The path of a place in the directory. -/
def path? : Place → Option String
  | inside names => some ("/".intercalate names)
  | _ => none

end Place

namespace Directory

/-- What stands at a place. -/
inductive Found where
  | directory
  | file (content : ByteArray)
  | free

def findPath (d : Directory) (path : String) : Found :=
  if path = "" then .directory
  else match d.entries.lookup path with
    | some (some content) => .file content
    | some none => .directory
    | none =>
      if d.entries.any fun (name, _) => (path ++ "/").isPrefixOf name then .directory else .free

/-- The null device has no content, and beside all that is known there is nothing. -/
def find (d : Directory) : Place → Found
  | .inside names => d.findPath ("/".intercalate names)
  | .around | .root | .standard _ => .directory
  | .nullDevice => .file .empty
  | .beside => .free

/-- Follows a path name by name. -/
def follow (d : Directory) : Place → List String → Except FileFault Place
  | here, [] => .ok here
  | here, name :: rest =>
    match d.find here with
    | .free => .error .missing
    | .file _ => .error .notDirectory
    | .directory =>
      if Path.maxNameLength < name.utf8ByteSize then .error .tooLong
      else d.follow (here.enter name) rest

def locate (d : Directory) (path : String) : Except FileFault Place := do
  let cs := path.toList
  if cs.contains '\x00' then throw .nul
  if path = "" then throw .missing
  if Path.maxLength < path.utf8ByteSize then throw .tooLong
  let start := if cs.head? = some '/' then .root else .inside []
  let place ← d.follow start ((Path.names cs).map String.ofList)
  if Path.endsInDirectory cs then
    match d.find place with
    | .file _ => throw .notDirectory
    | .free => throw .missing
    | .directory => return place
  else return place

def read (d : Directory) (path : String) : Except FileFault ByteArray := do
  match d.find (← d.locate path) with
  | .file content => return content
  | .directory => throw .isDirectory
  | .free => throw .missing

def create (d : Directory) (path : String) : Except FileFault Unit := do
  match d.find (← d.locate path) with
  | .directory => throw .isDirectory
  | _ => return ()

end Directory

end FermRules.CommandLine
