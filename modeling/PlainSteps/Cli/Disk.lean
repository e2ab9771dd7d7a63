import PlainSteps.Settings
import PlainSteps.Suite.Codec

/-!
# Files

What the command line needs of files, in a monad of choice, and files in memory. Paths are relative
to a working directory; a directory is there if a file is in it.
-/

namespace PlainSteps.Cli

structure Disk (m : Type → Type) where
  readText : (path : Text) → m (Except Failure Text)
  isFile : (path : Text) → m Bool

/-- The parts of a path that name something. -/
def pathParts (path : Text) : List Text :=
  (Text.splitWith (· == '/') path).filter fun p => !p.isEmpty && p != ['.']

/-- The directory that a path names something in, unless it is the working directory. -/
def parent? (path : Text) : Option Text :=
  let parts := (pathParts path).dropLast
  if parts.isEmpty then none
  else some ((if path.head? == some '/' then ['/'] else []) ++ Text.join ['/'] parts)

def fileIn (directory name : Text) : Text := directory ++ '/' :: name

/-! ## Files in memory -/

/-- What a path leads to. -/
inductive Entry where
  | file (text : Text)
  | directory (parts : List Text)
  /-- A part of the path goes on behind a file. -/
  | blocked
  | missing
  deriving Repr, DecidableEq, Inhabited

/-- Files by the parts of their paths. -/
abbrev FileTree := List (List Text × Text)

namespace FileTree

/-- What stands at a place. -/
def at_ (t : FileTree) (parts : List Text) : Entry :=
  match t.find? (·.1 == parts) with
  | some (_, text) => .file text
  | none =>
    if parts.isEmpty || t.any fun (p, _) => parts.isPrefixOf p then .directory parts else .missing

/-- Follows the parts of a path from an entry. -/
def follow (t : FileTree) : Entry → List Text → Entry
  | e, [] => e
  | .directory here, p :: r =>
    if p.isEmpty || p == ['.'] then follow t (.directory here) r
    else if p = ".." then if here.isEmpty then .missing else follow t (.directory here.dropLast) r
    else follow t (at_ t (here ++ [p])) r
  | .file _, _ :: _ => .blocked
  | e, _ :: _ => e

def lookup (t : FileTree) (path : Text) : Entry :=
  if path.isEmpty || path.head? == some '/' then .missing
  else follow t (.directory []) (Text.splitWith (· == '/') path)

end FileTree

/-- A disk with some files, by path. -/
def Disk.ofFiles (files : List (Text × Text)) : Disk Id :=
  let tree : FileTree := files.map fun (path, text) => (pathParts path, text)
  { readText := fun path => match tree.lookup path with
      | .file text => .ok text
      | .directory _ => .error (.io "Is a directory (os error 21)")
      | .blocked => .error (.io "Not a directory (os error 20)")
      | .missing => .error (.io "No such file or directory (os error 2)")
    isFile := fun path => match tree.lookup path with
      | .file _ => true
      | _ => false }

/-! ## Suites and settings -/

section

variable {m : Type → Type} [Monad m] [Regex.Engine]

def loadSuite (d : Disk m) (path : Text) : m (Except Failure Suite) := do
  return (← d.readText path).bind fun t => (Suite.ofYaml t).mapError .suite

def loadSettings (d : Disk m) (path : Text) : m (Except Failure Settings) := do
  return (← d.readText path).bind fun t => (Settings.ofYaml t).mapError .suite

/-- The settings file of a directory, by name. -/
def findSettings (d : Disk m) (directory : Text) : m (Option Text) :=
  Settings.fileNames.findM? fun name => d.isFile (fileIn directory name)

/-- The settings of a directory. -/
def discoverSettings (d : Disk m) (directory : Text) : m (Except Failure Settings) := do
  match ← findSettings d directory with
  | some name => loadSettings d (fileIn directory name)
  | none => return .ok {}

/-- The settings for a test file: those beside it, else those of the working directory. -/
def settingsFor (d : Disk m) (file : Text) : m (Except Failure Settings) := do
  match parent? file with
  | some directory =>
    match ← findSettings d directory with
    | some name => loadSettings d (fileIn directory name)
    | none => discoverSettings d "."
  | none => discoverSettings d "."

end

end PlainSteps.Cli
