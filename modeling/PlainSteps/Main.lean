import PlainSteps.Cli.Execute
import PlainSteps.Regex.Builtin

/-!
# The program

The command line on real files.
-/

namespace PlainSteps.Cli

/-- The message of an error with a file. -/
def fileMessage : IO.Error → Text
  | .noFileOrDirectory .. => "No such file or directory (os error 2)"
  | .inappropriateType .. => "Is a directory (os error 21)"
  | .permissionDenied .. => "Permission denied (os error 13)"
  | e => toString e

def readFileText (path : Text) : IO (Except Failure Text) := do
  match ← (IO.FS.readFile (String.ofList path)).toBaseIO with
  | .ok text => return .ok text
  | .error e => return .error (.io (fileMessage e))

/-- The files of the working directory and around it. -/
def realDisk : Disk IO where
  readText := readFileText
  isFile path := do return (← readFileText path).isOk

end PlainSteps.Cli

open PlainSteps PlainSteps.Regex.Builtin in
def main (words : List String) : IO UInt32 := do
  let ending ← Cli.program Cli.realDisk (words.map String.toList)
  IO.print (String.ofList ending.out)
  IO.eprint (String.ofList ending.err)
  return ending.code.toUInt32
