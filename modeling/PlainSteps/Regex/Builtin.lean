import PlainSteps.Regex.Match

/-!
# The engine at hand

An engine for the program to run with, and for examples. Characters are Unicode; there is no
back-reference and no look-around. What its faults say, and where it draws the line for programs
that are too big, is its own. It is there for those who open `Regex.Builtin`.
-/

namespace PlainSteps.Regex

/-- The program of a text. -/
def programOf (source : Text) : Except Fault Program := do
  let (program, _) ← (← parse source).program {}
  unless program.fits do throw .size
  return program

/-- Some part of the text matches. -/
def Program.isMatch (p : Program) (t : Text) : Bool :=
  let s : Subject := ⟨t.toArray⟩
  (List.range (t.length + 1)).any fun i => !(p.ends s i).isEmpty

namespace Builtin

scoped instance engine : Engine where
  compile source :=
    match programOf source with
    | .ok p => .ok ⟨source, p.isMatch⟩
    | .error fault => .error fault.message
  source_of_compile h := by
    split at h
    · exact congrArg source (Except.ok.inj h).symm
    · cases h

end Builtin

end PlainSteps.Regex
