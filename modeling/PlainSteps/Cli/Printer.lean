import PlainSteps.Run.Report
import PlainSteps.Suite.Review

/-!
# Printed reports

A printer writes reports as lines. With colors on, marks stand for the words `PASS`, `FAIL` and
`WARN`, and they are painted where the output can show it. A quiet printer writes failures only.
-/

namespace PlainSteps.Cli

structure Printer where
  color : Bool := true
  /-- The output shows colors. -/
  paints : Bool := false
  quiet : Bool := false
  deriving Repr, DecidableEq, Inhabited

/-- The lines of a text without their ends. An end behind the last line begins no other. -/
def linesOf (t : Text) : List Text :=
  let pieces := Text.splitWith (· == '\n') t
  let ended := pieces.dropLast.map fun p => (Text.dropTail? ['\r'] p).getD p
  match pieces.getLast? with
  | some [] | none => ended
  | some last => ended ++ [last]

namespace Printer

/-- A text with the codes of a style around it. -/
def paint (p : Printer) (codes : List Nat) (t : Text) : Text :=
  let code (n : Nat) : Text := Char.ofNat 27 :: '[' :: Text.ofNat n ++ ['m']
  if p.paints then codes.flatMap code ++ t ++ code 0 else t

/-- A line with a mark in front, in a color. -/
def marked (p : Printer) (mark word : Text) (color : Nat) (message : Text) : Text :=
  (if p.color then p.paint [color, 1] mark else word) ++ " " ++ message

def success (p : Printer) (message : Text) : List Text :=
  if p.quiet then [] else [p.marked "✓" "PASS" 32 message]

def failure (p : Printer) (message : Text) : List Text := [p.marked "✗" "FAIL" 31 message]

def warning (p : Printer) (message : Text) : List Text :=
  if p.quiet then [] else [p.marked "⚠" "WARN" 33 message]

/-- The lines of a message, indented. -/
def detail (p : Printer) (message : Text) : List Text :=
  if p.quiet then [] else (linesOf message).map fun line => "    " ++ line

def header (p : Printer) (title : Text) : List Text :=
  if p.quiet then [] else [[], if p.color then p.paint [1, 4] title else "=== " ++ title ++ " ==="]

/-! ## Reports of runs -/

/-- What there is to say of a step that did not pass. -/
def step (p : Printer) (s : Run.StepReport) : List Text :=
  let number := Text.ofNat (s.index + 1)
  match s.status with
  | .passed => []
  | .skipped => p.detail ("step " ++ number ++ ": skipped")
  | .error =>
    p.detail ("step " ++ number ++ ": " ++ s.text ++ "\n  error: " ++ s.error.getD [])
  | .failed => s.failures.flatMap fun f => p.detail f.message

def case (p : Printer) (c : Run.CaseReport) : List Text :=
  if c.passed then p.success (c.name ++ " (" ++ Text.ofNat c.durationMs ++ "ms)")
  else
    p.failure c.name ++ c.steps.flatMap p.step ++
      c.resetError.elim [] fun e => p.detail ("reset: " ++ e)

def report (p : Printer) (r : Run.Report) : List Text :=
  let cases := r.cases.flatMap p.case
  if p.quiet && r.passed then cases
  else
    let word : Text := if r.passed then "PASSED" else "FAILED"
    let word := if p.color then p.paint [if r.passed then 32 else 31, 1] word else word
    let last : Text := word ++ " " ++ r.summary
    cases ++ [[], last]

/-! ## Reviews -/

def reviewedStep (p : Printer) (case : Text) (s : Suite.ReviewedStep) : List Text :=
  match s.error with
  | some message =>
    p.failure (case ++ " (step " ++ Text.ofNat (s.index + 1) ++ "): " ++ s.text) ++
      p.detail message
  | none =>
    if s.commands.isEmpty then p.success s.text
    else s.commands.flatMap fun c => p.success c.render

def review (p : Printer) (r : Suite.Review) : List Text :=
  r.cases.flatMap fun c => p.header c.name ++ c.steps.flatMap (p.reviewedStep c.name)

end Printer

/-- What is said of steps that never ran, if there are any. -/
def skippedWarning (r : Run.Report) : Option Text :=
  let skipped := (r.cases.flatMap (·.steps)).countP (·.status == .skipped)
  if skipped = 0 then none else some (Text.ofNat skipped ++ " step(s) skipped")

end PlainSteps.Cli
