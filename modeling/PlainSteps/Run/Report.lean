import PlainSteps.Json

/-!
# Reports

What a run has found out, by case and step. A step passes if it ran to its end and every assertion
in it held. Times are in milliseconds; who runs a suite measures them.
-/

namespace PlainSteps.Run

/-- An assertion that did not hold. -/
structure AssertionFailure where
  case : Text
  step : Nat
  command : Text
  expected : Text
  actual : Text
  deriving Repr, DecidableEq, Inhabited

inductive Status where
  | passed
  | failed
  | error
  | skipped
  deriving Repr, DecidableEq, Inhabited

def Status.name : Status → Text
  | passed => "passed"
  | failed => "failed"
  | error => "error"
  | skipped => "skipped"

structure StepReport where
  index : Nat
  text : Text
  /-- The number of commands that the sentence holds. -/
  commands : Nat := 0
  assertionsPassed : Nat := 0
  failures : List AssertionFailure := []
  /-- Why the step ended early. -/
  error : Option Text := none
  /-- The step never ran. -/
  skipped : Bool := false
  durationMs : Nat := 0
  deriving Repr, DecidableEq, Inhabited

structure CaseReport where
  name : Text
  steps : List StepReport := []
  /-- Why the page could not be reset behind the case. -/
  resetError : Option Text := none
  durationMs : Nat := 0
  deriving Repr, DecidableEq, Inhabited

structure Report where
  cases : List CaseReport := []
  /-- A call for the end of the run has kept steps from running. -/
  cancelled : Bool := false
  durationMs : Nat := 0
  deriving Repr, DecidableEq, Inhabited

/-- The failure over three lines. -/
def AssertionFailure.message (f : AssertionFailure) : Text :=
  f.case ++ " (step " ++ Text.ofNat (f.step + 1) ++ "): " ++ f.command ++ "\n  expected: " ++
    f.expected ++ "\n  actual:   " ++ f.actual

namespace StepReport

def status (r : StepReport) : Status :=
  if r.skipped then .skipped
  else if r.error.isSome then .error
  else if r.failures.isEmpty then .passed
  else .failed

def passed (r : StepReport) : Bool := r.status == .passed

end StepReport

namespace CaseReport

def passed (r : CaseReport) : Bool := r.resetError.isNone && r.steps.all StepReport.passed

/-- The first step that did not pass. -/
def firstFailure? (r : CaseReport) : Option StepReport := r.steps.find? (!·.passed)

end CaseReport

namespace Report

def passed (r : Report) : Bool := !r.cancelled && r.cases.all CaseReport.passed

def passedCount (r : Report) : Nat := r.cases.countP CaseReport.passed

def failedCount (r : Report) : Nat := r.cases.length - r.passedCount

/-- All assertions that did not hold, in order. -/
def failures (r : Report) : List AssertionFailure :=
  r.cases.flatMap fun c => c.steps.flatMap (·.failures)

/-- All steps that ended early, each with its case. -/
def errors (r : Report) : List (CaseReport × StepReport) :=
  r.cases.flatMap fun c => (c.steps.filter (·.error.isSome)).map (c, ·)

def summary (r : Report) : Text :=
  Text.ofNat r.passedCount ++ "/" ++ Text.ofNat r.cases.length ++ " cases passed in " ++
    Text.ofNat r.durationMs ++ "ms" ++ (if r.cancelled then " (cancelled)" else [] : Text)

end Report

/-! ## The JSON form -/

def AssertionFailure.toJson (f : AssertionFailure) : Json :=
  .record [("case", some (.text f.case)), ("step_index", some (.int f.step)),
    ("command", some (.text f.command)), ("expected", some (.text f.expected)),
    ("actual", some (.text f.actual))]

def StepReport.toJson (r : StepReport) : Json :=
  .record [("index", some (.int r.index)), ("text", some (.text r.text)),
    ("commands", some (.int r.commands)), ("assertions_passed", some (.int r.assertionsPassed)),
    ("failures",
      if r.failures.isEmpty then none else some (.list (r.failures.map AssertionFailure.toJson))),
    ("error", r.error.map .text), ("skipped", if r.skipped then some (.bool true) else none),
    ("duration_ms", some (.int r.durationMs))]

def CaseReport.toJson (r : CaseReport) : Json :=
  .record [("name", some (.text r.name)), ("steps", some (.list (r.steps.map StepReport.toJson))),
    ("reset_error", r.resetError.map .text), ("duration_ms", some (.int r.durationMs))]

def Report.toJson (r : Report) : Json :=
  .record [("cases", some (.list (r.cases.map CaseReport.toJson))),
    ("cancelled", some (.bool r.cancelled)), ("duration_ms", some (.int r.durationMs))]

end PlainSteps.Run
