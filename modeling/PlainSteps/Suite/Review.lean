import PlainSteps.Command.Codec
import PlainSteps.Suite

/-!
# Reviews

A review reads every sentence of a suite, without a page. It holds the commands of every step and
the steps that are no sentences.
-/

namespace PlainSteps.Suite

variable [Regex.Engine]

structure ReviewedStep where
  index : Nat
  text : Text
  commands : List Command
  /-- Why the step is no sentence. -/
  error : Option Text
  deriving Repr, DecidableEq, Inhabited

structure ReviewedCase where
  name : Text
  steps : List ReviewedStep
  deriving Repr, DecidableEq, Inhabited

/-- A step that is no sentence. -/
structure Issue where
  case : Text
  step : Nat
  text : Text
  message : Text
  deriving Repr, DecidableEq, Inhabited

/-- What has been read so far. -/
structure Review where
  cases : List ReviewedCase := []
  stepCount : Nat := 0
  commandCount : Nat := 0
  issues : List Issue := []
  deriving Repr, DecidableEq, Inhabited

def Step.review (index : Nat) (s : Step) : ReviewedStep :=
  match s.commands .standard with
  | .ok commands => { index, text := s.describe, commands, error := none }
  | .error f => { index, text := s.describe, commands := [], error := some f.message }

def ReviewedStep.issue? (case : Text) (s : ReviewedStep) : Option Issue :=
  s.error.map fun message => ⟨case, s.index, s.text, message⟩

namespace Review

/-- Counts a step of a case, with what is wrong with it. -/
def count (r : Review) (case : Text) (s : ReviewedStep) : Review :=
  { r with
    stepCount := r.stepCount + 1
    commandCount := r.commandCount + s.commands.length
    issues := r.issues ++ (s.issue? case).toList }

/-- Reads the steps of a case from an index on. -/
def readSteps (case : Text) : (index : Nat) → List Step → Review → List ReviewedStep × Review
  | _, [], r => ([], r)
  | index, step :: rest, r =>
    let reviewed := step.review index
    let (steps, r) := readSteps case (index + 1) rest (r.count case reviewed)
    (reviewed :: steps, r)

def readCases : List Case → Review → Review
  | [], r => r
  | c :: rest, r =>
    let (steps, r) := readSteps c.name 0 c.steps r
    readCases rest { r with cases := r.cases ++ [⟨c.name, steps⟩] }

def passed (r : Review) : Bool := r.issues.isEmpty

end Review

/-- Reads every sentence of a suite. -/
def review (s : Suite) : Review := Review.readCases s.cases {}

/-! ## The JSON form -/

def ReviewedStep.toJson (s : ReviewedStep) : Json :=
  .record [("index", some (.int s.index)), ("text", some (.text s.text)),
    ("commands", some (.list (s.commands.map Command.toJson))), ("error", s.error.map .text)]

def ReviewedCase.toJson (c : ReviewedCase) : Json :=
  .record [("name", some (.text c.name)),
    ("steps", some (.list (c.steps.map ReviewedStep.toJson)))]

def Issue.toJson (i : Issue) : Json :=
  .record [("case", some (.text i.case)), ("step_index", some (.int i.step)),
    ("text", some (.text i.text)), ("message", some (.text i.message))]

def Review.toJson (r : Review) : Json :=
  .record [("cases", some (.list (r.cases.map ReviewedCase.toJson))),
    ("steps", some (.int r.stepCount)), ("commands", some (.int r.commandCount)),
    ("issues", some (.list (r.issues.map Issue.toJson)))]

end PlainSteps.Suite
