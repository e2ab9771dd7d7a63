import PlainSteps.Command.Codec

/-!
# Events of a run

What a run does and observes, in order, with the line that a transcript shows for each event and
its JSON form. Steps count from zero; a transcript counts them from one.
-/

namespace PlainSteps

inductive Event where
  | caseStarted (case : Text)
  | caseFinished (case : Text) (passed : Bool)
  | stepStarted (case : Text) (step : Nat) (text : Text)
  /-- A command has acted on the page. -/
  | actionPerformed (action : Action) (command target : Text)
  | variableStored (name value : Text)
  | assertionPassed (case : Text) (step : Nat) (command : Text)
  | assertionFailed (case : Text) (step : Nat) (command expected actual : Text)
  /-- A step has ended early. -/
  | stepError (case : Text) (step : Nat) (message : Text)
  | runCancelled (case : Text)
  deriving Repr, DecidableEq, Inhabited

namespace Event

/-- The line of a transcript. -/
def line : Event → Text
  | caseStarted case => "▶ " ++ case
  | caseFinished case passed => (if passed then "✓ " else "✗ ") ++ case
  | stepStarted _ step text => "  [" ++ Text.ofNat (step + 1) ++ "] " ++ text
  | actionPerformed _ command target => "    " ++ command ++ " (" ++ target ++ ")"
  | variableStored name value =>
    "    ".toList ++ '{' :: name ++ '}' :: " = \"".toList ++ value ++ ['"']
  | assertionPassed _ _ command => "    ✓ " ++ command
  | assertionFailed _ _ command expected actual =>
    "    ✗ " ++ command ++ ": expected " ++ expected ++ ", got " ++ actual
  | stepError _ _ message => "    ✗ " ++ message
  | runCancelled case => "■ cancelled during " ++ case

def toJson : Event → Json
  | caseStarted case => tagged "case_started" [("case", .text case)]
  | caseFinished case passed =>
    tagged "case_finished" [("case", .text case), ("passed", .bool passed)]
  | stepStarted case step text =>
    tagged "step_started" [("case", .text case), ("step_index", .int step), ("text", .text text)]
  | actionPerformed action command target =>
    tagged "action_performed" [("action", action.toJson), ("command", .text command),
      ("target", .text target)]
  | variableStored name value =>
    tagged "variable_stored" [("name", .text name), ("value", .text value)]
  | assertionPassed case step command =>
    tagged "assertion_passed" [("case", .text case), ("step_index", .int step),
      ("command", .text command)]
  | assertionFailed case step command expected actual =>
    tagged "assertion_failed" [("case", .text case), ("step_index", .int step),
      ("command", .text command), ("expected", .text expected), ("actual", .text actual)]
  | stepError case step message =>
    tagged "step_error" [("case", .text case), ("step_index", .int step),
      ("message", .text message)]
  | runCancelled case => tagged "run_cancelled" [("case", .text case)]
where
  tagged (name : String) (fields : List (String × Json)) : Json :=
    .record (("event", some (.text name)) :: fields.map fun (n, j) => (n, some j))

end Event

/-- The lines of a transcript. -/
def transcript (events : List Event) : Text := Text.join ['\n'] (events.map Event.line)

end PlainSteps
