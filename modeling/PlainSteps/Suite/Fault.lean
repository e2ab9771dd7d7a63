import PlainSteps.Text

/-!
# Faults of test files and settings files
-/

namespace PlainSteps.Suite

/-- Why a test file or a settings file is refused. Cases and steps count from zero. -/
inductive Fault where
  | unreadable (reason : Text)
  | noTests
  | unnamedCase (index : Nat)
  | repeatedName (name : Text)
  | noSteps (case : Text)
  | emptyStep (case : Text) (step : Nat)
  | invalidPattern (case : Text) (step : Nat) (reason : Text)
  | unreadableSettings (reason : Text)
  deriving Repr, DecidableEq, Inhabited

def Fault.message : Fault → Text
  | .unreadable reason => "Failed to parse YAML: " ++ reason
  | .noTests => "Tests cannot be empty"
  | .unnamedCase index => "Test #" ++ Text.ofNat index ++ " has an empty name"
  | .repeatedName name => "Duplicate test name '" ++ name ++ "'"
  | .noSteps case => "Test '" ++ case ++ "' has no steps"
  | .emptyStep case step => "Test '" ++ case ++ "' step " ++ Text.ofNat step ++ " is empty"
  | .invalidPattern case step reason =>
    "Test '" ++ case ++ "' step " ++ Text.ofNat step ++ ": " ++ reason
  | .unreadableSettings reason => "Failed to parse config: " ++ reason

end PlainSteps.Suite
