import PlainSteps.Sentence.Fault
import PlainSteps.Suite.Fault

/-!
# Failures

Everything that can go wrong while a test file is read or run, with the text that reports it.
-/

namespace PlainSteps

inductive Failure where
  | sentence (fault : Sentence.Fault)
  | suite (fault : Suite.Fault)
  /-- No visible element fits what was looked for. -/
  | targetNotFound (role name : Text) (specifier : Option Text)
  /-- A value is not of the form that an action needs. -/
  | coercion (value expected : Text)
  | unknownVariable (name : Text)
  | sliderDidNotConverge (name : Text) (target last : Int) (iterations : Nat)
  | missingAttribute (name attr : Text)
  /-- A difference of 64-bit numbers is none. Nothing handles that: the program ends there. -/
  | overflow
  | invalidPattern (pattern reason : Text)
  | timeout (awaited : Text) (ms : Nat)
  | cancelled
  /-- The page could not carry out a call. -/
  | backend (message : Text)
  | io (message : Text)
  | json (message : Text)
  deriving Repr, DecidableEq, Inhabited

namespace Failure

def message : Failure → Text
  | sentence f => f.message
  | suite f => f.message
  | targetNotFound role name specifier =>
    "No visible " ++ role ++ " named \"" ++ name ++ "\"" ++
      (match specifier with
        | some s => " on \"" ++ s ++ "\""
        | none => ([] : Text))
  | coercion value expected => "Cannot use \"" ++ value ++ "\" as " ++ expected
  | unknownVariable name => "Variable \"" ++ name ++ "\" has not been stored"
  | sliderDidNotConverge name target last iterations =>
    "Slider \"" ++ name ++ "\" did not reach " ++ Text.ofInt target ++ " after " ++
      Text.ofNat iterations ++ " moves (last value " ++ Text.ofInt last ++ ")"
  | missingAttribute name attr => "Element \"" ++ name ++ "\" has no readable " ++ attr
  | overflow => "attempt to subtract with overflow"
  | invalidPattern pattern reason => "Invalid pattern \"" ++ pattern ++ "\": " ++ reason
  | timeout awaited ms => "Timed out after " ++ Text.ofNat ms ++ "ms waiting for " ++ awaited
  | cancelled => "Run cancelled"
  | backend message => "Backend error: " ++ message
  | io message => "I/O error: " ++ message
  | json message => "JSON error: " ++ message

/-- Trying again may help once the page has settled. -/
def isRetryable : Failure → Bool
  | targetNotFound .. | missingAttribute .. => true
  | _ => false

end Failure

end PlainSteps
