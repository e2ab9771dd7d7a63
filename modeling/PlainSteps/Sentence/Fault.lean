import PlainSteps.Command

/-!
# Faults of a clause

Why a clause is no command, or a command no valid one, and the text that says so.
-/

namespace PlainSteps.Sentence

/-- A field that a command may lack. -/
inductive Field where
  | assertion
  | specifier
  | value
  | variableName
  deriving Repr, DecidableEq, Inhabited

def Field.name : Field → Text
  | .assertion => "assertBehavior"
  | .specifier => "specifier"
  | .value => "value"
  | .variableName => "variableName"

/-- What is wrong with a clause. -/
inductive Cause where
  | unknownAction (action : Text)
  | missingSegments (found : Nat)
  | extraSegment (segment : Text)
  | unknownRole (role : Text)
  | unknownAssertion (word : Text)
  | missingField (field : Field) (action : Action)
  | conflictingOperands
  | unexpectedConnector (keyword : Text) (action : Action)
  | negationOutsideEnsure (action : Action)
  | invalidRegex (pattern reason : Text)
  | unterminatedQuote
  | emptyObject
  deriving Repr, DecidableEq, Inhabited

/-- A cause and the clause that it was found in. -/
structure Fault where
  cause : Cause
  clause : Text
  deriving Repr, DecidableEq, Inhabited

def Fault.message (f : Fault) : Text :=
  let clause : Text := '"' :: f.clause ++ ['"']
  match f.cause with
  | .unknownAction action => "Unknown action \"" ++ action ++ "\" in " ++ clause
  | .missingSegments found =>
    "Expected an action, a quoted name and an element type in " ++ clause ++ " (found " ++
      Text.ofNat found ++ " of 3)"
  | .extraSegment segment => "Unexpected \"" ++ segment ++ "\" in " ++ clause
  | .unknownRole role => "Unknown element type \"" ++ role ++ "\" in " ++ clause
  | .unknownAssertion word => "Unknown assertion \"" ++ word ++ "\" in " ++ clause
  | .missingField field action => action.word ++ " needs a " ++ field.name ++ " in " ++ clause
  | .conflictingOperands =>
    "Both a value and a variable (or an operand the action does not take) in " ++ clause
  | .unexpectedConnector keyword action =>
    "\"" ++ keyword ++ "\" does not apply to " ++ action.word ++ " in " ++ clause
  | .negationOutsideEnsure action =>
    "Negation only applies to ensure, not " ++ action.word ++ ", in " ++ clause
  | .invalidRegex pattern reason =>
    "Invalid regex \"" ++ pattern ++ "\" in " ++ clause ++ ": " ++ reason
  | .unterminatedQuote => "Unterminated quote in " ++ clause
  | .emptyObject => "Empty target name in " ++ clause

end PlainSteps.Sentence
