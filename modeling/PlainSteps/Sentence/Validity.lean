import PlainSteps.Sentence.Fault

/-!
# Valid commands

`Command.fault?` finds the first rule that a command breaks: a target has a name, only assertions
are negated, and each action has the operands it takes and no others.
-/

namespace PlainSteps.Command

open Sentence

/-- What is wrong with the operands of a command. -/
def operandFault? (c : Command) : Option Cause :=
  match c.action with
  | .click | .hover =>
    if c.value.isSome || c.variableName.isSome then some .conflictingOperands else none
  | .fill | .slide =>
    if c.variableName.isSome then some .conflictingOperands
    else if c.value.isNone then some (.missingField .value c.action)
    else none
  | .store =>
    if c.value.isSome then some .conflictingOperands
    else if c.variableName.isNone then some (.missingField .variableName c.action)
    else none
  | .ensure =>
    match c.assertion with
    | none => some (.missingField .assertion c.action)
    | some .exist =>
      if c.value.isSome || c.variableName.isSome then some .conflictingOperands else none
    | some _ =>
      if c.value.isSome && c.variableName.isSome then some .conflictingOperands
      else if c.value.isNone && c.variableName.isNone then some (.missingField .value c.action)
      else none

/-- The first rule that the command breaks. -/
def fault? (c : Command) : Option Cause :=
  if Text.blank c.object then some .emptyObject
  else if c.isNegativeAssertion && c.action != .ensure then
    some (.negationOutsideEnsure c.action)
  else match c.operandFault? with
    | some cause => some cause
    | none =>
      if c.action != .ensure && c.assertion.isSome then
        some (.unexpectedConnector "to" c.action)
      else none

/-- Checks a command; the clause only labels the fault. -/
def validate (c : Command) (clause : Text) : Except Fault Unit :=
  match c.fault? with
  | some cause => .error ⟨cause, clause⟩
  | none => .ok ()

end PlainSteps.Command
