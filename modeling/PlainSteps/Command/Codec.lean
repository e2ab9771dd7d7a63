import PlainSteps.Command
import PlainSteps.Datum

/-!
# Commands as data

The JSON form of a command, and its reader. Fields without a value are left out when written and
may be absent or null when read; the two flags are always written. Unknown fields are passed over.
-/

namespace PlainSteps

def Action.toJson (a : Action) : Json := .text a.word

namespace Command

/-- The names of the fields, in order. -/
def fieldNames : List Text :=
  ["action", "object", "elementType", "specifier", "isSection", "isNegativeAssertion",
    "assertBehavior", "valueBehavior", "variableName", "value"]

def toJson (c : Command) : Json :=
  .record [("action", some c.action.toJson), ("object", some (.text c.object)),
    ("elementType", some (.text c.elementType)), ("specifier", c.specifier.map .text),
    ("isSection", some (.bool c.isSection)),
    ("isNegativeAssertion", some (.bool c.isNegativeAssertion)),
    ("assertBehavior", c.assertion.map (.text ·.name)),
    ("valueBehavior", c.aspect.map (.text ·.name)),
    ("variableName", c.variableName.map .text), ("value", c.value.map .text)]

/-- Reads the fields of a command. -/
def ofFields? (fields : List (Text × Datum)) : Option Command := do
  let flag (name : Text) : Option Bool :=
    (Datum.unique? name fields).bind fun d => d.elim (some false) Datum.bool?
  let choice {α : Type} (all : List α) (name : α → Text) := Datum.choice? true all name
  return {
    action := ← Datum.required? "action" (choice Action.all Action.word) fields
    object := ← Datum.required? "object" Datum.text? fields
    elementType := ← Datum.required? "elementType" Datum.text? fields
    specifier := ← Datum.optional? "specifier" Datum.text? fields
    isSection := ← flag "isSection"
    isNegativeAssertion := ← flag "isNegativeAssertion"
    assertion := ← Datum.optional? "assertBehavior" (choice Assertion.all Assertion.name) fields
    aspect := ← Datum.optional? "valueBehavior" (choice Aspect.all Aspect.name) fields
    variableName := ← Datum.optional? "variableName" Datum.text? fields
    value := ← Datum.optional? "value" Datum.text? fields }

/-- Reads a command from an object, or from a list of its fields in order. -/
def ofDatum? : Datum → Option Command
  | .map entries => ofFields? (entries.filterMap fun (k, v) => k.text?.map (·, v))
  | .list items =>
    if items.length ≤ fieldNames.length then ofFields? (fieldNames.zip items) else none
  | _ => none

def ofJson? (j : Json) : Option Command := ofDatum? (.ofJson j)

end Command

end PlainSteps
