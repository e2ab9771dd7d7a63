import PlainSteps.Run.Options
import PlainSteps.Variables
import PlainSteps.Yaml.Document

/-!
# Settings of a project

A settings file gives values to refer to from sentences, and overrides options of a run. A file of
white space alone sets nothing.
-/

namespace PlainSteps

structure Settings where
  /-- Names and values to refer to, in the order of names. -/
  globals : List (Text × Option Text) := []
  timeoutMs : Option Nat := none
  navigationTimeoutMs : Option Nat := none
  failFast : Option Bool := none
  deriving Repr, DecidableEq, Inhabited

namespace Settings

/-- The names of settings files, the one to be preferred first. -/
def fileNames : List Text := ["textwright.yaml", "textwright.yml"]

/-- Options with the settings put over them. -/
def apply (s : Settings) (o : Run.Options) : Run.Options :=
  { o with
    timeoutMs := s.timeoutMs.getD o.timeoutMs
    navigationTimeoutMs := s.navigationTimeoutMs.getD o.navigationTimeoutMs
    failFast := s.failFast.getD o.failFast }

/-- The variables at the start of a run. -/
def values (s : Settings) : Variables := .ofGlobals s.globals

/-! ## The written form -/

def toJson (s : Settings) : Json :=
  let globals := s.globals.map fun (k, v) => (k, v.elim .null .text)
  .record [("globalVariables", some (.object globals)),
    ("timeoutMs", s.timeoutMs.map fun n => .int n),
    ("navigationTimeoutMs", s.navigationTimeoutMs.map fun n => .int n),
    ("failFast", s.failFast.map .bool)]

/-- Reads names and values; of two values for a name the later counts. -/
def globalsOfDatum? (d : Datum) : Option (List (Text × Option Text)) := do
  let entries ← (← d.map?).mapM fun (k, v) => do
    return (← k.text?, ← Datum.option? Datum.text? v)
  return entries.foldl (fun globals (k, v) => Variables.put k v globals) []

def ofDatum? (d : Datum) : Option Settings := do
  let fields ← d.record? false ["globalVariables", "timeoutMs", "navigationTimeoutMs", "failFast"]
  let globals ← Datum.unique? "globalVariables" fields
  return {
    globals := ← globals.elim (some []) globalsOfDatum?
    timeoutMs := ← Datum.optional? "timeoutMs" Datum.natural? fields
    navigationTimeoutMs := ← Datum.optional? "navigationTimeoutMs" Datum.natural? fields
    failFast := ← Datum.optional? "failFast" Datum.bool? fields }

/-- Reads the text of a settings file. -/
def ofYaml (t : Text) : Except Suite.Fault Settings :=
  if Text.blank t then .ok {}
  else match Yaml.read t with
    | .error reason => .error (.unreadableSettings reason)
    | .ok d =>
      match ofDatum? d with
      | some s => .ok s
      | none => .error (.unreadableSettings "the file holds no settings")

end Settings

end PlainSteps
