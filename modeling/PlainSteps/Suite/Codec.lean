import PlainSteps.Suite
import PlainSteps.Yaml.Document

/-!
# Suites as data

The JSON form of a suite, and its readers. Fields without a value are left out when written and may
be absent or null when read; unknown fields refuse the file. A step may have any of three shapes,
of which the first that fits is taken; inside steps scalars are taken by their own types.
-/

namespace PlainSteps.Suite

/-! ## Writing -/

def settingsJson (selector : Option SelectorMode) (slider : Option SliderKind) :
    List (String × Option Json) :=
  [("selector", selector.map (.text ·.name)), ("sliderSelector", slider.map (.text ·.name))]

def Step.toJson : Step → Json
  | .sentence text => .text text
  | .command text selector slider =>
    .record (("command", some (.text text)) :: settingsJson selector slider)
  | .navigation url title =>
    .record [("waitForURL", some (.text url)), ("pageTitle", title.map .text)]

def Case.toJson (c : Case) : Json :=
  .record ([("name", some (.text c.name)), ("steps", some (.list (c.steps.map Step.toJson)))] ++
    settingsJson c.selector c.slider)

def toJson (s : Suite) : Json :=
  .record (settingsJson s.selector s.slider ++
    [("tests", some (.list (s.cases.map Case.toJson)))])

/-! ## Reading -/

def selector? (loose : Bool) (fields : List (Text × Datum)) : Option (Option SelectorMode) :=
  Datum.optional? "selector" (Datum.choice? loose SelectorMode.all SelectorMode.name) fields

def slider? (loose : Bool) (fields : List (Text × Datum)) : Option (Option SliderKind) :=
  Datum.optional? "sliderSelector" (Datum.choice? loose SliderKind.all SliderKind.name) fields

namespace Step

def commandOfDatum? (d : Datum) : Option Step := do
  let fields ← d.record? true ["command", "selector", "sliderSelector"]
  return .command (← Datum.required? "command" Datum.text? fields)
    (← Suite.selector? true fields) (← Suite.slider? true fields)

def navigationOfDatum? (d : Datum) : Option Step := do
  let fields ← d.record? true ["waitForURL", "pageTitle"]
  return .navigation (← Datum.required? "waitForURL" Datum.text? fields)
    (← Datum.optional? "pageTitle" Datum.text? fields)

/-- Reads a step of the first shape that fits. -/
def ofDatum? (d : Datum) : Option Step := do
  let d ← d.typed?
  (d.text?.map sentence).or ((commandOfDatum? d).or (navigationOfDatum? d))

end Step

def Case.ofDatum? (loose : Bool) (d : Datum) : Option Case := do
  let fields ← d.record? loose ["name", "steps", "selector", "sliderSelector"]
  let steps ← Datum.required? "steps" Datum.list? fields
  return {
    name := ← Datum.required? "name" Datum.text? fields
    steps := ← steps.mapM Step.ofDatum?
    selector := ← Suite.selector? loose fields
    slider := ← Suite.slider? loose fields }

def ofDatum? (loose : Bool) (d : Datum) : Option Suite := do
  let fields ← d.record? loose ["selector", "sliderSelector", "tests"]
  let cases ← Datum.required? "tests" Datum.list? fields
  return {
    cases := ← cases.mapM (Case.ofDatum? loose)
    selector := ← Suite.selector? loose fields
    slider := ← Suite.slider? loose fields }

/-- Reads a suite that is fit to run. -/
def ofDatum [Regex.Engine] (loose : Bool) (d : Datum) : Except Fault Suite :=
  match ofDatum? loose d with
  | none => .error (.unreadable "the file holds no suite")
  | some s =>
    match s.fault? with
    | some f => .error f
    | none => .ok s

/-- Reads the text of a test file. -/
def ofYaml [Regex.Engine] (t : Text) : Except Fault Suite :=
  match Yaml.read t with
  | .ok d => ofDatum false d
  | .error reason => .error (.unreadable reason)

def ofJson [Regex.Engine] (j : Json) : Except Fault Suite := ofDatum true (.ofJson j)

end PlainSteps.Suite
