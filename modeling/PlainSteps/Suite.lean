import PlainSteps.Locator
import PlainSteps.Pattern
import PlainSteps.Sentence

/-!
# Suites

A suite is a list of named cases, and a case a list of steps. A step is a sentence, a sentence with
settings of its own, or a wait for an address. `Suite.fault?` finds the first thing in file order
that makes a suite unfit to run; sentences are not read for that.
-/

namespace PlainSteps

namespace Suite

inductive Step where
  | sentence (text : Text)
  /-- A sentence with settings that go before those of its case and its file. -/
  | command (text : Text) (selector : Option SelectorMode) (slider : Option SliderKind)
  /-- A wait for an address, and then for a title if there is one. -/
  | navigation (url : Text) (title : Option Text)
  deriving Repr, DecidableEq, Inhabited

structure Case where
  name : Text
  steps : List Step
  selector : Option SelectorMode := none
  slider : Option SliderKind := none
  deriving Repr, DecidableEq, Inhabited

namespace Step

def sentence? : Step → Option Text
  | sentence text | command text _ _ => some text
  | navigation _ _ => none

def selector? : Step → Option SelectorMode
  | command _ selector _ => selector
  | _ => none

def slider? : Step → Option SliderKind
  | command _ _ slider => slider
  | _ => none

/-- The commands of a step; a wait has none. -/
def commands [Regex.Engine] (tagger : Sentence.Tagger) (s : Step) :
    Except Sentence.Fault (List Command) :=
  s.sentence?.elim (.ok []) (Sentence.parseWith tagger)

/-- The line that stands for a step in reports. -/
def describe : Step → Text
  | sentence text | command text _ _ => text
  | navigation url none => "Wait for URL " ++ url
  | navigation url (some title) => "Wait for URL " ++ url ++ " with title " ++ title

/-- What is wrong with a step of a case. -/
def fault? [Regex.Engine] (case : Text) (index : Nat) : Step → Option Fault
  | sentence text | command text _ _ =>
    if Text.blank text then some (.emptyStep case index) else none
  | navigation url title =>
    (url :: title.toList).findSome? fun pattern =>
      match Pattern.parse pattern with
      | .ok _ => none
      | .error f => some (.invalidPattern case index f.message)

end Step

/-- The first fault of the steps of a case, from an index on. -/
def stepsFault? [Regex.Engine] (case : Text) (index : Nat) : List Step → Option Fault
  | [] => none
  | s :: r => (s.fault? case index).or (stepsFault? case (index + 1) r)

/-- The first fault of a case behind cases with some names. -/
def caseFault? [Regex.Engine] (earlier : List Text) (index : Nat) (c : Case) : Option Fault :=
  if Text.blank c.name then some (.unnamedCase index)
  else if earlier.contains c.name then some (.repeatedName c.name)
  else if c.steps.isEmpty then some (.noSteps c.name)
  else stepsFault? c.name 0 c.steps

/-- The first fault of cases behind cases with some names. -/
def casesFault? [Regex.Engine] (earlier : List Text) (index : Nat) : List Case → Option Fault
  | [] => none
  | c :: r => (caseFault? earlier index c).or (casesFault? (c.name :: earlier) (index + 1) r)

end Suite

structure Suite where
  cases : List Suite.Case
  selector : Option SelectorMode := none
  slider : Option SliderKind := none
  deriving Repr, DecidableEq, Inhabited

namespace Suite

/-- The first thing that makes a suite unfit to run. -/
def fault? [Regex.Engine] (s : Suite) : Option Fault :=
  if s.cases.isEmpty then some .noTests else casesFault? [] 0 s.cases

/-- The setting of the step, else of the case, else of the file, else `label`. -/
def selectorMode (s : Suite) (c : Case) (step : Step) : SelectorMode :=
  ((step.selector?.or c.selector).or s.selector).getD .label

/-- The setting of the step, else of the case, else of the file, else `native`. -/
def sliderKind (s : Suite) (c : Case) (step : Step) : SliderKind :=
  ((step.slider?.or c.slider).or s.slider).getD .native

end Suite

end PlainSteps
