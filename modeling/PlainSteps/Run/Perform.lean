import PlainSteps.Run.Assert
import PlainSteps.Run.Event
import PlainSteps.Run.Report
import PlainSteps.Run.Slider

/-!
# Performing steps

Every command that runs to its end leaves one finding, from which both the report and the events of
its step are made. The first command that fails ends its step; what the page and the variables have
become stays.
-/

namespace PlainSteps.Run

variable {σ : Type} [Regex.Engine]

/-- What a command that ran to its end amounts to. -/
inductive Finding where
  | performed (action : Action) (command target : Text)
  | stored (name value : Text)
  | held (command : Text)
  /-- A title matched. No event tells of that. -/
  | titleHeld
  | refuted (failure : AssertionFailure)
  deriving Repr, DecidableEq, Inhabited

namespace Finding

/-- The event that tells of a finding in a step. -/
def event? (case : Text) (step : Nat) : Finding → Option Event
  | performed action command target => some (.actionPerformed action command target)
  | stored name value => some (.variableStored name value)
  | held command => some (.assertionPassed case step command)
  | titleHeld => none
  | refuted f => some (.assertionFailed f.case f.step f.command f.expected f.actual)

/-- The variables behind a finding. -/
def update (vs : Variables) : Finding → Variables
  | stored name value => vs.insert name value
  | _ => vs

def isHeld : Finding → Bool
  | held _ | titleHeld => true
  | _ => false

def failure? : Finding → Option AssertionFailure
  | refuted f => some f
  | _ => none

end Finding

/-- Where a step stands, and how its targets are looked for. -/
structure Place where
  case : Text
  step : Nat
  selector : SelectorMode
  slider : SliderKind
  deriving Repr, DecidableEq, Inhabited

/-- The finding of a comparison. -/
def Check.finding (k : Check) (at_ : Place) (command : Text) : Finding :=
  if k.passed then .held command
  else .refuted ⟨at_.case, at_.step, command, k.expected, k.actual⟩

/-- Looks for the target of a command until it is there or its time is up. -/
def locate (b : Backend σ) (o : Options) (mode : SelectorMode) (c : Command) :
    Session σ Handle :=
  poll (settledBy fun _ => true) ((Query.plan mode c).resolve b) (retries o.timeoutMs o.pollMs)

/-- Carries out one command. -/
def perform (b : Backend σ) (o : Options) (at_ : Place) (vs : Variables) (c : Command) :
    Session σ Finding := do
  match c.action with
  | .click =>
    let h ← locate b o at_.selector c
    b.click h
    return .performed c.action c.render h.id
  | .hover =>
    let h ← locate b o at_.selector c
    b.hover h
    return .performed c.action c.render h.id
  | .fill =>
    let text ← ofExcept (vs.substitute (c.value.getD []))
    let h ← locate b o at_.selector c
    b.fill h text
    return .performed c.action c.render h.id
  | .slide =>
    let raw ← ofExcept (vs.substitute (c.value.getD []))
    let target ← ofExcept (sliderTarget raw)
    let h ← locate b o at_.selector c
    let control ← Control.locate b c.object h at_.slider
    let _ ← converge b control target o.maxIterations
    return .performed c.action c.render h.id
  | .store =>
    let h ← locate b o at_.selector c
    return .stored (c.variableName.getD []) (← plainText b c h)
  | .ensure => return (← ensure b o at_.selector vs c).finding at_ c.render

/-- Waits for an address, and then for a title if there is one. -/
def navigate (b : Backend σ) (o : Options) (at_ : Place) (url : Text) (title : Option Text) :
    Session σ (List Finding) := do
  let p ← ofExcept (Pattern.parse url)
  let _ ← awaitUrl b p o.navigationTimeoutMs o.pollMs
  match title with
  | none => return []
  | some title =>
    let p ← ofExcept (Pattern.parse title)
    let (last, fits) ← awaitTitle b p o.timeoutMs o.pollMs
    if fits then return [.titleHeld]
    else return [.refuted ⟨at_.case, at_.step, "Page title matches " ++ p.render, p.render,
      '"' :: last ++ ['"']⟩]

/-! ## Whole steps -/

/-- What commands act on and refer to. -/
structure World (σ : Type) where
  page : σ
  values : Variables := {}

/-- What a step leaves: the number of its commands, what those found that ran to their end, and
why it ended early. -/
structure Findings where
  commands : Nat := 0
  findings : List Finding := []
  failure : Option Failure := none
  deriving Repr, Inhabited

/-- The step has come upon an overflow, at which the program ends. -/
def Findings.overflows (fs : Findings) : Bool := fs.failure == some .overflow

/-- Carries out commands up to the first that fails. -/
def performAll (b : Backend σ) (o : Options) (at_ : Place) :
    List Command → World σ → (List Finding × Option Failure) × World σ
  | [], w => (([], none), w)
  | c :: r, w =>
    match (perform b o at_ w.values c).run.run w.page with
    | (.error f, page) => (([], some f), { w with page })
    | (.ok found, page) =>
      let ((rest, failure), w) := performAll b o at_ r ⟨page, found.update w.values⟩
      ((found :: rest, failure), w)

/-- Carries out a step. -/
def performStep (b : Backend σ) (o : Options) (tagger : Sentence.Tagger) (at_ : Place)
    (s : Suite.Step) (w : World σ) : Findings × World σ :=
  match s with
  | .navigation url title =>
    match (navigate b o at_ url title).run.run w.page with
    | (.ok findings, page) => ({ findings }, { w with page })
    | (.error f, page) => ({ failure := some f }, { w with page })
  | s =>
    match s.commands tagger with
    | .error f => ({ failure := some (.sentence f) }, w)
    | .ok commands =>
      let ((findings, failure), w) := performAll b o at_ commands w
      ({ commands := commands.length, findings, failure }, w)

namespace Findings

def report (fs : Findings) (index : Nat) (text : Text) : StepReport :=
  { index, text, commands := fs.commands
    assertionsPassed := fs.findings.countP Finding.isHeld
    failures := fs.findings.filterMap Finding.failure?
    error := fs.failure.map Failure.message }

/-- The events of a step behind the first, in order. -/
def events (fs : Findings) (case : Text) (step : Nat) : List Event :=
  fs.findings.filterMap (Finding.event? case step) ++
    (fs.failure.map fun f => .stepError case step f.message).toList

end Findings

end PlainSteps.Run
