import PlainSteps.Run.Perform

/-!
# Runs

A run takes the cases of a suite in order, and the steps of a case in order. Variables outlive
their case. A step that fails does not keep later ones from running, unless the options say so; a
call for the end of the run does, and so is looked for before every step. `run` goes on behind a
step that comes upon an overflow; what the program has to show for itself then is in `finish?`.
-/

namespace PlainSteps

/-- What a run needs besides a suite and a page. -/
structure Runner (σ : Type) where
  backend : Backend σ
  options : Run.Options := {}
  tagger : Sentence.Tagger := .standard
  /-- What is done behind every case. -/
  reset : Option (Session σ Unit) := none
  /-- The variables at the start. -/
  globals : Variables := {}
  /-- The number of events at which the run is called to its end. Once raised, the call stays, and
  between two looks at it there is always an event, so the number says all there is to say. -/
  cancelAfter : Option Nat := none

namespace Run

variable {σ : Type}

/-- How far a run has come. -/
structure Progress (σ : Type) where
  world : World σ
  /-- The events so far, the latest first. -/
  log : List Event := []
  /-- A step has come upon an overflow. The program ends there, so that nothing behind it counts. -/
  overflowed : Bool := false

namespace Progress

def record (p : Progress σ) (e : Event) : Progress σ := { p with log := e :: p.log }

def recordAll (p : Progress σ) (es : List Event) : Progress σ :=
  { p with log := es.reverse ++ p.log }

/-- The events so far, in order. -/
def events (p : Progress σ) : List Event := p.log.reverse

end Progress

end Run

namespace Runner

open Run

variable {σ : Type} [Regex.Engine]

/-- The run is called to its end. -/
def isCancelled (r : Runner σ) (p : Progress σ) : Bool := r.cancelAfter.any (· ≤ p.log.length)

/-- Runs one step. -/
def runStep (r : Runner σ) (s : Suite) (c : Suite.Case) (index : Nat) (step : Suite.Step)
    (p : Progress σ) : StepReport × Progress σ :=
  let at_ : Place := ⟨c.name, index, s.selectorMode c step, s.sliderKind c step⟩
  let p := p.record (.stepStarted c.name index step.describe)
  let (found, world) := performStep r.backend r.options r.tagger at_ step p.world
  let p := { p with world, overflowed := p.overflowed || found.overflows }
  (found.report index step.describe, p.recordAll (found.events c.name index))

def skip (index : Nat) (step : Suite.Step) : StepReport :=
  { index, text := step.describe, skipped := true }

/-- Runs steps from an index on; `stop` says that they are all skipped. The second component says
that steps were skipped or would be if there were more. -/
def runSteps (r : Runner σ) (s : Suite) (c : Suite.Case) :
    (stop : Bool) → (index : Nat) → List Suite.Step → Progress σ →
      (List StepReport × Bool) × Progress σ
  | stop, _, [], p => (([], stop), p)
  | true, index, step :: rest, p =>
    let ((reports, stop), p) := runSteps r s c true (index + 1) rest p
    ((skip index step :: reports, stop), p)
  | false, index, step :: rest, p =>
    if r.isCancelled p then
      let ((reports, stop), p) :=
        runSteps r s c true (index + 1) rest (p.record (.runCancelled c.name))
      ((skip index step :: reports, stop), p)
    else
      let (report, p) := r.runStep s c index step p
      let ((reports, stop), p) :=
        runSteps r s c (!report.passed && r.options.failFast) (index + 1) rest p
      ((report :: reports, stop), p)

/-- Resets the page behind a case; the answer is why that failed. -/
def resetPage (r : Runner σ) (p : Progress σ) : Option Text × Progress σ :=
  match r.reset with
  | none => (none, p)
  | some hook =>
    let (result, page) := hook.run.run p.world.page
    let p := { p with world := { p.world with page } }
    match result with
    | .ok _ => (none, p)
    | .error f => (some f.message, p)

/-- Runs one case; the second component says that the run has been called to its end. -/
def runCase (r : Runner σ) (s : Suite) (c : Suite.Case) (p : Progress σ) :
    (CaseReport × Bool) × Progress σ :=
  let ((steps, stop), p) := r.runSteps s c false 0 c.steps (p.record (.caseStarted c.name))
  let (resetError, p) := r.resetPage p
  let report : CaseReport := { name := c.name, steps, resetError }
  let p := p.record (.caseFinished c.name report.passed)
  ((report, stop && r.isCancelled p), p)

/-- Runs cases up to one at which the run ends. -/
def runCases (r : Runner σ) (s : Suite) : List Suite.Case → Progress σ → Report × Progress σ
  | [], p => ({}, p)
  | c :: rest, p =>
    let ((report, cancelled), p) := r.runCase s c p
    if cancelled then ({ cases := [report], cancelled }, p)
    else if !report.passed && r.options.failFast then ({ cases := [report] }, p)
    else
      let (reports, p) := runCases r s rest p
      ({ reports with cases := report :: reports.cases }, p)

/-- Runs a suite on a page. -/
def run (r : Runner σ) (s : Suite) (page : σ) : Report × Progress σ :=
  r.runCases s s.cases { world := ⟨page, r.globals⟩ }

/-- What is left of a run when the program ends, which is nothing if that was at an overflow. -/
def finish? (r : Runner σ) (s : Suite) (page : σ) : Option (Report × Progress σ) :=
  let (report, p) := r.run s page
  if p.overflowed then none else some (report, p)

end Runner

end PlainSteps
