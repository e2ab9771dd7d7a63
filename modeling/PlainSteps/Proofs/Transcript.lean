import PlainSteps.Proofs.Course

/-!
# Transcripts

The events of a run are bracketed by cases and steps, and say of each step what its report says
(`StepReport.Told`, `CaseReport.Told`). The main statement is `run_told`: every run leaves such a
transcript, in which no step starts behind a call for the end of the run.
-/

namespace PlainSteps

open Run

variable {σ : Type}

/-! ## Events -/

namespace Event

def isRunCancelled : Event → Bool
  | runCancelled _ => true
  | _ => false

def isStepStarted : Event → Bool
  | stepStarted .. => true
  | _ => false

/-- The assertion that an event refutes. -/
def failure? : Event → Option AssertionFailure
  | assertionFailed case step command expected actual =>
    some ⟨case, step, command, expected, actual⟩
  | _ => none

/-- The event tells of a command, or of a title, in a step of a case. -/
def IsWithin (case : Text) (step : Nat) : Event → Prop
  | actionPerformed .. | variableStored .. => True
  | assertionPassed c i _ => c = case ∧ i = step
  | assertionFailed c i .. => c = case ∧ i = step
  | _ => False

/-- The event belongs to the step that has started last. -/
def isInner : Event → Bool
  | actionPerformed .. | variableStored .. | assertionPassed .. | assertionFailed .. => true
  | stepError .. => true
  | _ => false

/-- Behind a call for the end of the run there is no other, and no step starts. -/
def Precedes (d e : Event) : Prop :=
  d.isRunCancelled → e.isRunCancelled = false ∧ e.isStepStarted = false

theorem pairwise_append {ds es : List Event} (hds : ∀ d ∈ ds, d.isRunCancelled = false)
    (hes : es.Pairwise Precedes) : (ds ++ es).Pairwise Precedes := by
  induction ds with
  | nil => exact hes
  | cons d ds ih =>
      obtain ⟨hd, hds⟩ := List.forall_mem_cons.mp hds
      refine List.pairwise_cons.mpr ⟨fun e _ hcancelled => ?_, ih hds⟩
      rw [hd] at hcancelled
      exact nomatch hcancelled

theorem IsWithin.isInner {case : Text} {step : Nat} {e : Event} (h : e.IsWithin case step) :
    e.isInner := by
  cases e with
  | caseStarted | caseFinished | stepStarted | stepError | runCancelled => exact h.elim
  | _ => rfl

theorem isRunCancelled_of_isInner {e : Event} (h : e.isInner) : e.isRunCancelled = false := by
  cases e with
  | runCancelled => exact nomatch h
  | _ => rfl

end Event

namespace Run

/-- The events of an executed step with the report `t`: the start of the step, what its commands
have done, and at last the error that has ended it, if there is one. -/
def StepReport.Told (case : Text) (t : StepReport) (events : List Event) : Prop :=
  ∃ body, (∀ e ∈ body, e.IsWithin case t.index) ∧ body.filterMap Event.failure? = t.failures ∧
    events = .stepStarted case t.index t.text ::
      (body ++ (t.error.map (.stepError case t.index)).toList)

/-- The events of a case: between its start and its end those of the executed steps, in order of
their indices, and of a call for the end of the run, if it was heard there. -/
def CaseReport.Told (report : CaseReport) (cancelled : Bool) (events : List Event) : Prop :=
  let executed := report.steps.filter (!·.skipped)
  executed.map (·.index) = List.range executed.length ∧
    ∃ blocks, List.Forall₂ (StepReport.Told report.name) executed blocks ∧
      events = .caseStarted report.name :: (blocks.flatten ++
        ((if cancelled then [.runCancelled report.name] else []) ++
          [.caseFinished report.name report.passed]))

theorem StepReport.Told.eq_or_isInner {case : Text} {t : StepReport} {events : List Event}
    (h : t.Told case events) :
    ∀ e ∈ events, e = .stepStarted case t.index t.text ∨ e.isInner := by
  obtain ⟨body, hbody, -, rfl⟩ := h
  refine List.forall_mem_cons.mpr ⟨.inl rfl, List.forall_mem_append.mpr ⟨?_, ?_⟩⟩
  · exact fun e he => .inr (hbody e he).isInner
  · cases t.error with
    | none => exact nofun
    | some message => exact List.forall_mem_singleton.mpr (.inr rfl)

theorem StepReport.Told.isRunCancelled {case : Text} {t : StepReport} {events : List Event}
    (h : t.Told case events) : ∀ e ∈ events, e.isRunCancelled = false := by
  intro e he
  obtain rfl | hinner := h.eq_or_isInner e he
  · rfl
  · exact Event.isRunCancelled_of_isInner hinner

theorem forall_mem_flatten_of_told {P : Event → Prop} {case : Text} {ts : List StepReport}
    {blocks : List (List Event)} (h : List.Forall₂ (StepReport.Told case) ts blocks)
    (hP : ∀ t ∈ ts, ∀ events, t.Told case events → ∀ e ∈ events, P e) :
    ∀ e ∈ blocks.flatten, P e := by
  induction h with
  | nil => exact nofun
  | cons htold _ ih =>
      obtain ⟨hhead, htail⟩ := List.forall_mem_cons.mp hP
      exact List.forall_mem_append.mpr ⟨hhead _ htold, ih htail⟩

theorem CaseReport.Told.isRunCancelled {report : CaseReport} {events : List Event}
    (h : report.Told false events) : ∀ e ∈ events, e.isRunCancelled = false := by
  obtain ⟨-, blocks, hblocks, rfl⟩ := h
  refine List.forall_mem_cons.mpr ⟨rfl, List.forall_mem_append.mpr ⟨?_, ?_⟩⟩
  · exact forall_mem_flatten_of_told hblocks fun _ _ _ h => h.isRunCancelled
  · exact List.forall_mem_singleton.mpr rfl

theorem CaseReport.Told.pairwise {report : CaseReport} {cancelled : Bool} {events : List Event}
    (h : report.Told cancelled events) : events.Pairwise Event.Precedes := by
  obtain ⟨-, blocks, hblocks, rfl⟩ := h
  rw [← List.cons_append]
  refine Event.pairwise_append ?_ ?_
  · refine List.forall_mem_cons.mpr ⟨rfl, ?_⟩
    exact forall_mem_flatten_of_told hblocks fun _ _ _ h => h.isRunCancelled
  · cases cancelled with
    | false => exact List.pairwise_singleton _ _
    | true => exact List.pairwise_pair.mpr fun _ => ⟨rfl, rfl⟩

theorem Finding.isWithin_of_event? {at_ : Place} {found : Finding} (h : found.IsAt at_) {e : Event}
    (he : found.event? at_.case at_.step = some e) : e.IsWithin at_.case at_.step := by
  cases found with
  | titleHeld => exact nomatch he
  | refuted f => exact Option.some.inj he ▸ h
  | performed | stored => exact Option.some.inj he ▸ trivial
  | held => exact Option.some.inj he ▸ ⟨rfl, rfl⟩

theorem Finding.failure?_bind_event? (case : Text) (step : Nat) (found : Finding) :
    (found.event? case step).bind Event.failure? = found.failure? := by
  cases found <;> rfl

theorem Findings.told (at_ : Place) {fs : Findings} (h : ∀ found ∈ fs.findings, found.IsAt at_)
    (text : Text) : (fs.report at_.step text).Told at_.case
      (.stepStarted at_.case at_.step text :: fs.events at_.case at_.step) := by
  refine ⟨fs.findings.filterMap (Finding.event? at_.case at_.step), ?_, ?_, ?_⟩
  · intro e he
    obtain ⟨found, hfound, he⟩ := List.mem_filterMap.mp he
    exact Finding.isWithin_of_event? (h found hfound) he
  · rw [List.filterMap_filterMap]
    exact List.filterMap_congr fun found _ => Finding.failure?_bind_event? _ _ found
  · cases hfailure : fs.failure <;> simp [Findings.events, Findings.report, hfailure]

/-! ## Progress -/

namespace Progress

variable (p : Progress σ)

theorem events_record (e : Event) : (p.record e).events = p.events ++ [e] := by
  simp [events, record]

theorem events_recordAll (es : List Event) : (p.recordAll es).events = p.events ++ es := by
  simp [events, recordAll]

end Progress

end Run

namespace Runner

variable [Regex.Engine] (r : Runner σ) (s : Suite)

/-- Where a step of a suite stands. -/
def place (c : Suite.Case) (index : Nat) (step : Suite.Step) : Place :=
  ⟨c.name, index, s.selectorMode c step, s.sliderKind c step⟩

/-- What a step finds, and the world behind it. -/
def outcome (c : Suite.Case) (index : Nat) (step : Suite.Step) (w : World σ) :
    Findings × World σ :=
  performStep r.backend r.options r.tagger (place s c index step) step w

theorem runStep_eq (c : Suite.Case) (index : Nat) (step : Suite.Step) (p : Progress σ) :
    r.runStep s c index step p =
      ((r.outcome s c index step p.world).1.report index step.describe,
        { p.record (.stepStarted c.name index step.describe) with
          world := (r.outcome s c index step p.world).2
          overflowed := p.overflowed || (r.outcome s c index step p.world).1.overflows }.recordAll
            ((r.outcome s c index step p.world).1.events c.name index)) :=
  rfl

theorem events_runStep (c : Suite.Case) (index : Nat) (step : Suite.Step) (p : Progress σ) :
    (r.runStep s c index step p).2.events = p.events ++ .stepStarted c.name index step.describe ::
      (r.outcome s c index step p.world).1.events c.name index := by
  rw [runStep_eq, Progress.events_recordAll]
  simp [Progress.events, Progress.record]

theorem told_outcome (c : Suite.Case) (index : Nat) (step : Suite.Step) (w : World σ)
    (text : Text) : ((r.outcome s c index step w).1.report index text).Told c.name
      (.stepStarted c.name index text :: (r.outcome s c index step w).1.events c.name index) :=
  Findings.told (place s c index step) isAt_performStep text

theorem execute_told (c : Suite.Case) (index : Nat) (steps : List Suite.Step) (p : Progress σ) :
    ∃ blocks, List.Forall₂ (StepReport.Told c.name) (r.execute s c index steps p).1 blocks ∧
      (r.execute s c index steps p).2.events = p.events ++ blocks.flatten := by
  induction steps generalizing index p with
  | nil => exact ⟨[], .nil, (List.append_nil _).symm⟩
  | cons step rest ih =>
      obtain ⟨blocks, htold, hevents⟩ := ih (index + 1) (r.runStep s c index step p).2
      refine ⟨_ :: blocks, .cons (r.told_outcome s c index step p.world step.describe) htold, ?_⟩
      refine hevents.trans ?_
      rw [events_runStep, List.flatten_cons, List.append_assoc]

omit [Regex.Engine] in
theorem events_resetPage (p : Progress σ) : (r.resetPage p).2.events = p.events :=
  congrArg List.reverse (r.log_resetPage p)

/-- The events of a case agree with its report, and the run goes on only if they tell of no call
for its end. -/
theorem runCase_told (c : Suite.Case) (p : Progress σ) :
    ∃ cancelled events, (r.runCase s c p).1.1.Told cancelled events ∧
      (r.runCase s c p).2.events = p.events ++ events ∧
      (r.GoesOn (r.runCase s c p).1 → cancelled = false) := by
  obtain ⟨done, rest, stop, q, h⟩ := r.exists_course s c p
  obtain ⟨blocks, htold, hevents⟩ := r.execute_told s c 0 done (p.record (.caseStarted c.name))
  have hname : (r.runCase s c p).1.1.name = c.name := by rw [h.report]
  -- What the end of the steps adds to their events.
  obtain ⟨cancelled, hq, hgo⟩ : ∃ cancelled : Bool,
      q.events = (r.enter s c done p).2.events ++
        (if cancelled then [.runCancelled c.name] else []) ∧
      (stop = false → cancelled = false) := by
    cases h.ending with
    | finished => exact ⟨false, (List.append_nil _).symm, fun _ => rfl⟩
    | failed => exact ⟨false, (List.append_nil _).symm, fun _ => rfl⟩
    | cancelled => exact ⟨true, Progress.events_record _ _, nofun⟩
  refine ⟨cancelled, _, ⟨?_, blocks, ?_, rfl⟩, ?_, fun h' => hgo (h.stop_of_goesOn h')⟩
  · rw [h.filter_steps, indices_enter, enter, length_execute]
  · rw [h.filter_steps, hname]
    exact htold
  · rw [h.progress, Progress.events_record, events_resetPage, hq, enter, hevents,
      Progress.events_record, hname]
    simp

theorem executeCases_told (cases : List Suite.Case) (p : Progress σ) :
    ∃ blocks, List.Forall₂ (fun o es => ∃ cancelled, o.1.Told cancelled es ∧
        (r.GoesOn o → cancelled = false)) (r.executeCases s cases p).1 blocks ∧
      (r.executeCases s cases p).2.events = p.events ++ blocks.flatten := by
  induction cases generalizing p with
  | nil => exact ⟨[], .nil, (List.append_nil _).symm⟩
  | cons c rest ih =>
      obtain ⟨cancelled, events, htold, hevents, hgo⟩ := r.runCase_told s c p
      obtain ⟨blocks, hrest, hall⟩ := ih (r.runCase s c p).2
      refine ⟨events :: blocks, .cons ⟨cancelled, htold, hgo⟩ hrest, ?_⟩
      refine hall.trans ?_
      rw [hevents, List.flatten_cons, List.append_assoc]

omit [Regex.Engine] in
/-- Only the last case of a run can tell of a call for its end. -/
theorem pairwise_flatten {os : List (CaseReport × Bool)} {blocks : List (List Event)}
    (h : List.Forall₂ (fun o es => ∃ cancelled, o.1.Told cancelled es ∧
      (r.GoesOn o → cancelled = false)) os blocks) (hgo : ∀ o ∈ os.dropLast, r.GoesOn o) :
    blocks.flatten.Pairwise Event.Precedes := by
  induction h with
  | nil => exact .nil
  | @cons o es os blocks htold hrest ih =>
      obtain ⟨cancelled, htold, hcancelled⟩ := htold
      -- The last block alone may tell of a call: behind every other one the run has gone on.
      cases hrest with
      | nil => simpa using htold.pairwise
      | cons =>
          obtain ⟨ho, hgo⟩ := List.forall_mem_cons.mp hgo
          rw [hcancelled ho] at htold
          exact Event.pairwise_append htold.isRunCancelled (ih hgo)

/-- The transcript of a run agrees with its report: it tells of the reported cases in order, each
between its start and its end, and of the executed steps of each, and behind a call for the end of
the run no step starts. -/
theorem run_told (page : σ) :
    let (report, p) := r.run s page
    (∃ blocks, List.Forall₂ (fun c es => ∃ cancelled, c.Told cancelled es) report.cases blocks ∧
      p.events = blocks.flatten) ∧ p.events.Pairwise Event.Precedes := by
  obtain ⟨done, rest, -, hend, hrun⟩ := r.runCases_eq s s.cases (r.start page)
  obtain ⟨blocks, htold, hevents⟩ := r.executeCases_told s done (r.start page)
  have hrun' : r.run s page = _ := hrun
  rw [hrun']
  refine ⟨⟨blocks, ?_, hevents⟩, ?_⟩
  · rw [List.forall₂_map_left_iff]
    exact htold.imp fun o es ⟨cancelled, h, _⟩ => ⟨cancelled, h⟩
  · rw [hevents]
    exact r.pairwise_flatten htold hend.goesOn_of_mem_dropLast

end Runner

end PlainSteps
