import PlainSteps.Proofs.Transcript

/-!
# Executed steps

A step that a run has executed stands at a position of its case, and its case at a position of the
suite. `Runner.progressAt` is the progress with which the run comes to it, and `Event.ofStep` reads
its events off the transcript. The main statement is `Executed.eq_outcome`: report, events and
world are those of the step alone, begun in the world that all before it has left.
-/

namespace PlainSteps

open Run

variable {σ : Type}

/-! ## The events of a step -/

namespace Event

def isCaseStarted : Event → Bool
  | caseStarted _ => true
  | _ => false

def startsStep (index : Nat) : Event → Bool
  | stepStarted _ i _ => i == index
  | _ => false

/-- The events behind the start of the case at a position. -/
def behindCase : Nat → List Event → List Event
  | _, [] => []
  | i, e :: es =>
    if e.isCaseStarted then
      match i with
      | 0 => es
      | i + 1 => behindCase i es
    else behindCase i es

/-- The events of the step at `j` in the case at `i`, behind its start. -/
def ofStep (i j : Nat) (es : List Event) : List Event :=
  (((behindCase i es).dropWhile (!·.startsStep j)).drop 1).takeWhile isInner

theorem isCaseStarted_of_isInner {e : Event} (h : e.isInner) : e.isCaseStarted = false := by
  cases e with
  | caseStarted => exact nomatch h
  | _ => rfl

theorem startsStep_of_isInner {e : Event} (h : e.isInner) (index : Nat) :
    e.startsStep index = false := by
  cases e with
  | stepStarted => exact nomatch h
  | _ => rfl

theorem behindCase_append (es post : List Event) (case : Text) :
    behindCase (es.countP isCaseStarted) (es ++ .caseStarted case :: post) = post := by
  induction es with
  | nil => rfl
  | cons e es ih =>
      cases he : e.isCaseStarted with
      | true => simp [behindCase, he, ih]
      | false => simp [behindCase, he, ih]

theorem ofStep_append {pre mid body post : List Event} {case text : Text} {j : Nat}
    (hmid : ∀ e ∈ mid, e.startsStep j = false) (hbody : ∀ e ∈ body, e.isInner)
    (hpost : ∀ e ∈ post.head?, e.isInner = false) :
    ofStep (pre.countP isCaseStarted) j
      (pre ++ .caseStarted case :: (mid ++ .stepStarted case j text :: (body ++ post))) = body := by
  have hstart : startsStep j (.stepStarted case j text) = true := beq_self_eq_true j
  have htail : post.takeWhile isInner = [] := by
    cases post with
    | nil => rfl
    | cons e post => simp [hpost e rfl]
  rw [ofStep, behindCase_append, List.dropWhile_append_of_pos (by simpa using hmid),
    List.dropWhile_cons_of_neg (by simp [hstart]), List.drop_one, List.tail_cons,
    List.takeWhile_append_of_pos hbody, htail, List.append_nil]

end Event

namespace Run

theorem StepReport.Told.isCaseStarted {case : Text} {t : StepReport} {events : List Event}
    (h : t.Told case events) : ∀ e ∈ events, e.isCaseStarted = false := by
  intro e he
  obtain rfl | hinner := h.eq_or_isInner e he
  · rfl
  · exact Event.isCaseStarted_of_isInner hinner

theorem StepReport.Told.startsStep {case : Text} {t : StepReport} {events : List Event}
    (h : t.Told case events) {j : Nat} (hj : t.index ≠ j) :
    ∀ e ∈ events, e.startsStep j = false := by
  intro e he
  obtain rfl | hinner := h.eq_or_isInner e he
  · exact beq_false_of_ne hj
  · exact Event.startsStep_of_isInner hinner j

theorem CaseReport.Told.countP_isCaseStarted {report : CaseReport} {cancelled : Bool}
    {events : List Event} (h : report.Told cancelled events) :
    events.countP Event.isCaseStarted = 1 := by
  obtain ⟨-, blocks, hblocks, rfl⟩ := h
  have hzero : blocks.flatten.countP Event.isCaseStarted = 0 := by
    rw [List.countP_eq_zero]
    intro e he
    rw [forall_mem_flatten_of_told hblocks (fun t _ _ h => h.isCaseStarted) e he]
    exact nofun
  rw [List.countP_cons, List.countP_append, hzero]
  cases cancelled <;> rfl

theorem Findings.isInner_of_mem_events (fs : Findings) (case : Text) (step : Nat) :
    ∀ e ∈ fs.events case step, e.isInner := by
  refine List.forall_mem_append.mpr ⟨fun e he => ?_, ?_⟩
  · obtain ⟨found, -, he⟩ := List.mem_filterMap.mp he
    cases found with
    | titleHeld => exact nomatch he
    | _ => exact Option.some.inj he ▸ rfl
  · cases fs.failure with
    | none => exact nofun
    | some f => exact List.forall_mem_singleton.mpr rfl

end Run

/-- The progress `q` goes on from `p` with an event that belongs to no earlier step. -/
def Run.Progress.Follows (p q : Progress σ) : Prop :=
  ∃ es, q.events = p.events ++ es ∧ ∀ e ∈ es.head?, e.isInner = false

namespace Run.Progress.Follows

variable {p q u : Progress σ}

theorem of_events (h : q.events = p.events) : p.Follows q := ⟨[], by rw [h, List.append_nil], nofun⟩

theorem record {e : Event} (h : e.isInner = false) (p : Progress σ) : p.Follows (p.record e) :=
  ⟨[e], events_record p e, fun _ hd => Option.some.inj hd ▸ h⟩

theorem trans (h : p.Follows q) (h' : q.Follows u) : p.Follows u := by
  obtain ⟨es, hes, hhead⟩ := h
  obtain ⟨fs, hfs, hhead'⟩ := h'
  refine ⟨es ++ fs, by rw [hfs, hes, List.append_assoc], ?_⟩
  cases es with
  | nil => exact hhead'
  | cons e es => exact hhead

theorem isPrefix (h : p.Follows q) : p.events <+: q.events := by
  obtain ⟨es, hes, -⟩ := h
  exact ⟨es, hes.symm⟩

end Run.Progress.Follows

namespace Runner

variable [Regex.Engine] {r : Runner σ} {s : Suite}

theorem follows_execute (c : Suite.Case) (index : Nat) (steps : List Suite.Step)
    (p : Progress σ) : p.Follows (r.execute s c index steps p).2 := by
  induction steps generalizing index p with
  | nil => exact .of_events rfl
  | cons step rest ih =>
      have hstep : p.Follows (r.runStep s c index step p).2 :=
        ⟨_, r.events_runStep s c index step p, fun _ hd => Option.some.inj hd ▸ rfl⟩
      exact hstep.trans (ih (index + 1) _)

theorem Course.follows_ending {c : Suite.Case} {p q : Progress σ} {done rest : List Suite.Step}
    {stop : Bool} (h : r.Course s c p done rest stop q) : q.Follows (r.runCase s c p).2 := by
  rw [h.progress]
  exact (Progress.Follows.of_events (r.events_resetPage q)).trans (.record rfl _)

theorem Course.follows {c : Suite.Case} {p q : Progress σ} {done rest : List Suite.Step}
    {stop : Bool} (h : r.Course s c p done rest stop q) :
    (r.enter s c done p).2.Follows (r.runCase s c p).2 := by
  have hq : (r.enter s c done p).2.Follows q := by
    cases h.ending with
    | finished => exact .of_events rfl
    | failed => exact .of_events rfl
    | cancelled => exact .record rfl _
  exact hq.trans h.follows_ending

theorem follows_runCase (c : Suite.Case) (p : Progress σ) : p.Follows (r.runCase s c p).2 := by
  obtain ⟨done, rest, stop, q, h⟩ := r.exists_course s c p
  exact (Progress.Follows.record rfl p).trans ((follows_execute c 0 done _).trans h.follows)

theorem follows_executeCases (cases : List Suite.Case) (p : Progress σ) :
    p.Follows (r.executeCases s cases p).2 := by
  induction cases generalizing p with
  | nil => exact .of_events rfl
  | cons c rest ih => exact (follows_runCase c p).trans (ih _)

/-! ## Positions -/

theorem execute_append (c : Suite.Case) (index : Nat) (steps rest : List Suite.Step)
    (p : Progress σ) :
    r.execute s c index (steps ++ rest) p =
      ((r.execute s c index steps p).1 ++
          (r.execute s c (index + steps.length) rest (r.execute s c index steps p).2).1,
        (r.execute s c (index + steps.length) rest (r.execute s c index steps p).2).2) := by
  induction steps generalizing index p with
  | nil => rfl
  | cons step steps ih =>
      simp only [List.cons_append, execute, ih, List.length_cons]
      rw [Nat.add_assoc, Nat.add_comm 1 steps.length]

theorem executeCases_append (cases rest : List Suite.Case) (p : Progress σ) :
    r.executeCases s (cases ++ rest) p =
      ((r.executeCases s cases p).1 ++
          (r.executeCases s rest (r.executeCases s cases p).2).1,
        (r.executeCases s rest (r.executeCases s cases p).2).2) := by
  induction cases generalizing p with
  | nil => rfl
  | cons c cases ih => simp only [List.cons_append, executeCases, ih]

theorem countP_executeCases (cases : List Suite.Case) (p : Progress σ) :
    (r.executeCases s cases p).2.events.countP Event.isCaseStarted =
      p.events.countP Event.isCaseStarted + cases.length := by
  induction cases generalizing p with
  | nil => rfl
  | cons c rest ih =>
      obtain ⟨cancelled, events, htold, hevents, -⟩ := r.runCase_told s c p
      refine (ih (r.runCase s c p).2).trans ?_
      rw [hevents, List.countP_append, htold.countP_isCaseStarted, List.length_cons]
      omega

/-- The step at a position is run with the progress that the steps before it leave. -/
theorem execute_at {c : Suite.Case} (index : Nat) {j : Nat} {steps : List Suite.Step}
    {step : Suite.Step} (h : steps[j]? = some step) (p : Progress σ) :
    let head := r.runStep s c (index + j) step (r.execute s c index (steps.take j) p).2
    (r.execute s c index steps p).1[j]? = some head.1 ∧
      (r.execute s c index (steps.take (j + 1)) p).2 = head.2 ∧
      head.2.Follows (r.execute s c index steps p).2 := by
  obtain ⟨hj, rfl⟩ := List.getElem?_eq_some_iff.mp h
  have hlength : (steps.take j).length = j := List.length_take_of_le (Nat.le_of_lt hj)
  have hsplit : steps = steps.take j ++ steps[j] :: steps.drop (j + 1) := by
    rw [← List.drop_eq_getElem_cons hj, List.take_append_drop]
  refine ⟨?_, ?_, ?_⟩
  · rw [congrArg (r.execute s c index · p) hsplit, execute_append, hlength,
      List.getElem?_append_right (Nat.le_of_eq (by rw [length_execute, hlength]))]
    simp [length_execute, hlength, execute]
  · rw [List.take_succ_eq_append_getElem hj, execute_append, hlength]
    rfl
  · rw [congrArg (r.execute s c index · p) hsplit, execute_append, hlength]
    exact follows_execute c _ _ _

/-- The case at a position is run with the progress that the cases before it leave. -/
theorem executeCases_at {cases : List Suite.Case} {c : Suite.Case} {i : Nat}
    (h : cases[i]? = some c) (p : Progress σ) :
    let head := r.runCase s c (r.executeCases s (cases.take i) p).2
    (r.executeCases s cases p).1[i]? = some head.1 ∧
      head.2.Follows (r.executeCases s cases p).2 := by
  obtain ⟨hi, rfl⟩ := List.getElem?_eq_some_iff.mp h
  have hlength : (r.executeCases s (cases.take i) p).1.length = i := by
    have h := (r.covers_executeCases s (cases.take i) p).length_eq
    rwa [List.length_map, List.length_take_of_le (Nat.le_of_lt hi)] at h
  have hsplit : cases = cases.take i ++ cases[i] :: cases.drop (i + 1) := by
    rw [← List.drop_eq_getElem_cons hi, List.take_append_drop]
  constructor
  · rw [congrArg (r.executeCases s · p) hsplit, executeCases_append,
      List.getElem?_append_right (Nat.le_of_eq hlength)]
    simp [hlength, executeCases]
  · rw [congrArg (r.executeCases s · p) hsplit, executeCases_append]
    exact follows_executeCases _ _

/-- A step that a case reports and does not skip is one that it executes. -/
theorem Course.getElem?_enter {c : Suite.Case} {p q : Progress σ} {done rest : List Suite.Step}
    {stop : Bool} (h : r.Course s c p done rest stop q) {j : Nat} {t : StepReport}
    (ht : (r.runCase s c p).1.1.steps[j]? = some t) (hrun : t.skipped = false) :
    (r.enter s c done p).1[j]? = some t := by
  rw [h.report, List.getElem?_append] at ht
  split at ht
  · exact ht
  · rw [skipped_of_mem_skipAll t (List.mem_of_getElem? ht)] at hrun
    exact nomatch hrun

theorem Course.take_steps {c : Suite.Case} {p q : Progress σ} {done rest : List Suite.Step}
    {stop : Bool} (h : r.Course s c p done rest stop q) {k : Nat} (hk : k ≤ done.length) :
    c.steps.take k = done.take k := by
  rw [h.steps, List.take_append_of_le_length hk]

theorem Course.follows_take {c : Suite.Case} {p q : Progress σ} {done rest : List Suite.Step}
    {stop : Bool} (h : r.Course s c p done rest stop q) {k : Nat} (hk : k ≤ done.length) :
    (r.enter s c (c.steps.take k) p).2.Follows (r.enter s c done p).2 := by
  have hdone : done = done.take k ++ done.drop k := (List.take_append_drop k done).symm
  rw [h.take_steps hk, congrArg (r.enter s c · p) hdone, enter, enter, execute_append]
  exact follows_execute c _ _ _

/-- A run executes the cases that it reports. -/
theorem run_eq_executeCases (r : Runner σ) (s : Suite) (page : σ) :
    let done := s.cases.take (r.run s page).1.cases.length
    done.length = (r.run s page).1.cases.length ∧
      (r.run s page).1.cases = (r.executeCases s done (r.start page)).1.map (·.1) ∧
      (r.run s page).2 = (r.executeCases s done (r.start page)).2 := by
  obtain ⟨done, rest, hsplit, -, hrun⟩ := r.runCases_eq s s.cases (r.start page)
  have hrun' : r.run s page = _ := hrun
  have hlength : (r.run s page).1.cases.length = done.length := by
    rw [hrun']
    exact (r.covers_executeCases s done (r.start page)).length_eq
  rw [hlength, hsplit, List.take_left, hrun']
  exact ⟨rfl, rfl, rfl⟩

/-- A run goes on from the cases that it reports. -/
theorem follows_run {page : σ} {i : Nat} (hi : i ≤ (r.run s page).1.cases.length) :
    (r.executeCases s (s.cases.take i) (r.start page)).2.Follows (r.run s page).2 := by
  obtain ⟨-, -, hrun⟩ := run_eq_executeCases r s page
  rw [hrun]
  generalize (r.run s page).1.cases.length = n at hi
  obtain ⟨m, rfl⟩ := Nat.exists_eq_add_of_le hi
  rw [List.take_add, executeCases_append]
  exact follows_executeCases _ _

/-- A case that a run reports is run with what the cases before it leave. -/
theorem runCase_of_report {page : σ} {i : Nat} {c : Suite.Case} {report : CaseReport}
    (hc : s.cases[i]? = some c) (hreport : (r.run s page).1.cases[i]? = some report) :
    let head := r.runCase s c (r.executeCases s (s.cases.take i) (r.start page)).2
    head.1.1 = report ∧ head.2.Follows (r.run s page).2 := by
  obtain ⟨hlength, hcases, hrun⟩ := run_eq_executeCases r s page
  have hi := (List.getElem?_eq_some_iff.mp hreport).1
  generalize (r.run s page).1.cases.length = n at *
  rw [hcases, List.getElem?_map] at hreport
  obtain ⟨o, ho, rfl⟩ := Option.map_eq_some_iff.mp hreport
  have hc' : (s.cases.take n)[i]? = some c := by rw [List.getElem?_take_of_lt hi, hc]
  obtain ⟨houtcome, hfollows⟩ := executeCases_at (r := r) (s := s) hc' (r.start page)
  rw [List.take_take, Nat.min_eq_left (Nat.le_of_lt hi)] at houtcome hfollows
  rw [hrun]
  exact ⟨congrArg Prod.fst (Option.some.inj (houtcome.symm.trans ho)), hfollows⟩

variable (r s)

/-- The progress behind the first `j` steps of the case `c` at `i`. -/
def progressAt (page : σ) (i : Nat) (c : Suite.Case) (j : Nat) : Progress σ :=
  (r.enter s c (c.steps.take j) (r.executeCases s (s.cases.take i) (r.start page)).2).2

/-- The run on a page has executed `step`, which stands at `j` in the case `c` at `i`, and reports
`t` of it. -/
structure Executed (page : σ) (i : Nat) (c : Suite.Case) (j : Nat) (step : Suite.Step)
    (t : StepReport) : Prop where
  case : s.cases[i]? = some c
  step : c.steps[j]? = some step
  report : (r.run s page).1.cases[i]?.bind (·.steps[j]?) = some t
  executed : t.skipped = false

namespace Executed

variable {r s} {page : σ} {i j : Nat} {c : Suite.Case} {step : Suite.Step} {t : StepReport}
variable (h : r.Executed s page i c j step t)
include h

/-- An executed step is run with what all before it leaves. -/
theorem eq_runStep :
    let head := r.runStep s c j step (r.progressAt s page i c j)
    head.1 = t ∧ r.progressAt s page i c (j + 1) = head.2 ∧
      head.2.Follows (r.run s page).2 := by
  obtain ⟨report, hreport, ht⟩ := Option.bind_eq_some_iff.mp h.report
  obtain ⟨rfl, hcase⟩ := runCase_of_report h.case hreport
  obtain ⟨done, rest, stop, q, hcourse⟩ :=
    r.exists_course s c (r.executeCases s (s.cases.take i) (r.start page)).2
  have hentered := hcourse.getElem?_enter ht h.executed
  have hj : j < done.length := by
    rw [← r.length_execute s c 0 done]
    exact (List.getElem?_eq_some_iff.mp hentered).1
  have hstep : done[j]? = some step := by
    have hleft : (done ++ rest)[j]? = done[j]? := List.getElem?_append_left hj
    rw [← hleft, ← hcourse.steps, h.step]
  unfold progressAt
  rw [hcourse.take_steps (Nat.le_of_lt hj), hcourse.take_steps hj]
  generalize (r.executeCases s (s.cases.take i) (r.start page)).2 = p at *
  obtain ⟨hhead, hnext, hrest⟩ :=
    execute_at (r := r) (s := s) (c := c) 0 hstep (p.record (.caseStarted c.name))
  rw [Nat.zero_add] at hhead hnext hrest
  refine ⟨Option.some.inj (hhead.symm.trans hentered), hnext, ?_⟩
  exact hrest.trans (hcourse.follows.trans hcase)

/-- The report, the events and the world behind an executed step are what the step makes of the
world before it. -/
theorem eq_outcome :
    let found := r.outcome s c j step (r.progressAt s page i c j).world
    t = found.1.report j step.describe ∧
      (r.progressAt s page i c (j + 1)).world = found.2 ∧
      Event.ofStep i j (r.run s page).2.events = found.1.events c.name j := by
  intro found
  obtain ⟨hreport, hnext, hfollows⟩ := h.eq_runStep
  refine ⟨hreport.symm, congrArg Progress.world hnext, ?_⟩
  -- The cases before start `i` times, and the steps before stand at other indices than `j`, so
  -- the events of the step are what `ofStep` comes to.
  have hj : (c.steps.take j).length = j :=
    List.length_take_of_le (Nat.le_of_lt (List.getElem?_eq_some_iff.mp h.step).1)
  have hcount : (r.executeCases s (s.cases.take i) (r.start page)).2.events.countP
      Event.isCaseStarted = i := by
    have hi := (List.getElem?_eq_some_iff.mp h.case).1
    rw [countP_executeCases, List.length_take_of_le (Nat.le_of_lt hi)]
    exact Nat.zero_add i
  generalize hp : (r.executeCases s (s.cases.take i) (r.start page)).2 = p at hcount
  obtain ⟨blocks, htold, hblocks⟩ :=
    r.execute_told s c 0 (c.steps.take j) (p.record (.caseStarted c.name))
  have hindex : ∀ u ∈ (r.enter s c (c.steps.take j) p).1, u.index ≠ j := by
    intro u hu
    have hmem := List.mem_map_of_mem (f := (·.index)) hu
    rw [indices_enter, List.mem_range, hj] at hmem
    exact Nat.ne_of_lt hmem
  have hprogress : (r.progressAt s page i c j).events =
      p.events ++ .caseStarted c.name :: blocks.flatten := by
    rw [progressAt, hp, enter, hblocks, Progress.events_record, List.append_assoc]
    rfl
  obtain ⟨post, hpost, hafter⟩ := hfollows
  have hevents : (r.run s page).2.events = p.events ++ .caseStarted c.name ::
      (blocks.flatten ++ .stepStarted c.name j step.describe ::
        (found.1.events c.name j ++ post)) := by
    rw [hpost, events_runStep, hprogress, List.append_assoc, List.append_assoc]
    rfl
  have hbody : Event.ofStep (p.events.countP Event.isCaseStarted) j (r.run s page).2.events =
      found.1.events c.name j := by
    rw [hevents]
    exact Event.ofStep_append
      (forall_mem_flatten_of_told htold fun u hu _ h => h.startsStep (hindex u hu))
      (found.1.isInner_of_mem_events c.name j) hafter
  rwa [hcount] at hbody

end Executed

end Runner

end PlainSteps
