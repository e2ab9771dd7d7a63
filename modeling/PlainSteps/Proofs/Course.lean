import PlainSteps.Proofs.Findings
import PlainSteps.Run

/-!
# The course of a run

`execute` and `executeCases` run steps and cases whatever comes of them. A case executes a prefix
of its steps (`runSteps_eq`), and a run a prefix of its cases (`runCases_eq`); behind that prefix
stand only the options or a call for the end of the run. The main statement is `run_complete`: a
run reports every step of the cases that it comes to, and passes exactly if it has executed all of
them and all has gone well.
-/

namespace PlainSteps

open Run

variable {σ : Type}

/-! ## Reports -/

namespace Run

theorem StepReport.passed_iff {t : StepReport} :
    t.passed ↔ t.skipped = false ∧ t.error = none ∧ t.failures = [] := by
  simp only [StepReport.passed, StepReport.status]
  cases t.skipped <;> cases t.error <;> cases t.failures <;> simp

theorem CaseReport.passed_iff {report : CaseReport} :
    report.passed ↔ report.resetError = none ∧ ∀ t ∈ report.steps, t.passed := by
  simp [CaseReport.passed]

/-- A report of a case tells of every step, in order. -/
structure CaseReport.Covers (report : CaseReport) (c : Suite.Case) : Prop where
  name : report.name = c.name
  steps : report.steps.map (fun t => (t.index, t.text)) =
    c.steps.zipIdx.map fun (step, i) => (i, step.describe)

end Run

namespace Runner

variable [Regex.Engine] (r : Runner σ) (s : Suite)

/-! ## Steps -/

/-- Runs steps from an index on, whatever comes of them. -/
def execute (c : Suite.Case) :
    (index : Nat) → List Suite.Step → Progress σ → List StepReport × Progress σ
  | _, [], p => ([], p)
  | index, step :: rest, p =>
    let (report, p) := r.runStep s c index step p
    let (reports, p) := execute c (index + 1) rest p
    (report :: reports, p)

/-- The reports of steps that never run, from an index on. -/
def skipAll (index : Nat) (steps : List Suite.Step) : List StepReport :=
  (steps.zipIdx index).map fun (step, i) => skip i step

/-- The options let a run go on behind a step. -/
def Tolerates (t : StepReport) : Prop := t.passed ∨ r.options.failFast = false

/-- Why a case goes no further than the steps reported in `ts`, with `p` behind them: the steps
that are left, the signal to stop, and the progress behind it. -/
inductive Ending (c : Suite.Case) (ts : List StepReport) (p : Progress σ) :
    List Suite.Step → Bool → Progress σ → Prop
  | finished : (∀ t ∈ ts, r.Tolerates t) → Ending c ts p [] false p
  | failed {init : List StepReport} {t : StepReport} {rest : List Suite.Step} :
      ts = init ++ [t] → (∀ u ∈ init, r.Tolerates u) → ¬ r.Tolerates t → Ending c ts p rest true p
  | cancelled {step : Suite.Step} {rest : List Suite.Step} :
      (∀ t ∈ ts, r.Tolerates t) → r.isCancelled p →
        Ending c ts p (step :: rest) true (p.record (.runCancelled c.name))

omit [Regex.Engine] in
variable {r} in
theorem Ending.cons {c : Suite.Case} {t : StepReport} {ts : List StepReport} {p q : Progress σ}
    {rest : List Suite.Step} {stop : Bool} (ht : r.Tolerates t) (h : r.Ending c ts p rest stop q) :
    r.Ending c (t :: ts) p rest stop q := by
  cases h with
  | finished hall => exact .finished (List.forall_mem_cons.mpr ⟨ht, hall⟩)
  | failed heq hinit hlast =>
      rw [heq]
      exact .failed List.cons_append.symm (List.forall_mem_cons.mpr ⟨ht, hinit⟩) hlast
  | cancelled hall hcancelled => exact .cancelled (List.forall_mem_cons.mpr ⟨ht, hall⟩) hcancelled

theorem runSteps_stopped (c : Suite.Case) (index : Nat) (steps : List Suite.Step)
    (p : Progress σ) : r.runSteps s c true index steps p = ((skipAll index steps, true), p) := by
  induction steps generalizing index with
  | nil => rfl
  | cons step rest ih => rw [runSteps, ih]; rfl

/-- A case executes a prefix of its steps and skips the others. -/
theorem runSteps_eq (c : Suite.Case) (index : Nat) (steps : List Suite.Step) (p : Progress σ) :
    ∃ done rest stop q, steps = done ++ rest ∧
      r.Ending c (r.execute s c index done p).1 (r.execute s c index done p).2 rest stop q ∧
      r.runSteps s c false index steps p =
        (((r.execute s c index done p).1 ++ skipAll (index + done.length) rest, stop), q) := by
  induction steps generalizing index p with
  | nil => exact ⟨[], [], false, p, rfl, .finished nofun, rfl⟩
  | cons step rest ih =>
      by_cases hcancelled : r.isCancelled p
      · refine ⟨[], step :: rest, true, _, rfl, .cancelled nofun hcancelled, ?_⟩
        rw [runSteps, if_pos hcancelled, runSteps_stopped]
        rfl
      · rw [runSteps, if_neg hcancelled]
        generalize hstep : r.runStep s c index step p = head
        obtain ⟨t, p'⟩ := head
        by_cases ht : r.Tolerates t
        · have hgo : (!t.passed && r.options.failFast) = false := by
            obtain h | h := ht <;> simp [h]
          obtain ⟨done, rest', stop, q, hsplit, hend, hrun⟩ := ih (index + 1) p'
          refine ⟨step :: done, rest', stop, q, by rw [hsplit]; rfl, ?_, ?_⟩
          · simp only [execute, hstep]
            exact hend.cons ht
          · simp only [execute, hstep, hgo, hrun]
            rw [List.cons_append, List.length_cons, Nat.add_comm done.length 1, Nat.add_assoc]
        · have hstop : (!t.passed && r.options.failFast) = true := by
            simpa [Tolerates, not_or] using ht
          refine ⟨[step], rest, true, p', rfl, ?_, ?_⟩
          · simp only [execute, hstep]
            exact .failed (List.nil_append [t]).symm nofun ht
          · simp only [execute, hstep, hstop, runSteps_stopped]
            rfl

theorem execute_headings (c : Suite.Case) (index : Nat) (steps : List Suite.Step)
    (p : Progress σ) :
    (r.execute s c index steps p).1.map (fun t => (t.index, t.text)) =
      (steps.zipIdx index).map fun (step, i) => (i, step.describe) := by
  induction steps generalizing index p with
  | nil => rfl
  | cons step rest ih => exact congrArg (List.cons _) (ih (index + 1) _)

theorem skipped_of_mem_execute {c : Suite.Case} {index : Nat} {steps : List Suite.Step}
    {p : Progress σ} : ∀ t ∈ (r.execute s c index steps p).1, t.skipped = false := by
  induction steps generalizing index p with
  | nil => exact nofun
  | cons step rest ih => exact List.forall_mem_cons.mpr ⟨rfl, ih⟩

theorem length_execute (c : Suite.Case) (index : Nat) (steps : List Suite.Step) (p : Progress σ) :
    (r.execute s c index steps p).1.length = steps.length := by
  simpa using congrArg List.length (r.execute_headings s c index steps p)

omit [Regex.Engine] in
theorem skipAll_headings (index : Nat) (steps : List Suite.Step) :
    (skipAll index steps).map (fun t => (t.index, t.text)) =
      (steps.zipIdx index).map fun (step, i) => (i, step.describe) := by
  rw [skipAll, List.map_map]
  rfl

omit [Regex.Engine] in
theorem skipped_of_mem_skipAll {index : Nat} {steps : List Suite.Step} :
    ∀ t ∈ skipAll index steps, t.skipped = true := by
  intro t ht
  obtain ⟨_, _, rfl⟩ := List.mem_map.mp ht
  rfl

/-! ## Cases -/

omit [Regex.Engine] in
theorem log_resetPage (p : Progress σ) : (r.resetPage p).2.log = p.log := by
  unfold resetPage
  cases r.reset with
  | none => rfl
  | some hook =>
      cases h : hook.run.run p.world.page with
      | mk result page => cases result <;> simp [h]

omit [Regex.Engine] in
/-- A call for the end of the run stays. -/
theorem isCancelled_mono {p q : Progress σ} (h : p.log.length ≤ q.log.length)
    (hp : r.isCancelled p) : r.isCancelled q := by
  unfold isCancelled at hp ⊢
  cases hafter : r.cancelAfter with
  | none => simp [hafter] at hp
  | some n =>
      have hn : n ≤ p.log.length := by simpa [hafter] using hp
      simpa using Nat.le_trans hn h

/-- Starts a case and runs steps of it. -/
def enter (c : Suite.Case) (steps : List Suite.Step) (p : Progress σ) :
    List StepReport × Progress σ :=
  r.execute s c 0 steps (p.record (.caseStarted c.name))

theorem indices_enter (c : Suite.Case) (steps : List Suite.Step) (p : Progress σ) :
    (r.enter s c steps p).1.map (·.index) = List.range steps.length := by
  have h := congrArg (List.map Prod.fst)
    (r.execute_headings s c 0 steps (p.record (.caseStarted c.name)))
  rw [List.map_map, List.map_map] at h
  rw [List.range_eq_range', ← List.zipIdx_map_snd]
  exact h

/-- The case `c`, entered with `p`, executes the steps `done` and goes no further. Its steps leave
the progress `q`. -/
structure Course (c : Suite.Case) (p : Progress σ) (done rest : List Suite.Step) (stop : Bool)
    (q : Progress σ) : Prop where
  steps : c.steps = done ++ rest
  ending : r.Ending c (r.enter s c done p).1 (r.enter s c done p).2 rest stop q
  report : (r.runCase s c p).1.1 =
    ⟨c.name, (r.enter s c done p).1 ++ skipAll done.length rest, (r.resetPage q).1, 0⟩
  progress : (r.runCase s c p).2 =
    (r.resetPage q).2.record (.caseFinished c.name (r.runCase s c p).1.1.passed)
  cancelled : (r.runCase s c p).1.2 = (stop && r.isCancelled (r.runCase s c p).2)

theorem exists_course (c : Suite.Case) (p : Progress σ) :
    ∃ done rest stop q, r.Course s c p done rest stop q := by
  obtain ⟨done, rest, stop, q, hsteps, hend, hrun⟩ :=
    r.runSteps_eq s c 0 c.steps (p.record (.caseStarted c.name))
  rw [Nat.zero_add] at hrun
  have hcase : r.runCase s c p =
      let report : CaseReport :=
        ⟨c.name, (r.enter s c done p).1 ++ skipAll done.length rest, (r.resetPage q).1, 0⟩
      let q' := (r.resetPage q).2.record (.caseFinished c.name report.passed)
      ((report, stop && r.isCancelled q'), q') := by
    rw [runCase, hrun]
    rfl
  refine ⟨done, rest, stop, q, hsteps, hend, ?_, ?_, ?_⟩ <;> rw [hcase]

/-- A run goes on behind a case. -/
def GoesOn (o : CaseReport × Bool) : Prop :=
  o.2 = false ∧ (o.1.passed ∨ r.options.failFast = false)

namespace Course

variable {r s} {c : Suite.Case} {p q : Progress σ} {done rest : List Suite.Step} {stop : Bool}
variable (h : r.Course s c p done rest stop q)
include h

theorem covers : (r.runCase s c p).1.1.Covers c := by
  constructor
  · rw [h.report]
  · rw [h.report, h.steps, List.map_append, skipAll_headings, enter, execute_headings,
      List.zipIdx_append, List.map_append, Nat.zero_add]

/-- The executed steps are a prefix. -/
theorem filter_steps :
    (r.runCase s c p).1.1.steps.filter (!·.skipped) = (r.enter s c done p).1 := by
  have hrun : ∀ t ∈ (r.enter s c done p).1, (!t.skipped) = true := fun t ht => by
    rw [r.skipped_of_mem_execute s t ht]; rfl
  have hskip : ∀ t ∈ skipAll done.length rest, ¬ (!t.skipped) = true := fun t ht => by
    rw [skipped_of_mem_skipAll t ht]; decide
  rw [h.report, List.filter_append, List.filter_eq_self.mpr hrun,
    List.filter_eq_nil_iff.mpr hskip, List.append_nil]

theorem length_log_le : (r.enter s c done p).2.log.length ≤ (r.runCase s c p).2.log.length := by
  rw [h.progress, Progress.record, List.length_cons, log_resetPage]
  cases h.ending with
  | finished => exact Nat.le_succ _
  | failed => exact Nat.le_succ _
  | cancelled => exact Nat.le_add_right _ 2

/-- A case that is cut short holds a step that did not pass. -/
theorem not_passed_of_stop (hstop : stop = true) : ¬ (r.runCase s c p).1.1.passed := by
  intro hpassed
  have hall := (CaseReport.passed_iff.mp hpassed).2
  rw [h.report] at hall
  cases h.ending with
  | finished => exact nomatch hstop
  | failed heq _ hlast =>
      refine hlast (.inl (hall _ (List.mem_append_left _ ?_)))
      rw [heq]
      exact List.mem_append_right _ (List.mem_singleton_self _)
  | cancelled =>
      have hskipped := hall _ (List.mem_append_right _ List.mem_cons_self)
      exact nomatch (StepReport.passed_iff.mp hskipped).1

/-- A run goes on only behind a case that has executed all of its steps. -/
theorem stop_of_goesOn (hgo : r.GoesOn (r.runCase s c p).1) : stop = false := by
  cases hstop : stop with
  | false => rfl
  | true =>
      obtain ⟨hcancelled, hpassed⟩ := hgo
      have hfast := hpassed.resolve_left (h.not_passed_of_stop hstop)
      rw [h.cancelled, hstop, Bool.true_and] at hcancelled
      have hend := h.ending
      rw [hstop] at hend
      cases hend with
      | failed _ _ hlast => exact absurd (.inr hfast) hlast
      | cancelled _ hcalled =>
          rw [r.isCancelled_mono h.length_log_le hcalled] at hcancelled
          exact nomatch hcancelled

theorem rest_of_goesOn (hgo : r.GoesOn (r.runCase s c p).1) : rest = [] := by
  have hend := h.ending
  rw [h.stop_of_goesOn hgo] at hend
  cases hend with
  | finished => rfl

end Course

theorem covers_runCase (c : Suite.Case) (p : Progress σ) : (r.runCase s c p).1.1.Covers c := by
  obtain ⟨done, rest, stop, q, h⟩ := r.exists_course s c p
  exact h.covers

/-- What the outcome of a case says, whatever the case was. -/
structure Sound (o : CaseReport × Bool) : Prop where
  isPrefix : o.1.steps.filter (!·.skipped) <+: o.1.steps
  executed_of_goesOn : r.GoesOn o → ∀ t ∈ o.1.steps, t.skipped = false
  not_passed_of_cancelled : o.2 = true → ¬ o.1.passed

theorem sound_runCase (c : Suite.Case) (p : Progress σ) : r.Sound (r.runCase s c p).1 := by
  obtain ⟨done, rest, stop, q, h⟩ := r.exists_course s c p
  constructor
  · rw [h.filter_steps, h.report]
    exact List.prefix_append _ _
  · intro hgo
    rw [h.report, h.rest_of_goesOn hgo, skipAll, List.zipIdx_nil, List.map_nil, List.append_nil]
    exact r.skipped_of_mem_execute s
  · intro hcancelled
    rw [h.cancelled, Bool.and_eq_true] at hcancelled
    exact h.not_passed_of_stop hcancelled.1

/-! ## Runs -/

/-- The progress with which a run on a page begins. -/
def start (page : σ) : Progress σ := { world := ⟨page, r.globals⟩ }

/-- Runs cases, whatever comes of them. With each report stands whether the run has been called to
its end. -/
def executeCases : List Suite.Case → Progress σ → List (CaseReport × Bool) × Progress σ
  | [], p => ([], p)
  | c :: rest, p =>
    let (outcome, p) := r.runCase s c p
    let (outcomes, p) := executeCases rest p
    (outcome :: outcomes, p)

/-- Why a run goes no further than the cases with the outcomes `os`: the cases that are left. -/
inductive RunEnding (os : List (CaseReport × Bool)) : List Suite.Case → Prop
  | finished : (∀ o ∈ os, r.GoesOn o) → RunEnding os []
  | stopped {init : List (CaseReport × Bool)} {o : CaseReport × Bool} {rest : List Suite.Case} :
      os = init ++ [o] → (∀ o ∈ init, r.GoesOn o) → ¬ r.GoesOn o → RunEnding os rest

namespace RunEnding

variable {r} {os : List (CaseReport × Bool)} {rest : List Suite.Case} (h : r.RunEnding os rest)
include h
omit [Regex.Engine]

theorem cons {o : CaseReport × Bool} (ho : r.GoesOn o) : r.RunEnding (o :: os) rest := by
  cases h with
  | finished hall => exact .finished (List.forall_mem_cons.mpr ⟨ho, hall⟩)
  | stopped heq hinit hlast =>
      rw [heq]
      exact .stopped List.cons_append.symm (List.forall_mem_cons.mpr ⟨ho, hinit⟩) hlast

theorem goesOn_of_mem_dropLast : ∀ o ∈ os.dropLast, r.GoesOn o := by
  cases h with
  | finished hall => exact fun o ho => hall o ((List.dropLast_sublist os).mem ho)
  | stopped heq hinit =>
      rw [heq, List.dropLast_concat]
      exact hinit

theorem rest_of_goesOn (hall : ∀ o ∈ os, r.GoesOn o) : rest = [] := by
  cases h with
  | finished => rfl
  | stopped heq _ hlast =>
      refine absurd (hall _ ?_) hlast
      rw [heq]
      exact List.mem_append_right _ (List.mem_singleton_self _)

end RunEnding

theorem runCases_of_goesOn {c : Suite.Case} {p : Progress σ} (h : r.GoesOn (r.runCase s c p).1)
    (cases : List Suite.Case) : r.runCases s (c :: cases) p =
      ({ (r.runCases s cases (r.runCase s c p).2).1 with
          cases := (r.runCase s c p).1.1 :: (r.runCases s cases (r.runCase s c p).2).1.cases },
        (r.runCases s cases (r.runCase s c p).2).2) := by
  rw [runCases]
  generalize r.runCase s c p = head at *
  obtain ⟨⟨report, cancelled⟩, p'⟩ := head
  obtain ⟨hcancelled, hpassed⟩ := h
  obtain rfl : cancelled = false := hcancelled
  have hfast : (!report.passed && r.options.failFast) = false := by
    obtain h | h := hpassed <;> simp [h]
  simp [hfast]

theorem runCases_of_not_goesOn {c : Suite.Case} {p : Progress σ}
    (h : ¬ r.GoesOn (r.runCase s c p).1) (cases : List Suite.Case) :
    r.runCases s (c :: cases) p =
      ({ cases := [(r.runCase s c p).1.1], cancelled := (r.runCase s c p).1.2 },
        (r.runCase s c p).2) := by
  rw [runCases]
  generalize r.runCase s c p = head at *
  obtain ⟨⟨report, cancelled⟩, p'⟩ := head
  cases cancelled with
  | true => rfl
  | false =>
      have hfast : (!report.passed && r.options.failFast) = true := by
        simpa [GoesOn, not_or] using h
      simp [hfast]

/-- A run executes a prefix of its cases, and goes on behind all of them but the last. -/
theorem runCases_eq (cases : List Suite.Case) (p : Progress σ) :
    ∃ done rest, cases = done ++ rest ∧ r.RunEnding (r.executeCases s done p).1 rest ∧
      r.runCases s cases p =
        (⟨(r.executeCases s done p).1.map (·.1), (r.executeCases s done p).1.any (·.2), 0⟩,
          (r.executeCases s done p).2) := by
  induction cases generalizing p with
  | nil => exact ⟨[], [], rfl, .finished nofun, rfl⟩
  | cons c cases ih =>
      by_cases hgo : r.GoesOn (r.runCase s c p).1
      · obtain ⟨done, rest, hsplit, hend, hrun⟩ := ih (r.runCase s c p).2
        refine ⟨c :: done, rest, by rw [hsplit]; rfl, hend.cons hgo, ?_⟩
        rw [runCases_of_goesOn r s hgo, hrun]
        simp [executeCases, hgo.1]
      · refine ⟨[c], cases, rfl, .stopped (List.nil_append _).symm nofun hgo, ?_⟩
        rw [runCases_of_not_goesOn r s hgo]
        simp [executeCases]

theorem covers_executeCases (cases : List Suite.Case) (p : Progress σ) :
    List.Forall₂ CaseReport.Covers ((r.executeCases s cases p).1.map (·.1)) cases := by
  induction cases generalizing p with
  | nil => exact .nil
  | cons c cases ih => exact .cons (r.covers_runCase s c p) (ih _)

theorem sound_executeCases (cases : List Suite.Case) (p : Progress σ) :
    ∀ o ∈ (r.executeCases s cases p).1, r.Sound o := by
  induction cases generalizing p with
  | nil => exact nofun
  | cons c cases ih => exact List.forall_mem_cons.mpr ⟨r.sound_runCase s c p, ih _⟩

omit [Regex.Engine] in
/-- A run does not pass if it is called to its end before its last step. -/
theorem passed_iff_of_sound {os : List (CaseReport × Bool)} (h : ∀ o ∈ os, r.Sound o) :
    (⟨os.map (·.1), os.any (·.2), 0⟩ : Report).passed ↔ ∀ o ∈ os, o.1.passed := by
  simp only [Report.passed, Bool.and_eq_true, Bool.not_eq_true', List.all_map, List.all_eq_true,
    Function.comp_apply, List.any_eq_false]
  exact and_iff_right_of_imp fun hall o ho hcancelled =>
    (h o ho).not_passed_of_cancelled hcancelled (hall o ho)

/-- The report of a run covers a prefix of the cases: each of them step by step, a prefix of its
steps executed and the others skipped. Only the last case can hold skipped steps. The run passes
exactly if every case is reported, every step executed without a failure, and every reset done. -/
theorem run_complete (page : σ) :
    let report := (r.run s page).1
    List.Forall₂ CaseReport.Covers report.cases (s.cases.take report.cases.length) ∧
      (∀ c ∈ report.cases, c.steps.filter (!·.skipped) <+: c.steps) ∧
      (∀ c ∈ report.cases.dropLast, ∀ t ∈ c.steps, t.skipped = false) ∧
      (report.passed ↔ report.cases.length = s.cases.length ∧
        ∀ c ∈ report.cases, c.resetError = none ∧
          ∀ t ∈ c.steps, t.skipped = false ∧ t.error = none ∧ t.failures = []) := by
  intro report
  obtain ⟨done, rest, hsplit, hend, hrun⟩ := r.runCases_eq s s.cases (r.start page)
  have hcovers := r.covers_executeCases s done (r.start page)
  have hsound := r.sound_executeCases s done (r.start page)
  have hreport : report = _ := congrArg Prod.fst hrun
  generalize (r.executeCases s done (r.start page)).1 = os at *
  have hlength : (os.map (·.1)).length = done.length := hcovers.length_eq
  rw [hreport]
  refine ⟨?_, ?_, ?_, ?_⟩
  · rw [hlength, hsplit, List.take_left]
    exact hcovers
  · exact List.forall_mem_map.mpr fun o ho => (hsound o ho).isPrefix
  · rw [← List.map_dropLast]
    exact List.forall_mem_map.mpr fun o ho =>
      (hsound o ((List.dropLast_sublist os).mem ho)).executed_of_goesOn
        (hend.goesOn_of_mem_dropLast o ho)
  · rw [r.passed_iff_of_sound hsound, hlength, hsplit, List.length_append]
    simp only [← StepReport.passed_iff, ← CaseReport.passed_iff, List.forall_mem_map]
    refine (and_iff_right_of_imp fun hall => ?_).symm
    have hgo : ∀ o ∈ os, r.GoesOn o := fun o ho => by
      refine ⟨?_, .inl (hall o ho)⟩
      rw [← Bool.not_eq_true]
      exact fun hcancelled => (hsound o ho).not_passed_of_cancelled hcancelled (hall o ho)
    rw [hend.rest_of_goesOn hgo]
    rfl

end Runner

end PlainSteps
