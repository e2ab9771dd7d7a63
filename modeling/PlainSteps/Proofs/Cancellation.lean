import PlainSteps.Proofs.Accounts
import PlainSteps.Regex.Builtin

/-!
# Calls for the end of a run

A call for the end of a run is heard if the run records it, and then it keeps the steps that are
left from running. The main statement is `run_cancelled_iff`: a run is reported as cancelled if a
call is heard, but also if a failed step has ended it and the call has come by then.
-/

namespace PlainSteps

open Run

variable {σ : Type}

namespace Run.Progress

/-- A call for the end of the run has been heard. -/
def heard (p : Progress σ) : Bool := p.events.any Event.isRunCancelled

theorem heard_record (p : Progress σ) (e : Event) :
    (p.record e).heard = (p.heard || e.isRunCancelled) := by
  simp [heard, events_record]

theorem heard_of_log {p q : Progress σ} (h : q.log = p.log) : q.heard = p.heard := by
  unfold heard events
  rw [h]

end Run.Progress

namespace Runner

section

variable [Regex.Engine] (r : Runner σ) (s : Suite)

theorem heard_runStep (c : Suite.Case) (index : Nat) (step : Suite.Step) (p : Progress σ) :
    (r.runStep s c index step p).2.heard = p.heard := by
  unfold Progress.heard
  rw [events_runStep, List.any_append, Bool.or_eq_left_iff_imp, List.any_eq_true]
  rintro ⟨e, he, hcancelled⟩
  have htold := r.told_outcome s c index step p.world step.describe
  rw [htold.isRunCancelled e he] at hcancelled
  exact nomatch hcancelled

theorem heard_execute (c : Suite.Case) (index : Nat) (steps : List Suite.Step) (p : Progress σ) :
    (r.execute s c index steps p).2.heard = p.heard := by
  induction steps generalizing index p with
  | nil => rfl
  | cons step rest ih =>
      calc (r.execute s c index (step :: rest) p).2.heard
        _ = (r.runStep s c index step p).2.heard := ih (index + 1) _
        _ = p.heard := r.heard_runStep s c index step p

/-- A call for the end of the run, and no failed step, has kept steps of a case from running. -/
def CutByCall (report : CaseReport) : Prop :=
  (∃ t ∈ report.steps, t.skipped) ∧ ∀ t ∈ report.steps, t.skipped ∨ r.Tolerates t

/-- A failed step has ended the case. -/
def CutByFailure (report : CaseReport) : Prop :=
  ∃ t ∈ report.steps, t.skipped = false ∧ ¬ r.Tolerates t

omit [Regex.Engine] in
variable {r} in
theorem CutByCall.not_failure {report : CaseReport} (h : r.CutByCall report) :
    ¬ r.CutByFailure report := by
  rintro ⟨t, ht, hrun, hfailed⟩
  obtain hskipped | hgood := h.2 t ht
  · rw [hrun] at hskipped
    exact nomatch hskipped
  · exact hfailed hgood

namespace Course

variable {r s} {c : Suite.Case} {p q : Progress σ} {done rest : List Suite.Step} {stop : Bool}
variable (h : r.Course s c p done rest stop q)
include h

theorem heard_runCase : (r.runCase s c p).2.heard = q.heard := by
  rw [h.progress, Progress.heard_record, Progress.heard_of_log (r.log_resetPage q)]
  exact Bool.or_false _

theorem cutByCall_iff : r.CutByCall (r.runCase s c p).1.1 ↔
    rest ≠ [] ∧ ∀ t ∈ (r.enter s c done p).1, r.Tolerates t := by
  unfold CutByCall
  rw [h.report]
  constructor
  · rintro ⟨⟨t, ht, hskipped⟩, hall⟩
    constructor
    · rintro rfl
      rw [skipAll, List.zipIdx_nil, List.map_nil, List.append_nil] at ht
      rw [r.skipped_of_mem_execute s t ht] at hskipped
      exact absurd hskipped Bool.false_ne_true
    · intro u hu
      obtain hskipped | hgood := hall u (List.mem_append_left _ hu)
      · rw [r.skipped_of_mem_execute s u hu] at hskipped
        exact absurd hskipped Bool.false_ne_true
      · exact hgood
  · rintro ⟨hrest, hall⟩
    constructor
    · obtain ⟨step, rest, rfl⟩ := List.exists_cons_of_ne_nil hrest
      exact ⟨skip done.length step, List.mem_append_right _ List.mem_cons_self, rfl⟩
    · refine List.forall_mem_append.mpr ⟨fun t ht => .inr (hall t ht), fun t ht => .inl ?_⟩
      exact skipped_of_mem_skipAll t ht

theorem cutByFailure_iff : r.CutByFailure (r.runCase s c p).1.1 ↔
    ∃ t ∈ (r.enter s c done p).1, ¬ r.Tolerates t := by
  unfold CutByFailure
  rw [h.report]
  constructor
  · rintro ⟨t, ht, hrun, hfailed⟩
    obtain ht | ht := List.mem_append.mp ht
    · exact ⟨t, ht, hfailed⟩
    · rw [skipped_of_mem_skipAll t ht] at hrun
      exact nomatch hrun
  · rintro ⟨t, ht, hfailed⟩
    exact ⟨t, List.mem_append_left _ ht, r.skipped_of_mem_execute s t ht, hfailed⟩

/-- The signal to stop, and the call if it is heard, by what has cut the case short. -/
theorem cut : (stop ↔ r.CutByCall (r.runCase s c p).1.1 ∨ r.CutByFailure (r.runCase s c p).1.1) ∧
    (q.heard ↔ p.heard ∨ r.CutByCall (r.runCase s c p).1.1) := by
  have henter : (r.enter s c done p).2.heard = p.heard := by
    rw [enter, heard_execute, Progress.heard_record]
    exact Bool.or_false _
  rw [h.cutByCall_iff, h.cutByFailure_iff]
  cases h.ending with
  | finished hall =>
      have hnone : ¬ ∃ t ∈ (r.enter s c done p).1, ¬ r.Tolerates t := by
        rintro ⟨t, ht, hfailed⟩
        exact hfailed (hall t ht)
      simp [hnone, henter]
  | failed heq _ hlast =>
      have hfailed : ∃ t ∈ (r.enter s c done p).1, ¬ r.Tolerates t := by
        rw [heq]
        exact ⟨_, List.mem_append_right _ (List.mem_singleton_self _), hlast⟩
      have hall : ¬ ∀ t ∈ (r.enter s c done p).1, r.Tolerates t := by
        obtain ⟨t, ht, hfailed⟩ := hfailed
        exact fun hall => hfailed (hall t ht)
      simp [hfailed, hall, henter]
  | cancelled hall =>
      have hheard : ((r.enter s c done p).2.record (.runCancelled c.name)).heard = true := by
        rw [Progress.heard_record]
        exact Bool.or_true _
      simp only [hheard, true_iff]
      exact ⟨.inl ⟨List.cons_ne_nil _ _, hall⟩, .inr ⟨List.cons_ne_nil _ _, hall⟩⟩

theorem isCancelled_of_cutByCall (hcut : r.CutByCall (r.runCase s c p).1.1) :
    r.isCancelled (r.runCase s c p).2 := by
  obtain ⟨hrest, hall⟩ := h.cutByCall_iff.mp hcut
  cases h.ending with
  | finished => exact absurd rfl hrest
  | failed heq _ hlast =>
      refine absurd (hall _ ?_) hlast
      rw [heq]
      exact List.mem_append_right _ (List.mem_singleton_self _)
  | cancelled _ hcalled => exact r.isCancelled_mono h.length_log_le hcalled

end Course

theorem heard_runCase_iff (c : Suite.Case) (p : Progress σ) :
    (r.runCase s c p).2.heard ↔ p.heard ∨ r.CutByCall (r.runCase s c p).1.1 := by
  obtain ⟨done, rest, stop, q, h⟩ := r.exists_course s c p
  rw [h.heard_runCase]
  exact h.cut.2

/-- A case that a failed step has ended passes for one that a call has cut short, if there has been
a call by its end. -/
theorem runCase_cancelled_iff (c : Suite.Case) (p : Progress σ) :
    (r.runCase s c p).1.2 ↔ r.CutByCall (r.runCase s c p).1.1 ∨
      r.isCancelled (r.runCase s c p).2 ∧ r.CutByFailure (r.runCase s c p).1.1 := by
  obtain ⟨done, rest, stop, q, h⟩ := r.exists_course s c p
  rw [h.cancelled, Bool.and_eq_true, h.cut.1]
  constructor
  · rintro ⟨hcut | hcut, hcancelled⟩
    · exact .inl hcut
    · exact .inr ⟨hcancelled, hcut⟩
  · rintro (hcut | ⟨hcancelled, hcut⟩)
    · exact ⟨.inl hcut, h.isCancelled_of_cutByCall hcut⟩
    · exact ⟨.inr hcut, hcancelled⟩

/-- Behind a case that has not been cut short the run goes on, unless the case could not be reset
and the options ask for an end. -/
theorem not_cut_of_goesOn {c : Suite.Case} {p : Progress σ} (h : r.GoesOn (r.runCase s c p).1) :
    ¬ r.CutByCall (r.runCase s c p).1.1 ∧ ¬ r.CutByFailure (r.runCase s c p).1.1 := by
  obtain ⟨done, rest, stop, q, hcourse⟩ := r.exists_course s c p
  rw [← not_or, ← hcourse.cut.1, hcourse.stop_of_goesOn h]
  exact Bool.false_ne_true

theorem runCases_cancelled_iff (cases : List Suite.Case) (p : Progress σ) :
    ((r.runCases s cases p).2.heard ↔
        p.heard ∨ ∃ c ∈ (r.runCases s cases p).1.cases, r.CutByCall c) ∧
      ((r.runCases s cases p).1.cancelled ↔
        (∃ c ∈ (r.runCases s cases p).1.cases, r.CutByCall c) ∨
          r.isCancelled (r.runCases s cases p).2 ∧
            ∃ c ∈ (r.runCases s cases p).1.cases, r.CutByFailure c) := by
  induction cases generalizing p with
  | nil => simp [runCases]
  | cons c rest ih =>
      have hheard := r.heard_runCase_iff s c p
      have hcancelled := r.runCase_cancelled_iff s c p
      by_cases hgo : r.GoesOn (r.runCase s c p).1
      · obtain ⟨hcall, hfailure⟩ := r.not_cut_of_goesOn s hgo
        rw [runCases_of_goesOn r s hgo]
        simpa [hcall, hfailure, hheard] using ih (r.runCase s c p).2
      · rw [runCases_of_not_goesOn r s hgo]
        simpa using ⟨hheard, hcancelled⟩

/-- A run is reported as cancelled exactly if a call for its end is heard, or a failed step has
ended a case and the call has come by the end of the run. A call is heard exactly if it has kept
steps from running and no failed step has. -/
theorem run_cancelled_iff (page : σ) :
    let report := (r.run s page).1
    let p := (r.run s page).2
    (report.cancelled ↔ (∃ e ∈ p.events, e.isRunCancelled) ∨
        r.isCancelled p ∧ ∃ c ∈ report.cases, r.CutByFailure c) ∧
      ((∃ e ∈ p.events, e.isRunCancelled) ↔ ∃ c ∈ report.cases, r.CutByCall c) := by
  intro report p
  obtain ⟨hheard, hcancelled⟩ := r.runCases_cancelled_iff s s.cases (r.start page)
  have hevents : (∃ e ∈ p.events, e.isRunCancelled) ↔ ∃ c ∈ report.cases, r.CutByCall c := by
    rw [← List.any_eq_true]
    exact hheard.trans (or_iff_right Bool.false_ne_true)
  rw [hevents]
  exact ⟨hcancelled, Iff.rfl⟩

end

def clickMissing : Suite.Step := .sentence "Click \"X\" button."

open Regex.Builtin

/-- The call comes while the first step runs, which then fails and ends the run. No event tells of
a call, and yet the run is reported as cancelled. -/
theorem run_cancelled_clickMissing_ne :
    let r : Runner Page :=
      { hasty with options := { hasty.options with failFast := true }, cancelAfter := some 2 }
    let s : Suite := { cases := [{ name := "t", steps := [clickMissing, clickMissing] }] }
    ¬ ((r.run s savePage).1.cancelled ↔
      ∃ e ∈ (r.run s savePage).2.events, e.isRunCancelled) := by
  decide +kernel

end Runner

end PlainSteps
