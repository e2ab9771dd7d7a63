import PlainSteps.Proofs.Executed

/-!
# Overflows

At an overflow the program ends, and a run that comes to one has nothing to show. Steps, cases and
resets keep the mark of an overflow once it is set, and set it only where a step comes upon one. So
a run leaves nothing exactly if a step that it executes does (`finish?_eq_none_iff`).
-/

namespace PlainSteps

open Run

variable {σ : Type}

namespace Runner

variable [Regex.Engine] (r : Runner σ) (s : Suite)

theorem overflowed_runStep (c : Suite.Case) (index : Nat) (step : Suite.Step) (p : Progress σ) :
    (r.runStep s c index step p).2.overflowed =
      (p.overflowed || (r.outcome s c index step p.world).1.overflows) :=
  rfl

/-- Of the first steps that are executed one comes upon an overflow. -/
theorem overflowed_execute_take (c : Suite.Case) (steps : List Suite.Step) (p : Progress σ)
    {k : Nat} (hk : k ≤ steps.length) :
    (r.execute s c 0 (steps.take k) p).2.overflowed ↔ p.overflowed ∨
      ∃ j < k, ∃ step, steps[j]? = some step ∧
        (r.outcome s c j step (r.execute s c 0 (steps.take j) p).2.world).1.overflows := by
  induction k with
  | zero => simp [execute]
  | succ k ih =>
      have hstep := List.getElem?_eq_getElem (Nat.lt_of_succ_le hk)
      obtain ⟨-, hnext, -⟩ := execute_at (r := r) (s := s) (c := c) 0 hstep p
      rw [hnext, overflowed_runStep, Bool.or_eq_true, ih (Nat.le_of_succ_le hk),
        Nat.exists_lt_succ_right, or_assoc, Nat.zero_add]
      simp only [hstep, Option.some.injEq, exists_eq_left']

omit [Regex.Engine] in
theorem overflowed_resetPage (p : Progress σ) : (r.resetPage p).2.overflowed = p.overflowed := by
  unfold resetPage
  cases r.reset with
  | none => rfl
  | some hook =>
      cases h : hook.run.run p.world.page with
      | mk result page => cases result <;> simp [h]

/-- The case, entered with `p`, executes the step at `j`, which comes upon an overflow. -/
def OverflowsAt (c : Suite.Case) (p : Progress σ) (j : Nat) : Prop :=
  ∃ step t, c.steps[j]? = some step ∧ (r.runCase s c p).1.1.steps[j]? = some t ∧
    t.skipped = false ∧
    (r.outcome s c j step (r.enter s c (c.steps.take j) p).2.world).1.overflows

theorem Course.overflowed {c : Suite.Case} {p q : Progress σ} {done rest : List Suite.Step}
    {stop : Bool} (h : r.Course s c p done rest stop q) :
    (r.runCase s c p).2.overflowed = (r.enter s c done p).2.overflowed := by
  have hreset : (r.runCase s c p).2.overflowed = q.overflowed := by
    rw [h.progress]
    exact r.overflowed_resetPage q
  rw [hreset]
  cases h.ending <;> rfl

theorem overflowed_runCase (c : Suite.Case) (p : Progress σ) :
    (r.runCase s c p).2.overflowed ↔ p.overflowed ∨ ∃ j, r.OverflowsAt s c p j := by
  obtain ⟨done, rest, stop, q, h⟩ := r.exists_course s c p
  have hdone : c.steps.take done.length = done := by
    rw [h.take_steps (Nat.le_refl _), List.take_length]
  have hle : done.length ≤ c.steps.length := by
    rw [h.steps, List.length_append]
    exact Nat.le_add_right _ _
  have hentered := r.overflowed_execute_take s c c.steps (p.record (.caseStarted c.name)) hle
  rw [hdone] at hentered
  rw [h.overflowed, enter, hentered]
  refine or_congr_right (exists_congr fun j => ?_)
  constructor
  · rintro ⟨hj, step, hstep, hover⟩
    have hlength : j < (r.enter s c done p).1.length := by
      rw [enter, length_execute]
      exact hj
    refine ⟨step, (r.enter s c done p).1[j], hstep, ?_, ?_, hover⟩
    · rw [h.report, List.getElem?_append_left hlength, List.getElem?_eq_getElem hlength]
    · exact r.skipped_of_mem_execute s _ (List.getElem_mem hlength)
  · rintro ⟨step, t, hstep, ht, hrun, hover⟩
    have hlength := (List.getElem?_eq_some_iff.mp (h.getElem?_enter ht hrun)).1
    rw [enter, length_execute] at hlength
    exact ⟨hlength, step, hstep, hover⟩

theorem overflowed_executeCases (cases : List Suite.Case) (p : Progress σ) :
    (r.executeCases s cases p).2.overflowed ↔ p.overflowed ∨
      ∃ i c j, cases[i]? = some c ∧
        r.OverflowsAt s c (r.executeCases s (cases.take i) p).2 j := by
  induction cases generalizing p with
  | nil => simp [executeCases]
  | cons c cases ih =>
      refine (ih (r.runCase s c p).2).trans ?_
      rw [overflowed_runCase, or_assoc]
      refine or_congr_right ⟨?_, ?_⟩
      · rintro (⟨j, hover⟩ | ⟨i, d, j, hd, hover⟩)
        · exact ⟨0, c, j, rfl, hover⟩
        · exact ⟨i + 1, d, j, hd, hover⟩
      · rintro ⟨i, d, j, hd, hover⟩
        cases i with
        | zero =>
            obtain rfl := Option.some.inj hd
            exact .inl ⟨j, hover⟩
        | succ i => exact .inr ⟨i, d, j, hd, hover⟩

/-- A run leaves nothing exactly if a step that it executes comes upon an overflow in the world
before it. -/
theorem finish?_eq_none_iff (page : σ) :
    r.finish? s page = none ↔ ∃ i c j step t, r.Executed s page i c j step t ∧
      (r.outcome s c j step (r.progressAt s page i c j).world).1.overflows := by
  obtain ⟨hlength, hcases, hrun⟩ := run_eq_executeCases r s page
  have hfinish : r.finish? s page = none ↔ (r.run s page).2.overflowed := by
    simp [finish?]
  rw [hfinish, hrun, overflowed_executeCases]
  simp only [start, Bool.false_eq_true, false_or]
  constructor
  · rintro ⟨i, c, j, hc, step, t, hstep, ht, hexecuted, hover⟩
    have hi := (List.getElem?_eq_some_iff.mp hc).1
    rw [hlength] at hi
    obtain ⟨houtcome, -⟩ := executeCases_at (r := r) (s := s) hc (r.start page)
    rw [List.take_take, Nat.min_eq_left (Nat.le_of_lt hi)] at hover houtcome ht
    rw [List.getElem?_take_of_lt hi] at hc
    refine ⟨i, c, j, step, t, ⟨hc, hstep, ?_, hexecuted⟩, hover⟩
    rw [hcases, List.getElem?_map, houtcome]
    exact ht
  · rintro ⟨i, c, j, step, t, h, hover⟩
    obtain ⟨report, hreport, ht⟩ := Option.bind_eq_some_iff.mp h.report
    obtain ⟨hcase, -⟩ := runCase_of_report h.case hreport
    have hi := (List.getElem?_eq_some_iff.mp hreport).1
    refine ⟨i, c, j, ?_, step, t, h.step, ?_, h.executed, ?_⟩
    · rw [List.getElem?_take_of_lt hi, h.case]
    all_goals rw [List.take_take, Nat.min_eq_left (Nat.le_of_lt hi)]
    · rw [← hcase] at ht
      exact ht
    · exact hover

end Runner

end PlainSteps
