import PlainSteps.Proofs.Cancellation
import PlainSteps.Regex.Builtin

/-!
# Stopping at the first failure

`Runner.withFailFast` is a runner that stops at the first failed step, or one that never does. The
main statement is `run_withFailFast`: as long as nobody calls for the end of the run, what stopping
does to a report is to cut it off behind the first failed step.
-/

namespace PlainSteps

open Run

variable {σ : Type}

namespace Run

theorem performAll_failFast [Regex.Engine] (b : Backend σ) (o : Options) (failFast : Bool)
    (at_ : Place) (cs : List Command) (w : World σ) :
    performAll b { o with failFast } at_ cs w = performAll b o at_ cs w := by
  induction cs generalizing w with
  | nil => rfl
  | cons c cs ih =>
      have hperform : perform b { o with failFast } at_ w.values c = perform b o at_ w.values c :=
        rfl
      simp only [performAll, hperform, ih]

/-- Carrying out a step does not depend on what happens behind it. -/
theorem performStep_failFast [Regex.Engine] (b : Backend σ) (o : Options) (failFast : Bool)
    (tagger : Sentence.Tagger) (at_ : Place) (step : Suite.Step) (w : World σ) :
    performStep b { o with failFast } tagger at_ step w = performStep b o tagger at_ step w := by
  cases step with
  | navigation url title => rfl
  | sentence | command => simp only [performStep, performAll_failFast]

/-- The report of the same step if it never runs. -/
def StepReport.unrun (t : StepReport) : StepReport :=
  { index := t.index, text := t.text, skipped := true }

end Run

namespace Runner

def withFailFast (r : Runner σ) (failFast : Bool) : Runner σ :=
  { r with options := { r.options with failFast } }

variable [Regex.Engine] (r : Runner σ) (s : Suite)

theorem runStep_withFailFast (failFast : Bool) (c : Suite.Case) (index : Nat) (step : Suite.Step)
    (p : Progress σ) :
    (r.withFailFast failFast).runStep s c index step p = r.runStep s c index step p := by
  have houtcome (w : World σ) :
      (r.withFailFast failFast).outcome s c index step w = r.outcome s c index step w :=
    performStep_failFast r.backend r.options failFast r.tagger _ step w
  rw [runStep_eq, runStep_eq, houtcome]

theorem execute_withFailFast (failFast : Bool) (c : Suite.Case) (index : Nat)
    (steps : List Suite.Step) (p : Progress σ) :
    (r.withFailFast failFast).execute s c index steps p = r.execute s c index steps p := by
  induction steps generalizing index p with
  | nil => rfl
  | cons step rest ih => simp only [execute, runStep_withFailFast, ih]

theorem map_unrun_execute (c : Suite.Case) (index : Nat) (steps : List Suite.Step)
    (p : Progress σ) :
    (r.execute s c index steps p).1.map StepReport.unrun = skipAll index steps := by
  induction steps generalizing index p with
  | nil => rfl
  | cons step rest ih => exact congrArg (List.cons _) (ih (index + 1) _)

/-! ## Cases -/

/-- Ends a case of which `done` is executed and `rest` is skipped. -/
def conclude (c : Suite.Case) (done rest : List Suite.Step) (p : Progress σ) :
    CaseReport × Progress σ :=
  let (ts, q) := r.enter s c done p
  let (resetError, q) := r.resetPage q
  let report : CaseReport := ⟨c.name, ts ++ skipAll done.length rest, resetError, 0⟩
  (report, q.record (.caseFinished c.name report.passed))

theorem conclude_withFailFast (failFast : Bool) (c : Suite.Case) (done rest : List Suite.Step)
    (p : Progress σ) :
    (r.withFailFast failFast).conclude s c done rest p = r.conclude s c done rest p := by
  unfold conclude enter
  rw [execute_withFailFast]
  rfl

theorem exists_uncalled (huncalled : r.cancelAfter = none) (c : Suite.Case) (p : Progress σ) :
    ∃ done rest, c.steps = done ++ rest ∧
      r.runCase s c p =
        (((r.conclude s c done rest p).1, false), (r.conclude s c done rest p).2) ∧
      ((∀ t ∈ (r.enter s c done p).1, r.Tolerates t) ∧ rest = [] ∨
        ∃ init t, (r.enter s c done p).1 = init ++ [t] ∧ (∀ u ∈ init, r.Tolerates u) ∧
          ¬ r.Tolerates t) := by
  have hnone (p' : Progress σ) : r.isCancelled p' = false := by
    unfold isCancelled
    rw [huncalled]
    rfl
  obtain ⟨done, rest, stop, q, h⟩ := r.exists_course s c p
  have hcancelled := h.cancelled
  rw [hnone, Bool.and_false] at hcancelled
  have hcase (hq : q = (r.enter s c done p).2) : r.runCase s c p =
      (((r.conclude s c done rest p).1, false), (r.conclude s c done rest p).2) := by
    subst hq
    refine Prod.ext (Prod.ext h.report hcancelled) ?_
    rw [h.progress, h.report]
    rfl
  refine ⟨done, rest, h.steps, ?_⟩
  cases h.ending with
  | finished hall => exact ⟨hcase rfl, .inl ⟨hall, rfl⟩⟩
  | failed heq hinit hlast => exact ⟨hcase rfl, .inr ⟨_, _, heq, hinit, hlast⟩⟩
  | cancelled _ hcalled =>
      rw [hnone] at hcalled
      exact nomatch hcalled

/-- A runner that tolerates failures executes all steps of a case. -/
theorem runCase_of_tolerant (huncalled : r.cancelAfter = none) (hfast : r.options.failFast = false)
    (c : Suite.Case) (p : Progress σ) :
    r.runCase s c p =
      (((r.conclude s c c.steps [] p).1, false), (r.conclude s c c.steps [] p).2) := by
  obtain ⟨done, rest, hsteps, hcase, ⟨-, rfl⟩ | ⟨init, t, -, -, hlast⟩⟩ :=
    r.exists_uncalled s huncalled c p
  · rw [List.append_nil] at hsteps
    rw [hcase, hsteps]
  · exact absurd (.inr hfast) hlast

end Runner

/-- The report `f` of a case is the report `n` up to the first step that did not pass. -/
structure Run.CaseReport.Truncates (f n : CaseReport) : Prop where
  name : f.name = n.name
  eq : (∀ t ∈ n.steps, t.passed) → f = n
  steps : ∀ j, n.steps.findIdx? (!·.passed) = some j →
    f.steps = n.steps.take (j + 1) ++ (n.steps.drop (j + 1)).map StepReport.unrun

namespace Run

theorem findIdx?_of_passed {ts : List StepReport} (h : ∀ t ∈ ts, t.passed) :
    ts.findIdx? (!·.passed) = none := by
  rw [List.findIdx?_eq_none_iff]
  intro t ht
  rw [h t ht]
  rfl

theorem findIdx?_of_failed {init tail : List StepReport} {t : StepReport}
    (hinit : ∀ u ∈ init, u.passed) (ht : ¬ t.passed) :
    (init ++ t :: tail).findIdx? (!·.passed) = some init.length := by
  rw [Bool.not_eq_true] at ht
  rw [List.findIdx?_append, findIdx?_of_passed hinit, List.findIdx?_cons, ht]
  simp

namespace CaseReport

theorem truncates_self {n : CaseReport} (h : ∀ t ∈ n.steps, t.passed) : n.Truncates n := by
  refine ⟨rfl, fun _ => rfl, fun j hj => ?_⟩
  rw [findIdx?_of_passed h] at hj
  exact nomatch hj

theorem truncates_of_append {f n : CaseReport} {init tail : List StepReport} {t : StepReport}
    (hname : f.name = n.name) (hn : n.steps = init ++ [t] ++ tail)
    (hf : f.steps = init ++ [t] ++ tail.map StepReport.unrun) (hinit : ∀ u ∈ init, u.passed)
    (ht : ¬ t.passed) : f.Truncates n := by
  have hmem : t ∈ n.steps := by
    rw [hn]
    exact List.mem_append_left _ (List.mem_append_right _ (List.mem_singleton_self _))
  refine ⟨hname, fun hall => absurd (hall t hmem) ht, fun j hj => ?_⟩
  rw [hn, List.append_assoc, List.singleton_append, findIdx?_of_failed hinit ht] at hj
  obtain rfl := Option.some.inj hj
  have hlength : (init ++ [t]).length = init.length + 1 := List.length_append
  rw [hn, hf, List.take_left' hlength, List.drop_left' hlength]

/-- A report that is cut off holds the step that did not pass. -/
theorem Truncates.passed {f n : CaseReport} (h : f.Truncates n) (hf : f.passed) : n.passed := by
  have hall : ∀ t ∈ n.steps, t.passed := by
    by_contra hfailed
    cases hj : n.steps.findIdx? (!·.passed) with
    | none =>
        rw [List.findIdx?_eq_none_iff] at hj
        exact hfailed fun t ht => by simpa using hj t ht
    | some j =>
        obtain ⟨hlt, hbad, -⟩ := List.findIdx?_eq_some_iff_getElem.mp hj
        have hmem : n.steps[j] ∈ f.steps := by
          rw [h.steps j hj, List.take_succ_eq_append_getElem hlt]
          exact List.mem_append_left _ (List.mem_append_right _ (List.mem_singleton_self _))
        rw [(passed_iff.mp hf).2 _ hmem] at hbad
        exact nomatch hbad
  rw [← h.eq hall]
  exact hf

end CaseReport

end Run

namespace Runner

section

variable [Regex.Engine] (r : Runner σ) (s : Suite)

theorem enter_append (c : Suite.Case) (done rest : List Suite.Step) (p : Progress σ) :
    (r.enter s c (done ++ rest) p).1 = (r.enter s c done p).1 ++
      (r.execute s c done.length rest (r.enter s c done p).2).1 := by
  unfold enter
  rw [execute_append, Nat.zero_add]

/-- A case that passes is run alike whether a failure would stop it or not. -/
theorem runCase_withFailFast (huncalled : r.cancelAfter = none) (c : Suite.Case)
    (p : Progress σ) :
    let n := (r.withFailFast false).runCase s c p
    let f := (r.withFailFast true).runCase s c p
    n.1.2 = false ∧ ((∀ t ∈ n.1.1.steps, t.passed) → f = n) ∧ f.1.1.Truncates n.1.1 := by
  intro n f
  have hn : n = _ := (r.withFailFast false).runCase_of_tolerant s huncalled rfl c p
  obtain ⟨done, rest, hsteps, hf', hend⟩ := (r.withFailFast true).exists_uncalled s huncalled c p
  have hf : f = _ := hf'
  have henter : (r.withFailFast true).enter s c done p = r.enter s c done p :=
    r.execute_withFailFast s true c 0 done _
  have htolerates (t : StepReport) : (r.withFailFast true).Tolerates t ↔ t.passed :=
    or_iff_left (nofun : ¬ true = false)
  rw [conclude_withFailFast, hsteps] at hn
  rw [conclude_withFailFast] at hf
  simp only [henter, htolerates] at hend
  rw [hn, hf]
  refine ⟨rfl, ?_⟩
  obtain ⟨hall, rfl⟩ | ⟨init, t, hts, hinit, ht⟩ := hend
  · rw [List.append_nil]
    refine ⟨fun _ => rfl, Run.CaseReport.truncates_self fun t ht => hall t ?_⟩
    simpa [conclude, skipAll] using ht
  · -- The tail that a failure skips is one that is otherwise executed, step by step.
    let tail := (r.execute s c done.length rest (r.enter s c done p).2).1
    have hnsteps : (r.conclude s c (done ++ rest) [] p).1.steps = init ++ [t] ++ tail := by
      simp [conclude, skipAll, enter_append, hts, tail]
    have hfsteps : (r.conclude s c done rest p).1.steps =
        init ++ [t] ++ tail.map StepReport.unrun := by
      simp [conclude, hts, tail, map_unrun_execute]
    refine ⟨fun hall => absurd (hall t ?_) ht, ?_⟩
    · rw [hnsteps]
      exact List.mem_append_left _ (List.mem_append_right _ (List.mem_singleton_self _))
    · exact Run.CaseReport.truncates_of_append rfl hnsteps hfsteps hinit ht

/-! ## Runs -/

theorem runCases_withFailFast (huncalled : r.cancelAfter = none) (cases : List Suite.Case)
    (p : Progress σ) :
    let n := ((r.withFailFast false).runCases s cases p).1
    let f := ((r.withFailFast true).runCases s cases p).1
    ((∀ c ∈ n.cases, c.passed) → f = n) ∧
      ∀ k, n.cases.findIdx? (!·.passed) = some k → ∃ c c', n.cases[k]? = some c ∧
        f.cases = n.cases.take k ++ [c'] ∧ c'.Truncates c := by
  induction cases generalizing p with
  | nil => exact ⟨fun _ => rfl, fun k hk => nomatch hk⟩
  | cons c rest ih =>
      obtain ⟨hn, heq, htruncates⟩ := r.runCase_withFailFast s huncalled c p
      have hgo : (r.withFailFast false).GoesOn ((r.withFailFast false).runCase s c p).1 :=
        ⟨hn, .inr rfl⟩
      rw [runCases_of_goesOn _ s hgo]
      by_cases hpassed : ((r.withFailFast false).runCase s c p).1.1.passed
      · -- Both runs leave the same progress behind a case that passes.
        have hsame := heq (CaseReport.passed_iff.mp hpassed).2
        have hgo' : (r.withFailFast true).GoesOn ((r.withFailFast true).runCase s c p).1 := by
          rw [hsame]
          exact ⟨hn, .inl hpassed⟩
        obtain ⟨hall, hfirst⟩ := ih ((r.withFailFast false).runCase s c p).2
        rw [runCases_of_goesOn _ s hgo', hsame]
        refine ⟨fun h => ?_, fun k hk => ?_⟩
        · rw [hall (List.forall_mem_cons.mp h).2]
        · rw [List.findIdx?_cons, hpassed, if_neg (nofun : ¬ (!true) = true)] at hk
          obtain ⟨k, hfirst', rfl⟩ := Option.map_eq_some_iff.mp hk
          obtain ⟨d, d', hd, hrest, htruncates⟩ := hfirst k hfirst'
          refine ⟨d, d', hd, ?_, htruncates⟩
          rw [hrest]
          rfl
      · have hstop : ¬ (r.withFailFast true).GoesOn ((r.withFailFast true).runCase s c p).1 := by
          rintro ⟨-, hgo | hgo⟩
          · exact hpassed (htruncates.passed hgo)
          · exact nomatch hgo
        rw [runCases_of_not_goesOn _ s hstop]
        refine ⟨fun h => absurd (List.forall_mem_cons.mp h).1 hpassed, fun k hk => ?_⟩
        rw [Bool.not_eq_true] at hpassed
        rw [List.findIdx?_cons, hpassed] at hk
        obtain rfl := Option.some.inj hk
        exact ⟨_, _, rfl, rfl, htruncates⟩

/-- If nobody calls for the end of a run, then the report of a run that stops at the first failure
is the report of one that does not, up to the first case that did not pass, and of that case up to
the first step that did not. -/
theorem run_withFailFast (huncalled : r.cancelAfter = none) (page : σ) :
    let report := ((r.withFailFast false).run s page).1
    let strict := ((r.withFailFast true).run s page).1
    ((∀ c ∈ report.cases, c.passed) → strict = report) ∧
      ∀ k, report.cases.findIdx? (!·.passed) = some k → ∃ c c', report.cases[k]? = some c ∧
        strict.cases = report.cases.take k ++ [c'] ∧ c'.Truncates c :=
  r.runCases_withFailFast s huncalled s.cases (r.start page)

end

/-- The second step of the second case fails. -/
def missingSecond : Suite :=
  { cases := [{ name := "t", steps := [Executed.sentenceStep] },
      { name := "u", steps := [Executed.sentenceStep, clickMissing, Executed.sentenceStep] },
      { name := "v", steps := [Executed.sentenceStep] }] }

open Regex.Builtin

theorem run_withFailFast_missing :
    let n := ((hasty.withFailFast false).run missingSecond savePage).1
    let f := ((hasty.withFailFast true).run missingSecond savePage).1
    n.cases.map (·.steps.map (·.passed)) = [[true], [true, false, true], [true]] ∧
      ∃ c c', n.cases[1]? = some c ∧ f.cases = n.cases.take 1 ++ [c'] ∧ c'.Truncates c := by
  intro n f
  have hfirst : n.cases.findIdx? (!·.passed) = some 1 := by decide +kernel
  exact ⟨by decide +kernel, (run_withFailFast hasty missingSecond rfl savePage).2 1 hfirst⟩

end Runner

end PlainSteps
