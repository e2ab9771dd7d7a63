import Mathlib
import PlainSteps.Proofs.Fitness
import PlainSteps.Proofs.Reporting
import PlainSteps.Regex.Builtin
import PlainSteps.Suite.Review

/-!
# Reviews and runs

A review lists the steps that are no sentences, in file order (`Suite.covers_review`). A run that
reads sentences as a review does gives up just these steps, each before its first command, and
counts the commands of every other as the review does. The main statement is
`Runner.review_agrees`.
-/

namespace PlainSteps

open Run

variable {σ : Type}

namespace Suite

variable [Regex.Engine]

/-! ## Reviews -/

/-- What is wrong with the sentence of a step. -/
def Step.issue? (case : Text) (index : Nat) (step : Step) : Option Issue :=
  match step.commands .standard with
  | .ok _ => none
  | .error fault => some ⟨case, index, step.describe, fault.message⟩

theorem Step.issue?_eq_some {case : Text} {index : Nat} {step : Step} {issue : Issue}
    (h : step.issue? case index = some issue) :
    ∃ fault, step.commands .standard = .error fault ∧
      issue = ⟨case, index, step.describe, fault.message⟩ := by
  unfold Step.issue? at h
  split at h
  · cases h
  · next fault hcommands => exact ⟨fault, hcommands, (Option.some.inj h).symm⟩

/-- What a review says of a step. -/
structure Step.Reviewed (index : Nat) (step : Step) (t : ReviewedStep) : Prop where
  index : t.index = index
  text : t.text = step.describe
  commands : t.error = none → step.commands .standard = .ok t.commands
  error : ∀ message, t.error = some message →
    t.commands = [] ∧ ∃ fault, step.commands .standard = .error fault ∧
      fault.message = message

theorem Step.reviewed (index : Nat) (step : Step) : step.Reviewed index (step.review index) := by
  unfold Step.review
  cases hcommands : step.commands .standard with
  | ok commands => exact ⟨rfl, rfl, fun _ => hcommands, nofun⟩
  | error fault =>
      refine ⟨rfl, rfl, nofun, fun message hmessage => ⟨rfl, fault, hcommands, ?_⟩⟩
      exact Option.some.inj hmessage

/-- What a review holds of a case. -/
def Case.review (c : Case) : ReviewedCase where
  name := c.name
  steps := c.steps.zipIdx.map fun (s, i) => s.review i

def ReviewedCase.issues (c : ReviewedCase) : List Issue := c.steps.filterMap (·.issue? c.name)

theorem Case.issues_review (c : Case) : c.review.issues =
    c.steps.zipIdx.filterMap fun (step, j) => step.issue? c.name j := by
  rw [ReviewedCase.issues, Case.review, List.filterMap_map]
  refine List.filterMap_congr fun (step, j) _ => ?_
  simp only [Function.comp_apply, Step.review, Step.issue?]
  cases step.commands .standard <;> rfl

theorem Case.mem_issues_review {c : Case} {j : Nat} {step : Step} (h : c.steps[j]? = some step)
    {issue : Issue} :
    issue ∈ c.review.issues ∧ issue.step = j ↔ step.issue? c.name j = some issue := by
  rw [Case.issues_review, List.mem_filterMap]
  constructor
  · rintro ⟨⟨⟨other, k⟩, hmem, hissue⟩, rfl⟩
    obtain ⟨fault, -, rfl⟩ := Step.issue?_eq_some hissue
    have hother := List.mem_zipIdx_iff_getElem?.mp hmem
    obtain rfl : other = step := Option.some.inj (hother.symm.trans h)
    exact hissue
  · intro hissue
    obtain ⟨fault, -, rfl⟩ := Step.issue?_eq_some hissue
    exact ⟨⟨(step, j), List.mem_zipIdx_iff_getElem?.mpr h, hissue⟩, rfl⟩

namespace Review

/-- Reading the steps of a case counts each of them, in order. -/
theorem readSteps_eq (case : Text) (index : Nat) (steps : List Step) (r : Review) :
    readSteps case index steps r =
      ((steps.zipIdx index).map fun (s, i) => s.review i,
        ((steps.zipIdx index).map fun (s, i) => s.review i).foldl (·.count case) r) := by
  induction steps generalizing index r with
  | nil => rfl
  | cons step rest ih => rw [readSteps, ih, List.zipIdx_cons, List.map_cons, List.foldl_cons]

omit [Regex.Engine] in
theorem foldl_count (case : Text) (steps : List ReviewedStep) (r : Review) :
    steps.foldl (·.count case) r =
      { r with
        stepCount := r.stepCount + steps.length
        commandCount := r.commandCount + (steps.map (·.commands.length)).sum
        issues := r.issues ++ steps.filterMap (·.issue? case) } := by
  induction steps generalizing r with
  | nil => simp
  | cons step rest ih =>
      rw [List.foldl_cons, ih, count]
      have hsteps : r.stepCount + 1 + rest.length = r.stepCount + (rest.length + 1) := by omega
      cases hissue : step.issue? case <;>
        simp only [hissue, hsteps, List.length_cons, List.map_cons, List.sum_cons, Nat.add_assoc,
          List.filterMap_cons, Option.toList_none, Option.toList_some, List.append_nil,
          List.append_assoc, List.singleton_append]

/-- What has been counted is what the cases hold. -/
structure Sums (r : Review) : Prop where
  stepCount : r.stepCount = (r.cases.map (·.steps.length)).sum
  commandCount : r.commandCount =
    (r.cases.map fun c => (c.steps.map (·.commands.length)).sum).sum
  issues : r.issues = r.cases.flatMap ReviewedCase.issues

/-- The review behind one more case. -/
def add (r : Review) (c : Case) : Review :=
  let (steps, r) := readSteps c.name 0 c.steps r
  { r with cases := r.cases ++ [⟨c.name, steps⟩] }

theorem add_eq (r : Review) (c : Case) : r.add c =
    { cases := r.cases ++ [c.review]
      stepCount := r.stepCount + c.review.steps.length
      commandCount := r.commandCount + (c.review.steps.map (·.commands.length)).sum
      issues := r.issues ++ c.review.issues } := by
  rw [add, readSteps_eq, foldl_count]
  rfl

theorem Sums.add {r : Review} (h : r.Sums) (c : Case) : (r.add c).Sums := by
  rw [add_eq]
  constructor
  · simp only [h.stepCount, List.map_append, List.sum_append, List.map_cons, List.map_nil,
      List.sum_singleton]
  · simp only [h.commandCount, List.map_append, List.sum_append, List.map_cons, List.map_nil,
      List.sum_singleton]
  · simp only [h.issues, List.flatMap_append, List.flatMap_singleton]

theorem Sums.readCases {r : Review} (h : r.Sums) (cases : List Case) :
    (readCases cases r).Sums := by
  induction cases generalizing r with
  | nil => exact h
  | cons c rest ih => exact ih (h.add c)

theorem cases_readCases (cases : List Case) (r : Review) :
    (readCases cases r).cases = r.cases ++ cases.map Case.review := by
  induction cases generalizing r with
  | nil => exact (List.append_nil _).symm
  | cons c rest ih =>
      have hrest : readCases (c :: rest) r = readCases rest (r.add c) := rfl
      rw [hrest, ih, add_eq, List.append_assoc]
      rfl

end Review

theorem sums_review (s : Suite) : s.review.Sums :=
  Review.Sums.readCases ⟨rfl, rfl, rfl⟩ s.cases

theorem cases_review (s : Suite) : s.review.cases = s.cases.map Case.review :=
  Review.cases_readCases s.cases {}

theorem issues_review (s : Suite) : s.review.issues = s.cases.flatMap (·.review.issues) := by
  rw [s.sums_review.issues, cases_review, List.flatMap_map]

/-- A review speaks of every case and of every step, and lists what is wrong in file order. -/
structure Review.Covers (s : Suite) (r : Review) : Prop where
  cases : List.Forall₂ (fun c reviewed => reviewed.name = c.name ∧
    List.Forall₂ (fun (step, j) t => step.Reviewed j t) c.steps.zipIdx reviewed.steps)
    s.cases r.cases
  stepCount : r.stepCount = (r.cases.map (·.steps.length)).sum
  commandCount : r.commandCount =
    (r.cases.map fun c => (c.steps.map (·.commands.length)).sum).sum
  issues : r.issues =
    s.cases.flatMap fun c => c.steps.zipIdx.filterMap fun (step, j) => step.issue? c.name j

theorem covers_review (s : Suite) : s.review.Covers s := by
  refine ⟨?_, s.sums_review.stepCount, s.sums_review.commandCount, ?_⟩
  · rw [cases_review, List.forall₂_map_right_iff, List.forall₂_same]
    intro c _
    refine ⟨rfl, ?_⟩
    rw [Case.review, List.forall₂_map_right_iff, List.forall₂_same]
    exact fun (step, j) _ => step.reviewed j
  · rw [issues_review]
    exact List.flatMap_congr fun c _ => c.issues_review

/-! ## Names -/

/-- In a suite that is fit to run an issue belongs to the case that it names. -/
theorem mem_issues_of_name {s : Suite} (h : s.fault? = none) {c : Case} (hc : c ∈ s.cases)
    {issue : Issue} (hissue : issue ∈ s.review.issues) (hname : issue.case = c.name) :
    issue ∈ c.review.issues := by
  rw [issues_review] at hissue
  obtain ⟨d, hd, hissue⟩ := List.mem_flatMap.mp hissue
  have hcase : issue.case = d.name := by
    rw [d.issues_review] at hissue
    obtain ⟨⟨step, j⟩, -, hissue⟩ := List.mem_filterMap.mp hissue
    obtain ⟨fault, -, rfl⟩ := Step.issue?_eq_some hissue
    rfl
  obtain rfl : d = c :=
    List.inj_on_of_nodup_map (s.fault?_eq_none_iff.mp h).distinct hd hc (hcase.symm.trans hname)
  exact hissue

end Suite

namespace Runner

/-! ## Runs -/

section

variable [Regex.Engine]

/-- The run gives the step up before its first command, and has no more to tell of it. -/
structure Declines (r : Runner σ) (s : Suite) (page : σ) (i : Nat) (c : Suite.Case) (j : Nat)
    (step : Suite.Step) (t : StepReport) (message : Text) : Prop where
  report : t = { index := j, text := step.describe, error := some message }
  events : Event.ofStep i j (r.run s page).2.events = [.stepError c.name j message]
  world : (r.progressAt s page i c (j + 1)).world = (r.progressAt s page i c j).world
  /-- Before every other backend, too, the step does just this, so that it calls none. -/
  uncalled : ∃ fault : Sentence.Fault, fault.message = message ∧
    ∀ (τ : Type) (b : Backend τ) (w : World τ),
      performStep b r.options r.tagger (place s c j step) step w =
        ({ failure := some (.sentence fault) }, w)

/-- The run attempts the commands `commands` in the step. If the step ends early, then not for its
sentence, unless the backend itself fails so. -/
structure Attempts (r : Runner σ) (s : Suite) (page : σ) (i : Nat) (c : Suite.Case) (j : Nat)
    (step : Suite.Step) (t : StepReport) (commands : List Command) : Prop where
  commands : t.commands = commands.length
  error : ∃ failure, (r.outcome s c j step (r.progressAt s page i c j).world).1.failure = failure ∧
    t.error = failure.map Failure.message ∧
    ∀ fault, failure = some (.sentence fault) → r.backend.CanRaise (.sentence fault)

variable {r : Runner σ} {s : Suite} {page : σ} {i j : Nat} {c : Suite.Case} {step : Suite.Step}
  {t : StepReport}

/-- Before a backend that fails as one alone, no step ends early for a sentence that can be read. -/
theorem Attempts.ne_sentence {commands : List Command}
    (h : r.Attempts s page i c j step t commands) (hb : r.backend.Reports)
    (fault : Sentence.Fault) :
    (r.outcome s c j step (r.progressAt s page i c j).world).1.failure ≠
      some (.sentence fault) := by
  intro hfailure
  obtain ⟨failure, rfl, -, hraised⟩ := h.error
  obtain ⟨message, hmessage⟩ := hb _ (hraised fault hfailure)
  cases hmessage

theorem performStep_of_commands_error {τ : Type} {b : Backend τ} {o : Options}
    {tagger : Sentence.Tagger} {at_ : Place} {w : World τ} {fault : Sentence.Fault}
    (h : step.commands tagger = .error fault) :
    performStep b o tagger at_ step w = ({ failure := some (.sentence fault) }, w) := by
  cases step with
  | navigation => cases h
  | sentence | command => exact performStep_of_fault rfl h

theorem Executed.declines (h : r.Executed s page i c j step t) {fault : Sentence.Fault}
    (hfault : step.commands r.tagger = .error fault) :
    r.Declines s page i c j step t fault.message := by
  obtain ⟨ht, hworld, hevents⟩ := h.eq_outcome
  rw [outcome, performStep_of_commands_error hfault] at ht hworld hevents
  exact ⟨ht, hevents, hworld, fault, rfl, fun _ _ _ => performStep_of_commands_error hfault⟩

theorem Executed.attempts (h : r.Executed s page i c j step t) {commands : List Command}
    (hcommands : step.commands r.tagger = .ok commands) :
    r.Attempts s page i c j step t commands := by
  obtain ⟨ht, -, -⟩ := h.eq_outcome
  refine ⟨?_, _, rfl, congrArg StepReport.error ht, fun fault hfault => ?_⟩
  · rw [ht, outcome]
    cases step with
    | sentence | command => rw [performStep_of_parse rfl hcommands]; rfl
    | navigation url title =>
        obtain rfl : [] = commands := Except.ok.inj hcommands
        obtain ⟨f, hfound⟩ | ⟨-, hfound⟩ | ⟨-, hfound⟩ | ⟨f, -, hfound, -⟩ :=
          performStep_navigation r.backend r.options r.tagger (place s c j (.navigation url title))
            (r.progressAt s page i c j).world url title <;> rw [hfound] <;> rfl
  · exact performStep_sentence_failure _ _ _ _ _ _ hcommands hfault

/-- Before a backend that fails as one alone, a step ends early for its sentence exactly if that
cannot be read. -/
theorem Executed.failure_eq_sentence_iff (h : r.Executed s page i c j step t)
    (hb : r.backend.Reports) {fault : Sentence.Fault} :
    (r.outcome s c j step (r.progressAt s page i c j).world).1.failure = some (.sentence fault) ↔
      step.commands r.tagger = .error fault := by
  cases hcommands : step.commands r.tagger with
  | ok commands => exact iff_of_false ((h.attempts hcommands).ne_sentence hb fault) nofun
  | error fault' =>
      rw [outcome, performStep_of_commands_error hcommands]
      simp

/-- On pages in memory, too, no step ends early for a sentence that can be read. -/
theorem Executed.failure_eq_sentence_iff_of_page {r : Runner Page} {page : Page}
    (hr : r.backend = Page.backend) (h : r.Executed s page i c j step t)
    {fault : Sentence.Fault} :
    (r.outcome s c j step (r.progressAt s page i c j).world).1.failure = some (.sentence fault) ↔
      step.commands r.tagger = .error fault :=
  h.failure_eq_sentence_iff (hr ▸ Page.reports_backend)

/-- A script before a page in memory makes no difference to that. -/
theorem Executed.failure_eq_sentence_iff_of_script {r : Runner (Scripted Page)}
    {page : Scripted Page} (hr : r.backend = Scripted.backend Page.backend)
    (h : r.Executed s page i c j step t) {fault : Sentence.Fault} :
    (r.outcome s c j step (r.progressAt s page i c j).world).1.failure = some (.sentence fault) ↔
      step.commands r.tagger = .error fault :=
  h.failure_eq_sentence_iff (hr ▸ Scripted.reports_backend Page.reports_backend)

/-- A review speaks of every step, and tells what comes of it in a run that reads sentences as the
review does. A step that it finds an issue with is given up with the message of the issue, before
any call on the backend. Every other step attempts the commands that the review counts. -/
theorem review_agrees (r : Runner σ) (htagger : r.tagger = .standard) (s : Suite)
    (page : σ) :
    s.review.Covers s ∧
    ∀ i c j step t, r.Executed s page i c j step t →
      ∃ reviewed u, s.review.cases[i]? = some reviewed ∧ reviewed.steps[j]? = some u ∧
        (s.fault? = none →
          ∀ issue ∈ s.review.issues, issue.case = c.name → issue ∈ reviewed.issues) ∧
        (∀ issue ∈ reviewed.issues, issue.step = j →
          r.Declines s page i c j step t issue.message) ∧
        ((∀ issue ∈ reviewed.issues, issue.step ≠ j) →
          r.Attempts s page i c j step t u.commands) := by
  refine ⟨s.covers_review, fun i c j step t h => ⟨c.review, step.review j, ?_, ?_, ?_, ?_, ?_⟩⟩
  · rw [Suite.cases_review, List.getElem?_map, h.case]
    rfl
  · rw [Suite.Case.review, List.getElem?_map, List.getElem?_zipIdx, h.step]
    simp
  · intro hfault issue hissue hname
    exact Suite.mem_issues_of_name hfault (List.mem_of_getElem? h.case) hissue hname
  · intro issue hissue hj
    obtain ⟨fault, hfault, rfl⟩ :=
      Suite.Step.issue?_eq_some ((Suite.Case.mem_issues_review h.step).mp ⟨hissue, hj⟩)
    rw [← htagger] at hfault
    exact h.declines hfault
  · intro hnone
    have hreviewed := step.reviewed j
    have herror : (step.review j).error = none := by
      rw [Option.eq_none_iff_forall_ne_some]
      intro message hmessage
      obtain ⟨-, fault, hfault, -⟩ := hreviewed.error message hmessage
      have hissue : step.issue? c.name j = some ⟨c.name, j, step.describe, fault.message⟩ := by
        rw [Suite.Step.issue?, hfault]
      obtain ⟨hmem, -⟩ := (Suite.Case.mem_issues_review h.step).mpr hissue
      exact hnone _ hmem rfl
    have hcommands := hreviewed.commands herror
    rw [← htagger] at hcommands
    exact h.attempts hcommands

end

def halfStep : Suite.Step := .sentence "Click \"Save\" button, frob \"X\" link."

open Regex.Builtin

/-- A step whose first clause could be carried out, and whose second is none, is not begun. -/
theorem review_agrees_halfStep :
    let c : Suite.Case := { name := "t", steps := [halfStep] }
    let message : Text := "Unknown action \"frob\" in \"frob \"X\" link.\""
    let t : StepReport := { index := 0, text := halfStep.describe, error := some message }
    hasty.tagger = .standard ∧ hasty.Executed (only halfStep) savePage 0 c 0 halfStep t ∧
      hasty.Declines (only halfStep) savePage 0 c 0 halfStep t message := by
  intro c message t
  have h : hasty.Executed (only halfStep) savePage 0 c 0 halfStep t :=
    ⟨rfl, rfl, by decide +kernel, rfl⟩
  obtain ⟨reviewed, u, hreviewed, -, -, hdeclines, -⟩ :=
    (review_agrees hasty rfl (only halfStep) savePage).2 0 c 0 halfStep t h
  obtain rfl : c.review = reviewed := Option.some.inj hreviewed
  have hissue : (⟨"t", 0, halfStep.describe, message⟩ : Suite.Issue) ∈ c.review.issues := by
    decide +kernel
  exact ⟨rfl, h, hdeclines _ hissue rfl⟩

end Runner

end PlainSteps
