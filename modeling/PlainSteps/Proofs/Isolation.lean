import PlainSteps.Proofs.Reloading
import PlainSteps.Proofs.Truncation
import PlainSteps.Regex.Builtin

/-!
# Cases that do not hear of each other

What a step finds depends on the page up to the calls made on it, and on the variables. Where no
step stores a variable and the page is reloaded behind every case, each case begins in a world that
it cannot tell from the first one. The main statement is `run_isolated`: such a run reports of each
of its cases what a run of that case alone does.
-/

namespace PlainSteps

open Run

variable {σ : Type}

/-! ## Variables -/

/-- The step holds a command that stores a variable. -/
def Suite.Step.stores [Regex.Engine] (tagger : Sentence.Tagger) (step : Suite.Step) : Bool :=
  match step.commands tagger with
  | .ok commands => commands.any (·.action = .store)
  | .error _ => false

def Suite.Case.stores [Regex.Engine] (tagger : Sentence.Tagger) (c : Suite.Case) : Bool :=
  c.steps.any (·.stores tagger)

def Suite.stores [Regex.Engine] (tagger : Sentence.Tagger) (s : Suite) : Bool :=
  s.cases.any (·.stores tagger)

namespace Run

theorem Finding.Fits.update_eq {at_ : Place} {c : Command} {found : Finding}
    (h : found.Fits at_ c) (hc : c.action ≠ .store) (vs : Variables) : found.update vs = vs := by
  cases found with
  | stored name value => exact absurd h.1 hc
  | _ => rfl

theorem values_performAll [Regex.Engine] (b : Backend σ) (o : Options) (at_ : Place)
    {cs : List Command} (hcs : ∀ c ∈ cs, c.action ≠ .store) (w : World σ) :
    (performAll b o at_ cs w).2.values = w.values := by
  induction cs generalizing w with
  | nil => rfl
  | cons c cs ih =>
      obtain ⟨hc, hcs⟩ := List.forall_mem_cons.mp hcs
      cases hperform : (perform b o at_ w.values c).run.run w.page with
      | mk result page =>
          cases result with
          | error f => simp only [performAll, hperform]
          | ok found =>
              have hfits : found.Fits at_ c := fits_perform hperform
              simp only [performAll, hperform, ih hcs]
              exact hfits.update_eq hc w.values

theorem values_performStep [Regex.Engine] (b : Backend σ) (o : Options) {tagger : Sentence.Tagger}
    (at_ : Place) {step : Suite.Step} (hstep : step.stores tagger = false) (w : World σ) :
    (performStep b o tagger at_ step w).2.values = w.values := by
  cases step with
  | navigation url title =>
      simp only [performStep]
      cases (navigate b o at_ url title).run.run w.page with
      | mk result page => cases result <;> rfl
  | sentence | command =>
      simp only [performStep]
      unfold Suite.Step.stores at hstep
      split
      · rfl
      · next commands hcommands =>
          rw [hcommands] at hstep
          exact values_performAll b o at_ (by simpa using hstep) w

end Run

namespace Runner

/-! ## Cases on related pages -/

section Related

variable [Regex.Engine] {R : σ → σ → Prop} {r : Runner σ}
  (h : Backend.Agree R r.backend r.backend) (s : Suite)
include h

theorem related_runStep (c : Suite.Case) (index : Nat) (step : Suite.Step) {p q : Progress σ}
    (hpq : World.Related R p.world q.world) :
    (r.runStep s c index step p).1 = (r.runStep s c index step q).1 ∧
      World.Related R (r.runStep s c index step p).2.world
        (r.runStep s c index step q).2.world := by
  obtain ⟨hfound, hworld⟩ := h.performStep r.options (place s c index step) r.tagger step hpq
  refine ⟨?_, hworld⟩
  rw [runStep_eq, runStep_eq]
  exact congrArg (·.report index step.describe) hfound

theorem related_execute (c : Suite.Case) (index : Nat) (steps : List Suite.Step)
    {p q : Progress σ} (hpq : World.Related R p.world q.world) :
    (r.execute s c index steps p).1 = (r.execute s c index steps q).1 ∧
      World.Related R (r.execute s c index steps p).2.world
        (r.execute s c index steps q).2.world := by
  induction steps generalizing index p q with
  | nil => exact ⟨rfl, hpq⟩
  | cons step rest ih =>
      obtain ⟨hreport, hworld⟩ := related_runStep h s c index step hpq
      obtain ⟨hreports, hworlds⟩ := ih (index + 1) hworld
      exact ⟨congrArg₂ List.cons hreport hreports, hworlds⟩

end Related

theorem values_execute [Regex.Engine] (r : Runner σ) (s : Suite) (c : Suite.Case) (index : Nat)
    {steps : List Suite.Step} (hsteps : steps.any (·.stores r.tagger) = false) (p : Progress σ) :
    (r.execute s c index steps p).2.world.values = p.world.values := by
  induction steps generalizing index p with
  | nil => rfl
  | cons step rest ih =>
      obtain ⟨hstep, hrest⟩ := Bool.or_eq_false_iff.mp hsteps
      calc (r.execute s c index (step :: rest) p).2.world.values
        _ = (r.runStep s c index step p).2.world.values := ih (index + 1) hrest _
        _ = p.world.values := values_performStep r.backend r.options _ hstep p.world

/-- A case does not know what other cases its suite has. -/
theorem runCase_withCases [Regex.Engine] (r : Runner σ) (s : Suite) (cases : List Suite.Case)
    (c : Suite.Case) (p : Progress σ) : r.runCase { s with cases } c p = r.runCase s c p := by
  have hsteps (stop : Bool) (index : Nat) (steps : List Suite.Step) (p : Progress σ) :
      r.runSteps { s with cases } c stop index steps p = r.runSteps s c stop index steps p := by
    induction steps generalizing stop index p with
    | nil => cases stop <;> rfl
    | cons step rest ih =>
        have hstep (p : Progress σ) :
            r.runStep { s with cases } c index step p = r.runStep s c index step p := rfl
        cases stop with
        | true => simp only [runSteps, ih]
        | false => simp only [runSteps, hstep, ih]
  simp only [runCase, hsteps]

/-! ## Runs -/

/-- Goes on until all cases are done, and reloads the page behind each of them. -/
def reloading (options : Options) (tagger : Sentence.Tagger) (globals : Variables) : Runner Page :=
  { backend := Page.backend, options := { options with failFast := false }, tagger
    reset := some Page.backend.reload, globals }

section Reloading

variable [Regex.Engine] (options : Options) {tagger : Sentence.Tagger} {globals : Variables}
  (s : Suite)

/-- The world is the one in which a run on the page begins, as far as calls can tell. -/
def Restored (globals : Variables) (page : Page) (p : Progress Page) : Prop :=
  World.Related (Page.Twins page.document page.calls) ⟨page, globals⟩ p.world

theorem restored_runCase {page : Page} (hfresh : page.IsFresh) {c : Suite.Case}
    (hc : c.stores tagger = false) {p : Progress Page} (hp : Restored globals page p) :
    let r := reloading options tagger globals
    (r.runCase s c p).1 = ((r.runCase s c (r.start page)).1.1, false) ∧
      Restored globals page (r.runCase s c p).2 := by
  intro r
  have hcase (q : Progress Page) := r.runCase_of_tolerant s rfl rfl c q
  obtain ⟨hreports, hworld⟩ := related_execute (r := r)
    (Page.agree_backend page.document page.calls) s c 0 c.steps
    (p := (r.start page).record (.caseStarted c.name)) (q := p.record (.caseStarted c.name)) hp
  have hvalues := values_execute r s c 0 hc (p.record (.caseStarted c.name))
  rw [hcase, hcase]
  refine ⟨?_, ?_, ?_⟩
  · have hreport : (r.conclude s c c.steps [] p).1 =
        (r.conclude s c c.steps [] (r.start page)).1 :=
      congrArg (fun ts : List StepReport =>
        (⟨c.name, ts ++ skipAll c.steps.length [], none, 0⟩ : CaseReport)) hreports.symm
    rw [hreport]
  · exact hworld.page.reload hfresh
  · exact hp.values.trans hvalues.symm

/-- Whatever cases a run has come through, those that are left are reported as if they stood at
its start. -/
theorem restored_runCases {page : Page} (hfresh : page.IsFresh) {cases : List Suite.Case}
    (hcases : cases.any (·.stores tagger) = false) {p : Progress Page}
    (hp : Restored globals page p) :
    let r := reloading options tagger globals
    (r.runCases s cases p).1.cases = cases.map fun c => (r.runCase s c (r.start page)).1.1 := by
  intro r
  induction cases generalizing p with
  | nil => rfl
  | cons c rest ih =>
      obtain ⟨hc, hrest⟩ := Bool.or_eq_false_iff.mp hcases
      obtain ⟨hcase, hnext⟩ := restored_runCase options s hfresh hc hp
      have hgo : r.GoesOn (r.runCase s c p).1 := by
        rw [hcase]
        exact ⟨rfl, .inr rfl⟩
      rw [runCases_of_goesOn r s hgo, ih hrest hnext, hcase]
      rfl

variable (globals) {s}

/-- If no sentence of a suite stores a variable, and the page is reloaded behind every case, then
each case is reported as in a run of that case alone. -/
theorem run_isolated {page : Page} (hfresh : page.IsFresh) (hstores : s.stores tagger = false)
    {i : Nat} {c : Suite.Case} (hc : s.cases[i]? = some c) :
    let r := reloading options tagger globals
    ∃ report, (r.run s page).1.cases[i]? = some report ∧
      (r.run { s with cases := [c] } page).1.cases = [report] := by
  intro r
  have hstart : Restored globals page (r.start page) :=
    ⟨⟨⟨page.calls, rfl⟩, hfresh.keeps⟩, rfl⟩
  have hall := restored_runCases options s hfresh hstores hstart
  have hnone : [c].any (·.stores tagger) = false := by
    rw [Suite.stores, List.any_eq_false] at hstores
    rw [List.any_eq_false]
    exact List.forall_mem_singleton.mpr (hstores c (List.mem_of_getElem? hc))
  have hone := restored_runCases options { s with cases := [c] } hfresh hnone hstart
  refine ⟨(r.runCase s c (r.start page)).1.1, ?_, ?_⟩
  · change (r.runCases s s.cases (r.start page)).1.cases[i]? = _
    rw [hall, List.getElem?_map, hc]
    rfl
  · rw [← r.runCase_withCases s [c]]
    exact hone

end Reloading

/-- A click takes the draft away. -/
def draftPage : Page :=
  { elements := [{ tag := "button", role := some "button", name := "Save", text := "Draft"
                   onClick := [.setText (Page.handle 0) "Saved"] }] }

def lookForDraft : Suite.Case :=
  { name := "u", steps := [.sentence "Ensure \"Save\" button to be \"Draft\"."] }

/-- The second case looks for what the first has taken away. -/
def saveThenLook : Suite :=
  { cases := [{ name := "t", steps := [.sentence "Click \"Save\" button."] }, lookForDraft] }

open Regex.Builtin

theorem run_isolated_draft :
    draftPage.IsFresh ∧ saveThenLook.stores .standard = false ∧
      saveThenLook.cases[1]? = some lookForDraft ∧
      ∃ report, report.passed ∧
        ((reloading hasty.options .standard {}).run saveThenLook draftPage).1.cases[1]? =
          some report ∧
        ((reloading hasty.options .standard {}).run
          { saveThenLook with cases := [lookForDraft] } draftPage).1.cases = [report] := by
  have hfresh : draftPage.IsFresh := ⟨rfl, rfl, rfl⟩
  have hstores : saveThenLook.stores .standard = false := by decide +kernel
  have hcase : saveThenLook.cases[1]? = some lookForDraft := rfl
  have hpassed : ∀ report ∈
      ((reloading hasty.options .standard {}).run saveThenLook draftPage).1.cases,
      report.passed := by
    decide +kernel
  obtain ⟨report, hreport, hone⟩ := run_isolated hasty.options {} hfresh hstores hcase
  have hmem := List.mem_of_getElem? hreport
  exact ⟨hfresh, hstores, hcase, report, hpassed report hmem, hreport, hone⟩

end Runner

end PlainSteps
