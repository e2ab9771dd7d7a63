import PlainSteps.Page
import PlainSteps.Proofs.Executed
import PlainSteps.Regex.Builtin

/-!
# Accounts of steps

What a step does for its commands, what it reports and what its events say come to the same. The
main statements are `Executed.accounts`, for the commands of a sentence, and
`Executed.assertionsPassed_eq`, for the assertions that hold: a title that matches is counted but
not told of.
-/

namespace PlainSteps

open Run

variable {σ : Type}

/-! ## Events and findings -/

namespace Event

/-- The action of an event, and the command that it was done for. -/
def performed? : Event → Option (Action × Text)
  | actionPerformed action command _ => some (action, command)
  | _ => none

def storedName? : Event → Option Text
  | variableStored name _ => some name
  | _ => none

def isAssertionPassed : Event → Bool
  | assertionPassed .. => true
  | _ => false

end Event

theorem Action.ne_of_acts {a b : Action} (ha : a.acts) (hb : b.acts = false) : a ≠ b := by
  rintro rfl
  rw [hb] at ha
  exact nomatch ha

namespace Run

namespace Finding.Fits

variable {at_ : Place} {c : Command} {found : Finding} (h : found.Fits at_ c)
include h

theorem performed? (case : Text) (step : Nat) :
    (found.event? case step).bind Event.performed? =
      if c.action.acts then some (c.action, c.render) else none := by
  cases found with
  | titleHeld => exact h.elim
  | performed action command target =>
      obtain ⟨hacts, rfl, rfl⟩ := h
      rw [if_pos hacts]
      rfl
  | stored | held | refuted =>
      rw [h.1]
      rfl

theorem storedName? (case : Text) (step : Nat) :
    (found.event? case step).bind Event.storedName? =
      if decide (c.action = .store) then some (c.variableName.getD []) else none := by
  cases found with
  | titleHeld => exact h.elim
  | performed action command target =>
      rw [decide_eq_false (Action.ne_of_acts h.1 rfl)]
      rfl
  | stored name value =>
      obtain ⟨hstore, rfl⟩ := h
      rw [hstore]
      rfl
  | held | refuted =>
      rw [h.1]
      rfl

/-- An assertion that has been checked holds or is refuted. -/
theorem checked : (if found.isHeld then 1 else 0) + found.failure?.toList.length =
    if decide (c.action = .ensure) then 1 else 0 := by
  cases found with
  | titleHeld => exact h.elim
  | performed action command target =>
      rw [decide_eq_false (Action.ne_of_acts h.1 rfl)]
      rfl
  | stored | held | refuted =>
      rw [h.1]
      rfl

end Finding.Fits

theorem filterMap_of_forall₂ {α β γ : Type} {R : α → β → Prop} {f : β → Option γ} {p : α → Bool}
    {g : α → γ} {xs : List α} {ys : List β} (h : List.Forall₂ R xs ys)
    (hf : ∀ x y, R x y → f y = if p x then some (g x) else none) :
    ys.filterMap f = (xs.filter p).map g := by
  induction h with
  | nil => rfl
  | @cons x y xs ys hxy _ ih =>
      rw [List.filterMap_cons, hf x y hxy, List.filter_cons, ih]
      cases p x <;> rfl

theorem checked_of_fits {at_ : Place} {cs : List Command} {fs : List Finding}
    (h : List.Forall₂ (fun c f => f.Fits at_ c) cs fs) :
    fs.countP Finding.isHeld + (fs.filterMap Finding.failure?).length =
      cs.countP (·.action = .ensure) := by
  induction h with
  | nil => rfl
  | @cons c found cs fs hfits _ ih =>
      have hhead := hfits.checked
      rw [List.countP_cons, List.countP_cons, ← hhead, ← ih, List.filterMap_cons]
      cases found.failure? with
      | none => simp only [Option.toList, List.length_nil]; omega
      | some f => simp only [Option.toList, List.length_cons, List.length_nil]; omega

/-! ## Sentences -/

/-- What a step with the commands `cs`, begun in the world `w`, leaves if exactly the first `k` of
them run to their end: the report `t`, the events `es` and the world `w'`. -/
structure Accounts [Regex.Engine] (b : Backend σ) (o : Options) (at_ : Place) (cs : List Command)
    (k : Nat) (w w' : World σ) (t : StepReport) (es : List Event) : Prop where
  commands : t.commands = cs.length
  /-- The command behind the first `k` fails, if there is one, and the page stays as it leaves it:
  nothing is called for a later one. An assertion that does not hold is no failure. -/
  completed : ∃ fs v, Completes b o at_ w (cs.take k) fs v ∧
    ((k = cs.length ∧ w' = v) ∨ ∃ c f, cs[k]? = some c ∧ t.error = some f.message ∧
      Fails b o at_ v c f w' ∧ (c.action = .ensure →
        (ensure b o at_.selector v.values c).run.run v.page = (.error f, w'.page)))
  error : t.error = none ↔ k = cs.length
  performed : es.filterMap Event.performed? =
    ((cs.take k).filter (·.action.acts)).map fun c => (c.action, c.render)
  stored : es.filterMap Event.storedName? =
    ((cs.take k).filter (·.action = .store)).map (·.variableName.getD [])
  assertions : t.assertionsPassed + t.failures.length = (cs.take k).countP (·.action = .ensure)
  passed : t.passed → k = cs.length ∧ t.assertionsPassed = cs.countP (·.action = .ensure)

theorem Findings.filterMap_events {γ : Type} {f : Event → Option γ}
    (hf : ∀ case step message, f (.stepError case step message) = none) (fs : Findings)
    (case : Text) (step : Nat) : (fs.events case step).filterMap f =
      (fs.findings.filterMap (Finding.event? case step)).filterMap f := by
  rw [Findings.events, List.filterMap_append]
  cases fs.failure with
  | none => exact List.append_nil _
  | some g => simp [hf]

theorem exists_accounts [Regex.Engine] (b : Backend σ) (o : Options) (at_ : Place)
    (cs : List Command) (w : World σ) (text : Text) :
    let result := performAll b o at_ cs w
    let found : Findings := ⟨cs.length, result.1.1, result.1.2⟩
    ∃ k ≤ cs.length, Accounts b o at_ cs k w result.2
      (found.report at_.step text) (found.events at_.case at_.step) := by
  intro result found
  obtain ⟨k, hk, fs, v, hdone, hend⟩ := performAll_eq b o at_ cs w
  have hfs : found.findings = fs := by
    obtain ⟨-, hall⟩ | ⟨c, f, w', -, -, hall⟩ := hend <;> exact congrArg (·.1.1) hall
  have herror : (found.report at_.step text).error = none ↔ k = cs.length := by
    have hreport : (found.report at_.step text).error =
      (performAll b o at_ cs w).1.2.map Failure.message := rfl
    rw [hreport, Option.map_eq_none_iff]
    obtain ⟨rfl, hall⟩ | ⟨c, f, w', hc, -, hall⟩ := hend
    · rw [hall]
      exact iff_of_true rfl rfl
    · rw [hall]
      exact iff_of_false nofun (Nat.ne_of_lt (List.getElem?_eq_some_iff.mp hc).1)
  have hassertions : (found.report at_.step text).assertionsPassed +
      (found.report at_.step text).failures.length = (cs.take k).countP (·.action = .ensure) := by
    rw [← checked_of_fits hdone.fits, ← hfs]
    rfl
  refine ⟨k, hk, rfl, ⟨fs, v, hdone, ?_⟩, herror, ?_, ?_, hassertions, ?_⟩
  · obtain ⟨rfl, hall⟩ | ⟨c, f, w', hc, hfails, hall⟩ := hend
    · exact .inl ⟨rfl, congrArg Prod.snd hall⟩
    · have hworld : result.2 = w' := congrArg Prod.snd hall
      rw [hworld]
      refine .inr ⟨c, f, hc, ?_, hfails, fun haction => perform_ensure_error haction hfails.1⟩
      exact congrArg (Option.map Failure.message) (congrArg (·.1.2) hall)
  · rw [found.filterMap_events (fun _ _ _ => rfl), hfs, List.filterMap_filterMap]
    exact filterMap_of_forall₂ hdone.fits fun c f h => h.performed? _ _
  · rw [found.filterMap_events (fun _ _ _ => rfl), hfs, List.filterMap_filterMap]
    exact filterMap_of_forall₂ hdone.fits fun c f h => h.storedName? _ _
  · intro hpassed
    obtain ⟨-, hnone, hempty⟩ := StepReport.passed_iff.mp hpassed
    have hall := herror.mp hnone
    rw [hempty, List.length_nil, Nat.add_zero, hall, List.take_length] at hassertions
    exact ⟨hall, hassertions⟩

/-! ## Assertions that hold -/

theorem Findings.countP_isAssertionPassed {fs : Findings} (case : Text) (step : Nat)
    (h : ∀ found ∈ fs.findings, found ≠ .titleHeld) :
    (fs.events case step).countP Event.isAssertionPassed = fs.findings.countP Finding.isHeld := by
  have hlast : ((fs.failure.map fun f => Event.stepError case step f.message).toList).countP
      Event.isAssertionPassed = 0 := by
    cases fs.failure <;> rfl
  rw [Findings.events, List.countP_append, hlast, Nat.add_zero, List.countP_filterMap]
  refine List.countP_congr fun found hfound => ?_
  cases found with
  | titleHeld => exact absurd rfl (h _ hfound)
  | _ => rfl

end Run

namespace Runner

variable {r : Runner σ} {s : Suite} {page : σ} {i j : Nat} {c : Suite.Case} {step : Suite.Step}
  {t : StepReport}

/-- A runner on pages in memory that waits for nothing. -/
def hasty : Runner Page :=
  { backend := Page.backend, options := { timeoutMs := 0, navigationTimeoutMs := 0 } }

def savePage : Page :=
  { elements := [{ tag := "button", role := some "button", name := "Save" }], url := "/"
    title := "Home" }

/-- A suite of one case of one step. -/
def only (step : Suite.Step) : Suite := { cases := [{ name := "t", steps := [step] }] }

namespace Executed

/-- The commands of an executed sentence run to their end up to one that fails, if any does, and
the step's report and events account for just these. -/
theorem accounts [Regex.Engine] (h : r.Executed s page i c j step t) {text : Text}
    {commands : List Command} (hsentence : step.sentence? = some text)
    (hparse : Sentence.parseWith r.tagger text = .ok commands) :
    ∃ k ≤ commands.length,
      Accounts r.backend r.options (place s c j step) commands k
        (r.progressAt s page i c j).world (r.progressAt s page i c (j + 1)).world t
        (Event.ofStep i j (r.run s page).2.events) := by
  obtain ⟨ht, hworld, hevents⟩ := h.eq_outcome
  rw [ht, hworld, hevents, outcome, performStep_of_parse hsentence hparse]
  exact exists_accounts r.backend r.options (place s c j step) commands _ step.describe

def saveTwice : Text := "Click \"Save\" button, hover \"X\" link, click \"Save\" button."

open Regex.Builtin

/-- The second of three commands misses its target. -/
theorem accounts_missingLink :
    let step : Suite.Step := .sentence saveTwice
    let s := only step
    ∃ c t commands, hasty.Executed s savePage 0 c 0 step t ∧
      Sentence.parse saveTwice = .ok commands ∧
      t.error = some "No visible link named \"X\"".toList ∧
      ∃ k ≤ commands.length,
        Accounts Page.backend hasty.options (place s c 0 step) commands k
          (hasty.progressAt s savePage 0 c 0).world (hasty.progressAt s savePage 0 c 1).world t
          (Event.ofStep 0 0 (hasty.run s savePage).2.events) := by
  have hparse : Sentence.parse saveTwice = .ok
      [{ action := .click, object := "Save", elementType := "button" },
        { action := .hover, object := "X", elementType := "link" },
        { action := .click, object := "Save", elementType := "button" }] := by
    decide +kernel
  have h : hasty.Executed (only (.sentence saveTwice)) savePage 0
      { name := "t", steps := [.sentence saveTwice] } 0 (.sentence saveTwice)
      { index := 0, text := saveTwice, commands := 3
        error := some "No visible link named \"X\"" } :=
    ⟨rfl, rfl, by decide +kernel, rfl⟩
  exact ⟨_, _, _, h, hparse, rfl, h.accounts rfl hparse⟩

/-- The events of a sentence tell of every assertion that holds. A title that matches is counted as
well, and no event tells of it. -/
theorem assertionsPassed_eq [Regex.Engine] (h : r.Executed s page i c j step t) :
    let held := (Event.ofStep i j (r.run s page).2.events).countP Event.isAssertionPassed
    (step.sentence?.isSome → held = t.assertionsPassed) ∧
      ∀ url title, step = .navigation url title →
        held = 0 ∧ t.assertionsPassed = if title.isSome && t.passed then 1 else 0 := by
  obtain ⟨ht, -, hevents⟩ := h.eq_outcome
  rw [hevents, ht, outcome]
  constructor
  · intro hsome
    obtain ⟨text, hsentence⟩ := Option.isSome_iff_exists.mp hsome
    cases hparse : Sentence.parseWith r.tagger text with
    | error fault =>
        rw [performStep_of_fault hsentence hparse]
        rfl
    | ok commands =>
        rw [performStep_of_parse hsentence hparse]
        exact Findings.countP_isAssertionPassed _ _
          (forall_performAll (fun _ _ hfits heq => (heq ▸ hfits).elim) commands _)
  · rintro url title rfl
    obtain ⟨f, hfound⟩ | ⟨htitle, hfound⟩ | ⟨htitle, hfound⟩ | ⟨f, htitle, hfound, -⟩ :=
      performStep_navigation r.backend r.options r.tagger (place s c j (.navigation url title))
        (r.progressAt s page i c j).world url title
    · rw [hfound]
      exact ⟨rfl, by simp [Findings.report, StepReport.passed, StepReport.status]⟩
    · rw [hfound, htitle]
      exact ⟨rfl, rfl⟩
    · rw [hfound, htitle]
      exact ⟨rfl, rfl⟩
    · rw [hfound, htitle]
      exact ⟨rfl, rfl⟩

def sentenceStep : Suite.Step := .sentence "Ensure \"Save\" button to be visible."

def titleStep : Suite.Step := .navigation "/" (some "Home")

theorem assertionsPassed_eq_visible :
    ∃ c t, hasty.Executed (only sentenceStep) savePage 0 c 0 sentenceStep t ∧
      (Event.ofStep 0 0 (hasty.run (only sentenceStep) savePage).2.events).countP
        Event.isAssertionPassed = t.assertionsPassed ∧ t.assertionsPassed = 1 := by
  have h : hasty.Executed (only sentenceStep) savePage 0
      { name := "t", steps := [sentenceStep] } 0 sentenceStep
      { index := 0, text := sentenceStep.describe, commands := 1, assertionsPassed := 1 } :=
    ⟨rfl, rfl, by decide +kernel, rfl⟩
  exact ⟨_, _, h, h.assertionsPassed_eq.1 rfl, rfl⟩

/-- A title that matches is counted, and no event says so. -/
theorem assertionsPassed_title_ne :
    ¬ ∀ c t, hasty.Executed (only titleStep) savePage 0 c 0 titleStep t →
      (Event.ofStep 0 0 (hasty.run (only titleStep) savePage).2.events).countP
        Event.isAssertionPassed = t.assertionsPassed := by
  intro h
  have hcount := h { name := "t", steps := [titleStep] }
    { index := 0, text := titleStep.describe, assertionsPassed := 1 }
    ⟨rfl, rfl, by decide +kernel, rfl⟩
  revert hcount
  decide +kernel

end Executed

end Runner

end PlainSteps
