import PlainSteps.Proofs.Accounts
import PlainSteps.Proofs.Globals
import PlainSteps.Proofs.Moments
import PlainSteps.Proofs.NormalForm
import PlainSteps.Proofs.Reporting
import PlainSteps.Regex.Builtin

/-!
# The history of variables

The events of a run tell of every value that it stores. At every moment the variables are those at
the start with the values stored so far over them, in order (`Progress.Replays`), and an assertion
on a variable has the latest of these to compare with. The main statement is
`Runner.run_replays`.
-/

namespace PlainSteps

open Run

variable {σ : Type}

/-! ## Variables behind events -/

namespace Event

/-- The name and the value that an event tells of. -/
def stored? : Event → Option (Text × Text)
  | variableStored name value => some (name, value)
  | _ => none

/-- The value that has been stored last under a name. -/
def lastStored? (x : Text) (es : List Event) : Option Text :=
  ((es.filterMap stored?).reverse.find? (·.1 == x)).map (·.2)

theorem lastStored?_eq_none {x : Text} {es : List Event} :
    lastStored? x es = none ↔ ∀ value, variableStored x value ∉ es := by
  rw [lastStored?, Option.map_eq_none_iff, List.find?_eq_none]
  simp only [List.mem_reverse, List.mem_filterMap]
  constructor
  · intro h value hmem
    exact h (x, value) ⟨_, hmem, rfl⟩ (beq_self_eq_true x)
  · rintro h ⟨name, value⟩ ⟨e, he, hstored⟩ hname
    cases e with
    | variableStored =>
        obtain ⟨rfl, rfl⟩ := Prod.mk.inj (Option.some.inj hstored)
        obtain rfl := eq_of_beq hname
        exact h _ he
    | _ => cases hstored

end Event

namespace Variables

/-- The variables behind events, stored over those before. -/
def replay (vs : Variables) (es : List Event) : Variables :=
  (es.filterMap Event.stored?).foldl (fun vs stored => vs.insert stored.1 stored.2) vs

theorem replay_append (vs : Variables) (es fs : List Event) :
    vs.replay (es ++ fs) = (vs.replay es).replay fs := by
  simp only [replay, List.filterMap_append, List.foldl_append]

theorem replay_of_none (vs : Variables) {es : List Event} (h : ∀ e ∈ es, e.stored? = none) :
    vs.replay es = vs := by
  rw [replay, List.filterMap_eq_nil_iff.mpr h]
  rfl

theorem get?_replay (vs : Variables) (x : Text) (es : List Event) :
    (vs.replay es).get? x = (Event.lastStored? x es).or (vs.get? x) := by
  rw [replay, Event.lastStored?]
  generalize es.filterMap Event.stored? = stored
  induction stored using List.reverseRecOn with
  | nil => rfl
  | append_singleton stored last ih =>
      rw [List.foldl_append, List.reverse_append, List.foldl_cons, List.foldl_nil, get?_insert]
      by_cases h : last.1 = x <;> simp [h, ih]

end Variables

theorem Suite.Step.isNormal_of_mem_commands [Regex.Engine] {tagger : Sentence.Tagger}
    {step : Suite.Step} {commands : List Command} (h : step.commands tagger = .ok commands) :
    ∀ c ∈ commands, c.IsNormal := by
  unfold Suite.Step.commands at h
  cases hsentence : step.sentence? with
  | none =>
      rw [hsentence] at h
      obtain rfl : [] = commands := Except.ok.inj h
      exact fun _ hc => absurd hc List.not_mem_nil
  | some text =>
      rw [hsentence] at h
      exact Sentence.isNormal_of_mem_parseWith h

/-- An assertion on a variable is one that reads a text. -/
theorem Command.IsNormal.exists_assertion {c : Command} (h : c.IsNormal)
    (haction : c.action = .ensure) (hvariable : c.variableName.isSome) :
    ∃ a, c.assertion = some a ∧ a ≠ .exist := by
  obtain ⟨a, ha⟩ := Option.isSome_iff_exists.mp (h.assertion.mpr haction)
  refine ⟨a, ha, ?_⟩
  rintro rfl
  have hoperands := h.operands
  simp only [Command.HasOperands, haction, if_pos ha] at hoperands
  rw [hoperands.2.2] at hvariable
  cases hvariable

namespace Run

/-! ## Commands -/

theorem Finding.update_eq_replay (case : Text) (step : Nat) (found : Finding) (vs : Variables) :
    found.update vs = vs.replay (found.event? case step).toList := by
  cases found <;> rfl

section Commands

variable [Regex.Engine] {b : Backend σ} {o : Options} {at_ : Place}

theorem Completes.values {w v : World σ} {cs : List Command} {fs : List Finding}
    (h : Completes b o at_ w cs fs v) (case : Text) (step : Nat) :
    v.values = w.values.replay (fs.filterMap (Finding.event? case step)) := by
  induction h with
  | nil w => rfl
  | @cons w w' c cs found fs page hperform hrest ih =>
      have hsplit : (found :: fs).filterMap (Finding.event? case step) =
          (found.event? case step).toList ++ fs.filterMap (Finding.event? case step) := by
        rw [List.filterMap_cons]
        cases found.event? case step <;> rfl
      rw [ih, hsplit, Variables.replay_append, Finding.update_eq_replay case step]

omit [Regex.Engine] in
theorem stored?_stepError (fs : Findings) (case : Text) (step : Nat) :
    ∀ e ∈ (fs.failure.map fun f => Event.stepError case step f.message).toList,
      e.stored? = none := by
  cases fs.failure with
  | none => exact nofun
  | some f => exact List.forall_mem_singleton.mpr rfl

/-- A step stores what its events tell of, whether or not it fails. -/
theorem values_performStep_replay (b : Backend σ) (o : Options) (tagger : Sentence.Tagger)
    (at_ : Place) (step : Suite.Step) (w : World σ) (case : Text) (index : Nat) :
    (performStep b o tagger at_ step w).2.values =
      w.values.replay ((performStep b o tagger at_ step w).1.events case index) := by
  rw [Findings.events, Variables.replay_append,
    Variables.replay_of_none _ (stored?_stepError _ case index)]
  cases hstep : step.sentence? with
  | some text =>
      cases hparse : Sentence.parseWith tagger text with
      | error fault =>
          rw [performStep_of_fault hstep hparse]
          rfl
      | ok commands =>
          rw [performStep_of_parse hstep hparse]
          obtain ⟨k, -, fs, v, hdone, ⟨-, hall⟩ | ⟨c, f, w', -, hfails, hall⟩⟩ :=
            performAll_eq b o at_ commands w
          · rw [hall]
            exact hdone.values case index
          · rw [hall]
            exact hfails.2.trans (hdone.values case index)
  | none =>
      cases step with
      | sentence | command => cases hstep
      | navigation url title =>
          have hvalues : (performStep b o tagger at_ (.navigation url title) w).2.values =
              w.values := by
            simp only [performStep]
            cases (navigate b o at_ url title).run.run w.page with
            | mk result page => cases result <;> rfl
          rw [hvalues]
          obtain ⟨f, hfound⟩ | ⟨-, hfound⟩ | ⟨-, hfound⟩ | ⟨f, -, hfound, -⟩ :=
            performStep_navigation b o tagger at_ w url title <;> rw [hfound] <;> rfl

end Commands

/-! ## Assertions on variables -/

/-- The assertion of a command, other than that something exists, is on the value `expected`, and
`k` is its comparison with a text that has been read. -/
def Check.Compares [Regex.Engine] (c : Command) (expected : Text) (k : Check) : Prop :=
  ∃ a pattern actual, c.assertion = some a ∧ a ≠ .exist ∧
    (a = .fits → ∃ regex, patternOf c expected = .ok regex ∧ pattern = some regex) ∧
    k.passed = ((compare a pattern expected actual).1 != c.isNegativeAssertion) ∧
    k.actual = '"' :: actual ++ ['"']

variable {b : Backend σ}

theorem answers_ensureText [Regex.Engine] (o : Options) (mode : SelectorMode) {c : Command}
    {a : Assertion} (ha : c.assertion = some a) (hexist : a ≠ .exist) (expected : Text) :
    Answers (ensureText b o mode c (some expected)) (Check.Compares c expected) := by
  have hlook (pattern : Option Regex)
      (hpattern : a = .fits → ∃ regex, patternOf c expected = .ok regex ∧ pattern = some regex) :
      Answers (examine b (Query.plan mode c) c a (some expected) pattern)
        (Check.Compares c expected) := by
    simp only [examine, if_neg hexist]
    refine .bind fun target => .bind fun actual => .pure ?_
    exact ⟨a, pattern, actual, ha, hexist, hpattern, rfl, rfl⟩
  unfold ensureText
  rw [ha, Option.getD_some]
  cases a with
  | fits =>
      have hcompile := (Answers.ofExcept (σ := σ) (patternOf c expected)).andThen
        (P := fun pattern => ∃ regex, patternOf c expected = .ok regex ∧ pattern = some regex)
        fun regex hregex => .pure ⟨regex, hregex, rfl⟩
      exact hcompile.andThen fun pattern hpattern => (hlook pattern fun _ => hpattern).poll _ _
  | exact | contain => exact (hlook none nofun).poll _ _
  | exist => exact absurd rfl hexist

/-! ## Progress -/

/-- The variables are those at the start and, over them, what the events so far tell of. -/
def Progress.Replays (globals : Variables) (p : Progress σ) : Prop :=
  p.world.values = globals.replay p.events

namespace Progress.Replays

variable {globals : Variables} {p : Progress σ}

theorem record (h : p.Replays globals) {e : Event} (he : e.stored? = none) :
    (p.record e).Replays globals := by
  have hnone : ∀ d ∈ [e], d.stored? = none := List.forall_mem_singleton.mpr he
  rw [Replays, events_record, Variables.replay_append, Variables.replay_of_none _ hnone]
  exact h

end Progress.Replays

end Run

namespace Runner

section

variable [Regex.Engine] {r : Runner σ} {s : Suite} {globals : Variables} {p : Progress σ}

theorem replays_runStep (h : p.Replays globals) (c : Suite.Case) (index : Nat)
    (step : Suite.Step) : (r.runStep s c index step p).2.Replays globals := by
  have hstart : Event.stored? (.stepStarted c.name index step.describe) = none := rfl
  have hvalues : (r.runStep s c index step p).2.world.values =
      p.world.values.replay ((r.outcome s c index step p.world).1.events c.name index) :=
    values_performStep_replay _ _ _ _ _ _ _ _
  have hhead := h.record hstart
  rw [Progress.Replays, Progress.events_record] at hhead
  rw [Progress.Replays, hvalues, events_runStep, List.append_cons, Variables.replay_append,
    ← hhead]
  rfl

theorem replays_execute (h : p.Replays globals) (c : Suite.Case) (index : Nat)
    (steps : List Suite.Step) : (r.execute s c index steps p).2.Replays globals := by
  induction steps generalizing index p with
  | nil => exact h
  | cons step rest ih => exact ih (replays_runStep h c index step) (index + 1)

theorem replays_enter (h : p.Replays globals) (c : Suite.Case) (steps : List Suite.Step) :
    (r.enter s c steps p).2.Replays globals :=
  replays_execute (h.record rfl) c 0 steps

omit [Regex.Engine] in
theorem values_resetPage (p : Progress σ) :
    (r.resetPage p).2.world.values = p.world.values := by
  unfold resetPage
  cases r.reset with
  | none => rfl
  | some hook =>
      cases hrun : hook.run.run p.world.page with
      | mk result page => cases result <;> simp [hrun]

omit [Regex.Engine] in
/-- A reset has the page alone to work on, whether or not it fails. -/
theorem replays_resetPage (h : p.Replays globals) : (r.resetPage p).2.Replays globals := by
  rw [Progress.Replays, values_resetPage, events_resetPage]
  exact h

theorem Course.replays {c : Suite.Case} {q : Progress σ} {done rest : List Suite.Step}
    {stop : Bool} (h : r.Course s c p done rest stop q) (hp : p.Replays globals) :
    q.Replays globals := by
  have hentered : (r.enter s c done p).2.Replays globals := replays_enter hp c done
  cases h.ending with
  | finished => exact hentered
  | failed => exact hentered
  | cancelled => exact hentered.record rfl

theorem replays_runCase (h : p.Replays globals) (c : Suite.Case) :
    (r.runCase s c p).2.Replays globals := by
  obtain ⟨done, rest, stop, q, hcourse⟩ := r.exists_course s c p
  rw [hcourse.progress]
  exact (replays_resetPage (hcourse.replays h)).record rfl

theorem replays_executeCases (h : p.Replays globals) (cases : List Suite.Case) :
    (r.executeCases s cases p).2.Replays globals := by
  induction cases generalizing p with
  | nil => exact h
  | cons c rest ih => exact ih (replays_runCase h c)

/-! ## Moments -/

variable (r s)

omit [Regex.Engine] in
theorem replays_start (page : σ) : (r.start page).Replays r.globals := rfl

theorem replays_progressAt (page : σ) (i : Nat) (c : Suite.Case) (j : Nat) :
    (r.progressAt s page i c j).Replays r.globals :=
  replays_enter (replays_executeCases (r.replays_start page) _) c _

variable {r s}

section Moments

variable {page : σ}

theorem replay_eventsWithin (page : σ) (i : Nat) (c : Suite.Case) (j : Nat) (step : Suite.Step)
    (fs : List Finding) : r.globals.replay (r.eventsWithin s page i c j step fs) =
      (r.progressAt s page i c j).world.values.replay
        (fs.filterMap (Finding.event? c.name j)) := by
  have hstart : ∀ e ∈ [Event.stepStarted c.name j step.describe], e.stored? = none :=
    List.forall_mem_singleton.mpr rfl
  rw [eventsWithin, List.append_cons, Variables.replay_append, Variables.replay_append,
    Variables.replay_of_none _ hstart, ← r.replays_progressAt s page i c j]

theorem ComesTo.replays {at_ : Place} {d : Command} {es : List Event} {w : World σ}
    (h : r.ComesTo s page at_ d es w) : w.values = r.globals.replay es := by
  obtain ⟨-, -, hdone, -⟩ := h
  rw [replay_eventsWithin]
  exact hdone.values _ _

/-- At every moment the variables are those at the start with what has been stored over them. -/
theorem Reaches.replays {es : List Event} {w : World σ} (h : r.Reaches s page es w) :
    w.values = r.globals.replay es := by
  cases h with
  | cases => exact replays_executeCases (r.replays_start page) _
  | entered | finished => exact r.replays_progressAt s page _ _ _
  | started =>
      rw [replay_eventsWithin]
      rfl
  | commands _ _ hdone =>
      rw [replay_eventsWithin]
      exact hdone.values _ _
  | failed hcomes hfails => exact hfails.2.trans hcomes.replays
  | stopped _ _ hcourse => exact hcourse.replays (replays_executeCases (r.replays_start page) _)
  | reset _ _ hcourse =>
      rw [values_resetPage]
      exact hcourse.replays (replays_executeCases (r.replays_start page) _)

theorem ComesTo.isNormal {at_ : Place} {d : Command} {es : List Event} {w : World σ}
    (h : r.ComesTo s page at_ d es w) : d.IsNormal := by
  obtain ⟨-, hcommands, -, hd⟩ := h
  exact Suite.Step.isNormal_of_mem_commands hcommands d (List.mem_of_getElem? hd)

theorem ComesTo.get? {at_ : Place} {d : Command} {es : List Event} {w : World σ}
    (h : r.ComesTo s page at_ d es w) (x : Text) :
    w.values.get? x = (Event.lastStored? x es).or (r.globals.get? x) := by
  rw [h.replays, Variables.get?_replay]

variable (r s) in
/-- What comes of an assertion on the variable `x`, to which the run comes with the events `es` and
in the world `w`. -/
structure Consults (page : σ) (at_ : Place) (c : Command) (x : Text) (es : List Event)
    (w : World σ) : Prop where
  /-- It compares with the value stored last, else with that of the runner. -/
  compares : ∀ v, (Event.lastStored? x es).or (r.globals.get? x) = some v →
    ensure r.backend r.options at_.selector w.values c =
        ensureText r.backend r.options at_.selector c (some v) ∧
      Answers (ensureText r.backend r.options at_.selector c (some v)) (Check.Compares c v)
  /-- Where there is neither, it fails, and its step with it. -/
  missing : (∀ v, .variableStored x v ∉ es) → r.globals.get? x = none →
    (perform r.backend r.options at_ w.values c).run.run w.page =
        (.error (.unknownVariable x), w.page) ∧
      es ++ [.stepError at_.case at_.step (Failure.unknownVariable x).message] <+:
        (r.run s page).2.events
  /-- Nothing else makes it fail so, but a backend that itself fails so. -/
  unknown : ∀ y p, (perform r.backend r.options at_ w.values c).run.run w.page =
      (.error (.unknownVariable y), p) →
    (y = x ∧ (∀ v, .variableStored x v ∉ es) ∧ r.globals.get? x = none) ∨
      r.backend.CanRaise (.unknownVariable y)

theorem ComesTo.consults {at_ : Place} {c : Command} {x : Text} {es : List Event} {w : World σ}
    (h : r.ComesTo s page at_ c es w) (haction : c.action = .ensure)
    (hx : c.variableName = some x) : r.Consults s page at_ c x es w := by
  have hvalue := h.get? x
  have hexpected : expectedText w.values c = (w.values.lookup x).map some := by
    rw [expectedText, hx]
  have hsome {v : Text} (hv : w.values.get? x = some v) :
      ensure r.backend r.options at_.selector w.values c =
        ensureText r.backend r.options at_.selector c (some v) := by
    rw [ensure_eq, hexpected, Variables.lookup, hv]
    rfl
  have hnone (hv : w.values.get? x = none) :
      (perform r.backend r.options at_ w.values c).run.run w.page =
        (.error (.unknownVariable x), w.page) := by
    simp only [perform, haction, ensure_eq, hexpected, Variables.lookup, hv]
    rfl
  have hmissing : w.values.get? x = none ↔
      (∀ v, .variableStored x v ∉ es) ∧ r.globals.get? x = none := by
    rw [hvalue, Option.or_eq_none_iff, Event.lastStored?_eq_none]
  constructor
  · intro v hv
    refine ⟨hsome (hvalue.trans hv), ?_⟩
    obtain ⟨a, ha, hexist⟩ := h.isNormal.exists_assertion haction (by rw [hx]; rfl)
    exact answers_ensureText _ _ ha hexist v
  · intro hstored hglobal
    have hfails : Fails r.backend r.options at_ w c (.unknownVariable x) w :=
      ⟨hnone (hmissing.mpr ⟨hstored, hglobal⟩), rfl⟩
    exact ⟨hfails.1, h.prefix_of_fails hfails⟩
  · intro y p hy
    cases hv : w.values.get? x with
    | none =>
        rw [hnone hv] at hy
        have hname := Failure.unknownVariable.inj (Except.error.inj (congrArg Prod.fst hy))
        exact .inl ⟨hname.symm, hmissing.mp hv⟩
    | some v =>
        have hlook := perform_ensure_error haction hy
        rw [hsome hv] at hlook
        obtain hown | hraised := raises_ensureText _ _ _ _ _ hlook
        · cases hown
        · exact .inr hraised

/-- Before a backend that fails as one alone, an assertion on a variable fails for the want of it
exactly if there is no value. -/
theorem Consults.unknown_iff {at_ : Place} {c : Command} {x : Text} {es : List Event} {w : World σ}
    (h : r.Consults s page at_ c x es w) (hb : r.backend.Reports) :
    (∃ y p, (perform r.backend r.options at_ w.values c).run.run w.page =
        (.error (.unknownVariable y), p)) ↔
      (∀ v, .variableStored x v ∉ es) ∧ r.globals.get? x = none := by
  constructor
  · rintro ⟨y, p, hy⟩
    obtain ⟨-, hnone⟩ | hraised := h.unknown y p hy
    · exact hnone
    · obtain ⟨message, hmessage⟩ := hb _ hraised
      cases hmessage
  · rintro ⟨hstored, hglobal⟩
    exact ⟨x, w.page, (h.missing hstored hglobal).1⟩

/-- On a page in memory an assertion on a variable fails for the want of it exactly if there is no
value. -/
theorem ComesTo.unknown_iff_of_page {r : Runner Page} {page : Page}
    (hr : r.backend = Page.backend) {at_ : Place} {c : Command} {x : Text} {es : List Event}
    {w : World Page} (h : r.ComesTo s page at_ c es w) (haction : c.action = .ensure)
    (hx : c.variableName = some x) :
    (∃ y p, (perform r.backend r.options at_ w.values c).run.run w.page =
        (.error (.unknownVariable y), p)) ↔
      (∀ v, .variableStored x v ∉ es) ∧ r.globals.get? x = none :=
  (h.consults haction hx).unknown_iff (hr ▸ Page.reports_backend)

/-- At every moment of a run the variables are those of the runner with the values stored so far
over them, so that nothing else changes them. An assertion on a variable consults just these, and a
second run starts from the variables of the runner again. -/
theorem run_replays (r : Runner σ) (s : Suite) (page : σ) :
    (∀ es, (∃ w, r.Reaches s page es w) ↔ es <+: (r.run s page).2.events) ∧
    (∀ es w, r.Reaches s page es w → w.values = r.globals.replay es) ∧
    (∀ es es' w w', r.Reaches s page es w → r.Reaches s page (es ++ es') w' →
      (∀ e ∈ es', e.stored? = none) → w'.values = w.values) ∧
    (∀ at_ c x es w, r.ComesTo s page at_ c es w → c.action = .ensure →
      c.variableName = some x → r.Consults s page at_ c x es w) ∧
    ∀ s' cancelAfter es w,
      ({ r with cancelAfter } : Runner σ).Reaches s' (r.run s page).2.world.page es w →
        w.values = r.globals.replay es := by
  refine ⟨fun es => ⟨?_, exists_reaches⟩, fun es w h => h.replays, ?_, ?_, ?_⟩
  · rintro ⟨w, h⟩
    exact h.isPrefix
  · intro es es' w w' h h' hnone
    rw [h'.replays, h.replays, Variables.replay_append, Variables.replay_of_none _ hnone]
  · intro at_ c x es w h haction hx
    exact h.consults haction hx
  · intro s' cancelAfter es w h
    exact h.replays

end Moments

end

/-- A page with a button that shows its name. -/
def shownPage : Page :=
  { elements := [{ tag := "button", role := some "button", name := "Save", text := "Save" }] }

def storeStep : Suite.Step := .sentence "Store \"Save\" button into variable \x7bx\x7d."

def ensureStep : Suite.Step := .sentence "Ensure \"Save\" button to contain \x7bx\x7d."

def ensureX : Command :=
  { action := .ensure, object := "Save", elementType := "button", assertion := some .contain
    aspect := some .plain, variableName := some "x" }

open Regex.Builtin

/-- What one step has stored, the next one compares with. -/
theorem run_replays_stored :
    let c : Suite.Case := { name := "t", steps := [storeStep, ensureStep] }
    let s : Suite := { cases := [c] }
    let at_ := place s c 1 ensureStep
    ∃ es w, hasty.ComesTo s shownPage at_ ensureX es w ∧
      hasty.Consults s shownPage at_ ensureX "x" es w ∧
      ensure hasty.backend hasty.options at_.selector w.values ensureX =
        ensureText hasty.backend hasty.options at_.selector ensureX (some "Save") := by
  intro c s at_
  have hexecuted : hasty.Executed s shownPage 0 c 1 ensureStep
      { index := 1, text := ensureStep.describe, commands := 1, assertionsPassed := 1 } :=
    ⟨rfl, rfl, by decide +kernel, rfl⟩
  have hcommands : ensureStep.commands hasty.tagger = .ok [ensureX] := by decide +kernel
  have hcomes : hasty.ComesTo s shownPage at_ ensureX _ _ :=
    .intro (k := 0) hexecuted hcommands (.nil _) rfl
  have hstored : (Event.lastStored? "x" (hasty.eventsWithin s shownPage 0 c 1 ensureStep [])).or
      (hasty.globals.get? "x") = some "Save".toList := by
    decide +kernel
  have hconsults := (run_replays hasty s shownPage).2.2.2.1 _ _ "x" _ _ hcomes rfl rfl
  exact ⟨_, _, hcomes, hconsults, (hconsults.compares _ hstored).1⟩

end Runner

end PlainSteps
