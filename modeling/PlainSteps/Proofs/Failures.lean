import PlainSteps.Proofs.Agreement
import PlainSteps.Proofs.Interpolation

/-!
# What a step can fail with

A command fails in a way of its own, for a variable that has not been stored, or as the backend
does: nothing else is made up on the way (`raises_perform`, `raises_navigate`). Apart from its
variable, an assertion asks for none (`raises_ensureText`).
-/

namespace PlainSteps

open Run

variable {σ α β : Type} {P : Failure → Prop}

/-- What carrying out commands itself can fail with, variables apart. -/
def Failure.isOwn : Failure → Bool
  | targetNotFound .. | coercion .. | sliderDidNotConverge .. | missingAttribute .. => true
  | overflow | invalidPattern .. | timeout .. => true
  | _ => false

/-! ## Sessions -/

/-- Every failure of a session has a property. -/
def Run.Raises (m : Session σ α) (P : Failure → Prop) : Prop :=
  ∀ ⦃p q : σ⦄ ⦃f : Failure⦄, m.run.run p = (.error f, q) → P f

namespace Run.Raises

theorem pure (x : α) : Raises (σ := σ) (Pure.pure x) P := by
  intro p q f h
  exact nomatch congrArg Prod.fst h

theorem throw {f : Failure} (h : P f) : Raises (σ := σ) (α := α) (MonadExcept.throw f) P := by
  intro p q g hg
  obtain rfl : f = g := Except.error.inj (congrArg Prod.fst hg)
  exact h

theorem ofExcept {x : Except Failure α} (h : ∀ f, x = .error f → P f) :
    Raises (σ := σ) (MonadExcept.ofExcept x) P := by
  cases x with
  | ok x => exact pure x
  | error f => exact throw (h f rfl)

theorem bind {m : Session σ α} {g : α → Session σ β} (h : Raises m P)
    (hrest : ∀ x, Raises (g x) P) : Raises (m >>= g) P := by
  intro p q f hf
  obtain ⟨f', hm, heq⟩ | ⟨x, p', -, hx⟩ := run_bind_cases hf
  · rw [Except.error.inj heq]
    exact h hm
  · exact hrest x hx

theorem bind_option {m : Session σ (Option α)} {g : Option α → Session σ β} (h : Raises m P)
    (hnone : Raises (g none) P) (hsome : ∀ x, Raises (g (some x)) P) : Raises (m >>= g) P := by
  refine h.bind fun found => ?_
  cases found with
  | none => exact hnone
  | some x => exact hsome x

/-- What has been observed to fail may be raised again. -/
theorem observe_bind {m : Session σ α} {g : Except Failure α → Session σ β} (h : Raises m P)
    (hrest : ∀ x, (∀ f, x = .error f → P f) → Raises (g x) P) :
    Raises (Run.observe m >>= g) P := by
  intro p q f hf
  obtain ⟨f', hm, -⟩ | ⟨x, p', hm, hx⟩ := run_bind_cases hf
  · exact nomatch congrArg Prod.fst hm
  · refine hrest x (fun e he => ?_) hx
    have hfst : (m.run.run p).1 = x := Except.ok.inj (congrArg Prod.fst hm)
    have hsnd : (m.run.run p).2 = p' := congrArg Prod.snd hm
    have hrun : m.run.run p = (x, p') := Prod.ext hfst hsnd
    rw [he] at hrun
    exact h hrun

theorem poll (settled : Except Failure α → Bool) {look : Session σ α} (h : Raises look P)
    (n : Nat) : Raises (Run.poll settled look n) P := by
  induction n with
  | zero => exact h
  | succ n ih =>
      refine h.observe_bind fun result hresult => ?_
      cases settled result with
      | true => exact ofExcept hresult
      | false => exact ih

section Correction

variable {γ : Type} [Add γ] [Sub γ] [Div γ] [OfNat γ 2] {moveTo : γ → Session σ Unit}
  {value : Session σ Int} (hown : ∀ f, f.isOwn → P f) (hmove : ∀ x, Raises (moveTo x) P)
  (hvalue : Raises value P)
include hown hmove hvalue

theorem pursue (name : Text) (target : Int) (left made : Nat) (p : Pursuit γ) (last : Int) :
    Raises (Run.pursue name moveTo value target left made p last) P := by
  induction left generalizing made p last with
  | zero =>
      unfold Run.pursue
      split
      · exact pure _
      · exact throw (hown _ rfl)
  | succ left ih =>
      unfold Run.pursue
      split
      · exact pure _
      · exact (hmove _).bind fun _ => hvalue.bind fun last => ih _ _ last

theorem correct [OfNat γ 1] (name : Text) (target : Int) (start : γ) (maxIterations : Nat) :
    Raises (Run.correct name moveTo value target start maxIterations) P :=
  (hmove start).bind fun _ => hvalue.bind fun last =>
    (pursue hown hmove hvalue name target _ _ _ last).bind fun _ => pure _

end Correction

end Run.Raises

theorem eq_error_of_map {ε : Type} {x : Except ε α} {g : α → β} {e : ε}
    (h : x.map g = .error e) : x = .error e := by
  cases x with
  | ok x => cases h
  | error e' => exact congrArg Except.error (Except.error.inj h)

/-! ## Calls -/

/-- Some call on the backend can fail so. -/
def Backend.CanRaise (b : Backend σ) (f : Failure) : Prop :=
  ∃ (α : Type) (r : Request α) (p q : σ), (b.answer r).run.run p = (.error f, q)

/-- A wait fails for a pattern that cannot be read, for its time, or as the backend does. -/
theorem Run.Raises.navigate [Regex.Engine] {b : Backend σ} (hraised : ∀ f, b.CanRaise f → P f)
    (htimeout : ∀ awaited ms, P (.timeout awaited ms)) (o : Options) (at_ : Place) {url : Text}
    {title : Option Text} (hurl : ∀ f, Pattern.parse url = .error f → P f)
    (htitle : ∀ t, title = some t → ∀ f, Pattern.parse t = .error f → P f) :
    Raises (Run.navigate b o at_ url title) P := by
  have hcall {α : Type} (r : Request α) : Raises (b.answer r) P :=
    fun p q f hf => hraised f ⟨α, r, p, q, hf⟩
  unfold Run.navigate
  refine (Raises.ofExcept hurl).bind fun p => ?_
  have hawait : Raises (awaitUrl b p o.navigationTimeoutMs o.pollMs) P := by
    refine ((hcall .currentUrl).poll _ _).bind fun url => ?_
    split
    · exact .pure url
    · exact .throw (htimeout _ _)
  refine hawait.bind fun _ => ?_
  cases title with
  | none => exact .pure []
  | some title =>
      refine (Raises.ofExcept (htitle title rfl)).bind fun p => ?_
      have hlook : Raises (awaitTitle b p o.timeoutMs o.pollMs) P :=
        ((hcall .title).poll _ _).bind fun last => .pure (last, p.isMatch last)
      refine hlook.bind fun seen => ?_
      obtain ⟨last, fits⟩ := seen
      cases fits with
      | true => exact .pure _
      | false => exact .pure _

/-- The property takes in what the backend can raise, and what the commands themselves can. -/
structure Backend.Admits (b : Backend σ) (P : Failure → Prop) : Prop where
  own : ∀ f, f.isOwn → P f
  raised : ∀ f, b.CanRaise f → P f

namespace Backend.Admits

variable {b : Backend σ} (h : b.Admits P)
include h

theorem call {α : Type} (r : Request α) : Raises (b.answer r) P :=
  fun p q f hf => h.raised f ⟨α, r, p, q, hf⟩

/-! ## Targets -/

theorem withinScope (scope : Option Scope) {find : Option Handle → Session σ (Option Handle)}
    (hfind : ∀ container, Raises (find container) P) :
    Raises (Query.withinScope b scope find) P := by
  cases scope with
  | none => exact hfind none
  | some scope =>
      have hsome (c : Handle) := hfind (some c)
      cases scope with
      | titled title => exact (h.call (.resolveSection title)).bind_option (.pure none) hsome
      | region tag => exact (h.call (.resolveByCss tag none)).bind_option (.pure none) hsome
      | labelled label => exact (h.call (.resolveByLabel label none)).bind_option (.pure none) hsome

theorem candidate (q : Query) : Raises (q.candidate b) P := by
  cases q with
  | byAttribute attr value => exact h.call (.resolveByAttribute attr value)
  | byRole role name scope => exact h.withinScope scope fun s => h.call (.resolveByRole role name s)
  | byLabel name scope => exact h.withinScope scope fun s => h.call (.resolveByLabel name s)

theorem resolve (q : Query) : Raises (q.resolve b) P := by
  have hmissing : P q.notFound := h.own _ (by cases q <;> rfl)
  refine (h.candidate q).bind_option (.throw hmissing) fun target => ?_
  refine (h.call (.isVisible target)).bind fun visible => ?_
  cases visible with
  | true => exact .pure target
  | false => exact .throw hmissing

theorem locate (o : Options) (mode : SelectorMode) (c : Command) :
    Raises (Run.locate b o mode c) P :=
  (h.resolve _).poll _ _

/-! ## Assertions -/

theorem plainText (c : Command) (target : Handle) : Raises (Run.plainText b c target) P := by
  unfold Run.plainText
  split
  · exact h.call (.value target)
  · exact h.call (.text target)

theorem describedTexts (ids : List Text) : Raises (Run.describedTexts b ids) P := by
  induction ids with
  | nil => exact .pure []
  | cons id ids ih =>
      refine (h.call (.resolveByAttribute "id" id)).bind_option ih fun target => ?_
      exact (h.call (.text target)).bind fun text => ih.bind fun texts => .pure (text :: texts)

theorem description (target : Handle) : Raises (Run.description b target) P := by
  refine (h.call (.readAttribute target "aria-describedby")).bind_option ?_ fun ids => ?_
  · refine (h.call (.readAttribute target "aria-description")).bind_option ?_ fun text => .pure text
    exact (h.call (.readAttribute target "title")).bind fun title => .pure (title.getD [])
  · exact (h.describedTexts _).bind fun texts => .pure (Text.unwords texts)

theorem errorText (c : Command) (target : Handle) : Raises (Run.errorText b c target) P := by
  have hmissing (name attr : Text) : P (.missingAttribute name attr) := h.own _ rfl
  refine (h.call (.readAttribute target "aria-errormessage")).bind_option
    (.throw (hmissing _ _)) fun id => ?_
  exact (h.call (.resolveByAttribute "id" id)).bind_option (.throw (hmissing _ _)) fun message =>
    h.call (.text message)

theorem readAspect (c : Command) (target : Handle) (a : Aspect) :
    Raises (Run.readAspect b c target a) P := by
  cases a with
  | plain => exact h.plainText c target
  | accessible => exact h.description target
  | error => exact h.errorText c target

theorem isPresent (q : Query) : Raises (Run.isPresent b q) P := by
  refine (h.resolve q).observe_bind fun found hfound => ?_
  cases found with
  | ok target => exact .pure true
  | error f => cases f <;> first | exact .pure false | exact .throw (hfound _ rfl)

theorem examine (q : Query) (c : Command) (a : Assertion) (expected : Option Text)
    (pattern : Option Regex) : Raises (Run.examine b q c a expected pattern) P := by
  unfold Run.examine
  by_cases ha : a = .exist
  · simp only [ha, if_true]
    exact (h.isPresent q).bind fun present => .pure _
  · simp only [ha, if_false]
    exact (h.resolve q).bind fun target => (h.readAspect c target _).bind fun actual => .pure _

end Backend.Admits

namespace Run

/-- What is left of an assertion once its expected text is known. -/
def ensureText [Regex.Engine] (b : Backend σ) (o : Options) (mode : SelectorMode) (c : Command)
    (expected : Option Text) : Session σ Check := do
  let a := c.assertion.getD .exist
  let pattern ← match a, expected with
    | .fits, some source => (ofExcept (patternOf c source) : Session σ Regex).map some
    | _, _ => pure none
  poll (settledBy Check.passed) (examine b (Query.plan mode c) c a expected pattern)
    (retries o.timeoutMs o.pollMs)

theorem ensure_eq [Regex.Engine] (b : Backend σ) (o : Options) (mode : SelectorMode)
    (vs : Variables) (c : Command) : ensure b o mode vs c = ofExcept
    (expectedText vs c) >>= ensureText b o mode c :=
  rfl

end Run

namespace Backend.Admits

variable {b : Backend σ} (h : b.Admits P)
include h

/-- No variable is looked up behind the expected text. -/
theorem ensureText [Regex.Engine] (o : Options) (mode : SelectorMode) (c : Command)
    (expected : Option Text) :
    Raises (Run.ensureText b o mode c expected) P := by
  unfold Run.ensureText
  generalize c.assertion.getD .exist = a
  have hlook (pattern : Option Regex) :=
    (h.examine (Query.plan mode c) c a expected pattern).poll (settledBy Check.passed)
      (retries o.timeoutMs o.pollMs)
  cases a with
  | fits =>
      cases expected with
      | none => exact hlook none
      | some source =>
          have hpattern : ∀ f, patternOf c source = .error f → P f := by
            intro f hf
            unfold patternOf at hf
            dsimp only at hf
            split at hf
            · cases hf
            · exact Except.error.inj hf ▸ h.own _ rfl
          have hcompile := (Raises.ofExcept (σ := σ) hpattern).bind fun r => .pure (some r)
          exact hcompile.bind hlook
  | exact | contain | exist => exact hlook none

/-! ## Sliders -/

theorem locateControl (name : Text) (track : Handle) (kind : SliderKind) :
    Raises (Control.locate b name track kind) P := by
  unfold Control.locate
  cases kind.thumbCss? with
  | none => exact .pure _
  | some css => exact (h.call (.resolveByCss css (some track))).bind fun thumb => .pure _

theorem wholeReading (raw name : Text) : ∀ f, Run.wholeReading raw name = .error f → P f := by
  intro f hf
  unfold Run.wholeReading at hf
  split at hf
  · cases hf
  · exact Except.error.inj hf ▸ h.own _ rfl

theorem sliderTarget (raw : Text) : ∀ f, Run.sliderTarget raw = .error f → P f := by
  intro f hf
  unfold Run.sliderTarget at hf
  dsimp only at hf
  split at hf
  · cases hf
  · split at hf
    · cases hf
    · exact Except.error.inj hf ▸ h.own _ rfl

theorem interpolate (box : Box) (min max value : Int) :
    ∀ f, Run.interpolate box min max value = .error f → P f := by
  intro f hf
  obtain ⟨-, rfl⟩ := interpolate_eq_error hf
  exact h.own _ rfl

theorem read (c : Control) (name : Text) : Raises (c.read b name) P := by
  refine (h.call (.readAttribute c.readout name)).bind_option (.throw (h.own _ rfl)) fun raw => ?_
  exact .ofExcept (h.wholeReading raw name)

theorem controlValue (c : Control) : Raises (c.value b) P := by
  unfold Control.value
  cases c.kind with
  | native => exact (h.call (.value c.readout)).bind fun raw => .ofExcept (h.wholeReading raw _)
  | shadcn => exact h.read c _

theorem converge (c : Control) (target : Int) (maxIterations : Nat) :
    Raises (Run.converge b c target maxIterations) P := by
  refine (h.read c _).bind fun min => (h.read c _).bind fun max => ?_
  by_cases hrange : max ≤ min
  · simp only [hrange, if_true]
    intro p q f hf
    exact Except.error.inj (congrArg Prod.fst hf) ▸ h.own _ rfl
  · simp only [hrange, if_false]
    refine (h.call (.boundingBox c.track)).bind_option (.throw (h.own _ rfl)) fun box => ?_
    refine (h.controlValue c).bind fun current => ?_
    refine (Raises.ofExcept (h.interpolate box min max current)).bind fun thumb => ?_
    refine (Raises.ofExcept (h.interpolate box min max target)).bind fun start => ?_
    have hplace (place : Point) : Raises (b.pointerMove place) P := h.call (.pointerMove place)
    have hmove (x : Float) := hplace ⟨x, box.y + box.height / 2⟩
    have hcorrect :=
      Raises.correct h.own hmove (h.controlValue c) c.name target start maxIterations
    refine (hmove _).bind fun _ => (h.call .pointerDown).bind fun _ => ?_
    refine hcorrect.observe_bind fun result hresult => ?_
    refine (h.call .pointerUp).observe_bind fun released hreleased => ?_
    exact (Raises.ofExcept hresult).bind fun outcome =>
      (Raises.ofExcept hreleased).bind fun _ => .pure outcome

/-! ## Commands -/

theorem navigate [Regex.Engine] (o : Options) (at_ : Place) (url : Text) (title : Option Text) :
    Raises (Run.navigate b o at_ url title) P := by
  have hparse (t : Text) : ∀ f, Pattern.parse t = .error f → P f := by
    intro f hf
    unfold Pattern.parse at hf
    split at hf
    · split at hf
      · cases hf
      · exact Except.error.inj hf ▸ h.own _ rfl
    · cases hf
  exact .navigate h.raised (fun _ _ => h.own _ rfl) o at_ (hparse url) fun t _ => hparse t

theorem perform [Regex.Engine] (hvariable : ∀ x, P (.unknownVariable x)) (o : Options) (at_ : Place)
    (vs : Variables) (c : Command) : Raises (Run.perform b o at_ vs c) P := by
  have hlookup (x : Text) : ∀ f, vs.lookup x = .error f → P f := by
    intro f hf
    unfold Variables.lookup at hf
    split at hf
    · cases hf
    · exact Except.error.inj hf ▸ hvariable x
  have hsubstitute (t : Text) : ∀ f, vs.substitute t = .error f → P f := by
    intro f hf
    unfold Variables.substitute at hf
    split at hf
    next x _ => exact hlookup x f hf
    · cases hf
  have hlocate := h.locate o at_.selector c
  unfold Run.perform
  cases c.action with
  | click => exact hlocate.bind fun target => (h.call (.click target)).bind fun _ => .pure _
  | hover => exact hlocate.bind fun target => (h.call (.hover target)).bind fun _ => .pure _
  | fill =>
      refine (Raises.ofExcept (hsubstitute _)).bind fun text => hlocate.bind fun target => ?_
      exact (h.call (.fill target text)).bind fun _ => .pure _
  | slide =>
      refine (Raises.ofExcept (hsubstitute _)).bind fun raw => ?_
      refine (Raises.ofExcept (h.sliderTarget raw)).bind fun value => hlocate.bind fun target => ?_
      refine (h.locateControl c.object target at_.slider).bind fun control => ?_
      exact (h.converge control value o.maxIterations).bind fun _ => .pure _
  | store => exact hlocate.bind fun target => (h.plainText c target).bind fun text => .pure _
  | ensure =>
      have hexpected : ∀ f, expectedText vs c = .error f → P f := by
        intro f hf
        unfold expectedText at hf
        cases hname : c.variableName with
        | some x =>
            rw [hname] at hf
            exact hlookup x f (eq_error_of_map hf)
        | none =>
            cases hvalue : c.value with
            | some value =>
                rw [hname, hvalue] at hf
                exact hsubstitute value f (eq_error_of_map hf)
            | none =>
                rw [hname, hvalue] at hf
                cases hf
      rw [ensure_eq]
      exact ((Raises.ofExcept hexpected).bind (h.ensureText o at_.selector c)).bind fun k => .pure _

end Backend.Admits

namespace Run

variable [Regex.Engine] (b : Backend σ) (o : Options) (at_ : Place)

/-- Behind its expected text an assertion fails as the backend does or in a way of its own. -/
theorem raises_ensureText (mode : SelectorMode) (c : Command) (expected : Option Text) :
    Raises (ensureText b o mode c expected) fun f => f.isOwn ∨ b.CanRaise f :=
  Backend.Admits.ensureText ⟨fun _ => .inl, fun _ => .inr⟩ o mode c expected

theorem raises_perform (vs : Variables) (c : Command) :
    Raises (perform b o at_ vs c) fun f =>
      f.isOwn ∨ b.CanRaise f ∨ ∃ x, f = .unknownVariable x :=
  Backend.Admits.perform ⟨fun _ => .inl, fun _ h => .inr (.inl h)⟩
    (fun x => .inr (.inr ⟨x, rfl⟩)) o at_ vs c

theorem raises_navigate (url : Text) (title : Option Text) :
    Raises (navigate b o at_ url title) fun f => f.isOwn ∨ b.CanRaise f :=
  Backend.Admits.navigate ⟨fun _ => .inl, fun _ => .inr⟩ o at_ url title

variable {b o at_} in
/-- A navigation step fails as its wait does. -/
theorem performStep_navigation_failure {tagger : Sentence.Tagger} {url : Text} {title : Option Text}
    {w : World σ} {f : Failure} (h : Raises (navigate b o at_ url title) P)
    (hf : (performStep b o tagger at_ (.navigation url title) w).1.failure = some f) : P f := by
  simp only [performStep] at hf
  cases hrun : (navigate b o at_ url title).run.run w.page with
  | mk result page =>
      cases result with
      | ok fs =>
          simp only [hrun] at hf
          cases hf
      | error f' =>
          simp only [hrun, Option.some.injEq] at hf
          exact hf ▸ h hrun

/-- A step fails for its sentence only if that holds no commands, unless the backend itself fails
so. -/
theorem performStep_sentence_failure (tagger : Sentence.Tagger) (step : Suite.Step) (w : World σ)
    {commands : List Command} (hcommands : step.commands tagger = .ok commands)
    {fault : Sentence.Fault}
    (h : (performStep b o tagger at_ step w).1.failure = some (.sentence fault)) :
    b.CanRaise (.sentence fault) := by
  have hraised {f : Failure} (hf : f = .sentence fault)
      (h : f.isOwn ∨ b.CanRaise f ∨ ∃ x, f = .unknownVariable x) :
      b.CanRaise (.sentence fault) := by
    subst hf
    rcases h with hown | hraise | ⟨x, hx⟩
    · cases hown
    · exact hraise
    · cases hx
  cases step with
  | navigation url title =>
      have hown := performStep_navigation_failure (raises_navigate b o at_ url title) h
      exact hraised rfl (hown.imp_right .inl)
  | sentence | command =>
      rw [performStep_of_parse rfl hcommands] at h
      obtain ⟨k, -, fs, v, -, ⟨-, hall⟩ | ⟨c, f, w', -, hfails, hall⟩⟩ :=
        performAll_eq b o at_ commands w
      · rw [hall] at h
        cases h
      · rw [hall] at h
        exact hraised (Option.some.inj h) (raises_perform b o at_ v.values c hfails.1)

end Run

end PlainSteps
