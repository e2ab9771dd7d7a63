import PlainSteps.Proofs.Findings

/-!
# Backends that agree

Two backends agree under a relation between their pages if every call, made on related pages,
gives the same answer on both and leaves related pages. The main statement is
`Backend.Agree.performStep`: a step that is carried out with agreeing backends finds the same on
both, and leaves related pages and the same variables.
-/

namespace PlainSteps

open Run

variable {σ τ α β : Type} {R : σ → τ → Prop}

/-! ## Sessions -/

/-- Begun on related pages, two sessions give the same answer and leave related pages. -/
def Run.Matches (R : σ → τ → Prop) (m : Session σ α) (n : Session τ α) : Prop :=
  ∀ ⦃p q⦄, R p q → ∃ x p' q', m.run.run p = (x, p') ∧ n.run.run q = (x, q') ∧ R p' q'

namespace Run.Matches

theorem pure (x : α) : Matches R (Pure.pure x) (Pure.pure x) := by
  intro p q hR
  exact ⟨.ok x, p, q, rfl, rfl, hR⟩

theorem throw (f : Failure) : Matches (α := α) R (MonadExcept.throw f) (MonadExcept.throw f) := by
  intro p q hR
  exact ⟨.error f, p, q, rfl, rfl, hR⟩

theorem ofExcept (x : Except Failure α) :
    Matches R (MonadExcept.ofExcept x) (MonadExcept.ofExcept x) := by
  cases x with
  | ok x => exact pure x
  | error f => exact throw f

theorem bind {m : Session σ α} {n : Session τ α} {f : α → Session σ β} {g : α → Session τ β}
    (h : Matches R m n) (hrest : ∀ x, Matches R (f x) (g x)) : Matches R (m >>= f) (n >>= g) := by
  intro p q hR
  obtain ⟨x, p', q', hm, hn, hR'⟩ := h hR
  rw [ExceptT.run_bind, StateT.run_bind, ExceptT.run_bind, StateT.run_bind, hm, hn]
  cases x with
  | error f => exact ⟨.error f, p', q', rfl, rfl, hR'⟩
  | ok x => exact hrest x hR'

theorem bind_option {m : Session σ (Option α)} {n : Session τ (Option α)}
    {f : Option α → Session σ β} {g : Option α → Session τ β} (h : Matches R m n)
    (hnone : Matches R (f none) (g none)) (hsome : ∀ x, Matches R (f (some x)) (g (some x))) :
    Matches R (m >>= f) (n >>= g) := by
  refine h.bind fun found => ?_
  cases found with
  | none => exact hnone
  | some x => exact hsome x

theorem observe {m : Session σ α} {n : Session τ α} (h : Matches R m n) :
    Matches R (Run.observe m) (Run.observe n) := by
  intro p q hR
  obtain ⟨x, p', q', hm, hn, hR'⟩ := h hR
  refine ⟨.ok x, p', q', ?_, ?_, hR'⟩
  · change ((fun x => (Except.ok x.1, x.2)) <| m.run.run p) = _
    rw [hm]
  · change ((fun x => (Except.ok x.1, x.2)) <| n.run.run q) = _
    rw [hn]

theorem poll (settled : Except Failure α → Bool) {look : Session σ α} {look' : Session τ α}
    (h : Matches R look look') (n : Nat) :
    Matches R (Run.poll settled look n) (Run.poll settled look' n) := by
  induction n with
  | zero => exact h
  | succ n ih =>
      refine h.observe.bind fun result => ?_
      by_cases hsettled : settled result
      · simp only [hsettled, if_true]
        exact ofExcept result
      · simp only [hsettled]
        exact ih

theorem pursue {γ : Type} [Add γ] [Sub γ] [Div γ] [OfNat γ 1] [OfNat γ 2] (name : Text)
    {moveTo : γ → Session σ Unit} {moveTo' : γ → Session τ Unit} {value : Session σ Int}
    {value' : Session τ Int} (hmove : ∀ x, Matches R (moveTo x) (moveTo' x))
    (hvalue : Matches R value value') (target : Int) (left made : Nat) (p : Pursuit γ)
    (last : Int) :
    Matches R (Run.pursue name moveTo value target left made p last)
      (Run.pursue name moveTo' value' target left made p last) := by
  induction left generalizing made p last with
  | zero =>
      unfold Run.pursue
      split
      · exact .pure _
      · exact .throw _
  | succ left ih =>
      unfold Run.pursue
      split
      · exact .pure _
      · exact (hmove _).bind fun _ => hvalue.bind fun last => ih _ _ last

theorem correct {γ : Type} [Add γ] [Sub γ] [Div γ] [OfNat γ 1] [OfNat γ 2] (name : Text)
    {moveTo : γ → Session σ Unit} {moveTo' : γ → Session τ Unit} {value : Session σ Int}
    {value' : Session τ Int} (hmove : ∀ x, Matches R (moveTo x) (moveTo' x))
    (hvalue : Matches R value value') (target : Int) (start : γ) (maxIterations : Nat) :
    Matches R (Run.correct name moveTo value target start maxIterations)
      (Run.correct name moveTo' value' target start maxIterations) :=
  (hmove start).bind fun _ => hvalue.bind fun last =>
    (pursue name hmove hvalue target _ _ _ last).bind fun _ => .pure _

end Run.Matches

/-! ## Backends -/

/-- A call on a backend with its arguments, by the type of its answer. -/
inductive Request : Type → Type where
  | resolveByRole (role name : Text) (scope : Option Handle) : Request (Option Handle)
  | resolveByAttribute (attr value : Text) : Request (Option Handle)
  | resolveByLabel (name : Text) (scope : Option Handle) : Request (Option Handle)
  | resolveByCss (css : Text) (scope : Option Handle) : Request (Option Handle)
  | resolveSection (heading : Text) : Request (Option Handle)
  | isVisible (h : Handle) : Request Bool
  | click (h : Handle) : Request Unit
  | hover (h : Handle) : Request Unit
  | fill (h : Handle) (text : Text) : Request Unit
  | value (h : Handle) : Request Text
  | text (h : Handle) : Request Text
  | readAttribute (h : Handle) (name : Text) : Request (Option Text)
  | boundingBox (h : Handle) : Request (Option Box)
  | pointerMove (place : Point) : Request Unit
  | pointerDown : Request Unit
  | pointerUp : Request Unit
  | currentUrl : Request Text
  | title : Request Text
  | reload : Request Unit

namespace Backend

def answer (b : Backend σ) : {α : Type} → Request α → Session σ α
  | _, .resolveByRole role name scope => b.resolveByRole role name scope
  | _, .resolveByAttribute attr value => b.resolveByAttribute attr value
  | _, .resolveByLabel name scope => b.resolveByLabel name scope
  | _, .resolveByCss css scope => b.resolveByCss css scope
  | _, .resolveSection heading => b.resolveSection heading
  | _, .isVisible h => b.isVisible h
  | _, .click h => b.click h
  | _, .hover h => b.hover h
  | _, .fill h text => b.fill h text
  | _, .value h => b.value h
  | _, .text h => b.text h
  | _, .readAttribute h name => b.readAttribute h name
  | _, .boundingBox h => b.boundingBox h
  | _, .pointerMove place => b.pointerMove place
  | _, .pointerDown => b.pointerDown
  | _, .pointerUp => b.pointerUp
  | _, .currentUrl => b.currentUrl
  | _, .title => b.title
  | _, .reload => b.reload

/-- Every call gives the same answer on related pages and leaves related pages. -/
def Agree (R : σ → τ → Prop) (b : Backend σ) (b' : Backend τ) : Prop :=
  ∀ ⦃α : Type⦄ (r : Request α), Matches R (b.answer r) (b'.answer r)

end Backend

namespace Backend.Agree

variable {b : Backend σ} {b' : Backend τ} (h : Backend.Agree R b b')
include h

/-! ## Targets -/

theorem withinScope (scope : Option Scope) {find : Option Handle → Session σ (Option Handle)}
    {find' : Option Handle → Session τ (Option Handle)}
    (hfind : ∀ container, Matches R (find container) (find' container)) :
    Matches R (Query.withinScope b scope find) (Query.withinScope b' scope find') := by
  cases scope with
  | none => exact hfind none
  | some scope =>
      have hsome (c : Handle) := hfind (some c)
      cases scope with
      | titled title => exact (h (.resolveSection title)).bind_option (.pure none) hsome
      | region tag => exact (h (.resolveByCss tag none)).bind_option (.pure none) hsome
      | labelled label => exact (h (.resolveByLabel label none)).bind_option (.pure none) hsome

theorem candidate (q : Query) : Matches R (q.candidate b) (q.candidate b') := by
  cases q with
  | byAttribute attr value => exact h (.resolveByAttribute attr value)
  | byRole role name scope => exact h.withinScope scope fun s => h (.resolveByRole role name s)
  | byLabel name scope => exact h.withinScope scope fun s => h (.resolveByLabel name s)

theorem resolve (q : Query) : Matches R (q.resolve b) (q.resolve b') := by
  refine (h.candidate q).bind_option (.throw _) fun target => ?_
  refine (h (.isVisible target)).bind fun visible => ?_
  cases visible with
  | true => exact .pure target
  | false => exact .throw _

theorem locate (o : Options) (mode : SelectorMode) (c : Command) :
    Matches R (Run.locate b o mode c) (Run.locate b' o mode c) :=
  (h.resolve _).poll _ _

/-! ## Assertions -/

theorem plainText (c : Command) (target : Handle) :
    Matches R (Run.plainText b c target) (Run.plainText b' c target) := by
  unfold Run.plainText
  split
  · exact h (.value target)
  · exact h (.text target)

theorem describedTexts (ids : List Text) :
    Matches R (Run.describedTexts b ids) (Run.describedTexts b' ids) := by
  induction ids with
  | nil => exact .pure []
  | cons id ids ih =>
      refine (h (.resolveByAttribute "id" id)).bind_option ih fun target => ?_
      exact (h (.text target)).bind fun text => ih.bind fun texts => .pure (text :: texts)

theorem description (target : Handle) :
    Matches R (Run.description b target) (Run.description b' target) := by
  refine (h (.readAttribute target "aria-describedby")).bind_option ?_ fun ids => ?_
  · refine (h (.readAttribute target "aria-description")).bind_option ?_ fun text => .pure text
    exact (h (.readAttribute target "title")).bind fun title => .pure (title.getD [])
  · exact (h.describedTexts _).bind fun texts => .pure (Text.unwords texts)

theorem errorText (c : Command) (target : Handle) :
    Matches R (Run.errorText b c target) (Run.errorText b' c target) := by
  refine (h (.readAttribute target "aria-errormessage")).bind_option (.throw _) fun id => ?_
  exact (h (.resolveByAttribute "id" id)).bind_option (.throw _) fun message => h (.text message)

theorem readAspect (c : Command) (target : Handle) (a : Aspect) :
    Matches R (Run.readAspect b c target a) (Run.readAspect b' c target a) := by
  cases a with
  | plain => exact h.plainText c target
  | accessible => exact h.description target
  | error => exact h.errorText c target

theorem isPresent (q : Query) : Matches R (Run.isPresent b q) (Run.isPresent b' q) := by
  refine (h.resolve q).observe.bind fun found => ?_
  cases found with
  | ok target => exact .pure true
  | error f => cases f <;> first | exact .pure false | exact .throw _

theorem examine (q : Query) (c : Command) (a : Assertion) (expected : Option Text)
    (pattern : Option Regex) :
    Matches R (Run.examine b q c a expected pattern) (Run.examine b' q c a expected pattern) := by
  unfold Run.examine
  by_cases ha : a = .exist
  · simp only [ha, if_true]
    exact (h.isPresent q).bind fun present => .pure _
  · simp only [ha, if_false]
    exact (h.resolve q).bind fun target => (h.readAspect c target _).bind fun actual => .pure _

theorem ensure [Regex.Engine] (o : Options) (mode : SelectorMode) (vs : Variables) (c : Command) :
    Matches R (Run.ensure b o mode vs c) (Run.ensure b' o mode vs c) := by
  unfold Run.ensure
  generalize c.assertion.getD .exist = a
  refine (Matches.ofExcept _).bind fun expected => ?_
  have hlook (pattern : Option Regex) :=
    (h.examine (Query.plan mode c) c a expected pattern).poll (settledBy Check.passed)
      (retries o.timeoutMs o.pollMs)
  cases a with
  | fits =>
      cases expected with
      | none => exact hlook none
      | some source =>
          have hcompile := (Matches.ofExcept (R := R) (patternOf c source)).bind
            fun r => .pure (some r)
          exact hcompile.bind hlook
  | exact | contain | exist => exact hlook none

/-! ## Sliders -/

theorem locateControl (name : Text) (track : Handle) (kind : SliderKind) :
    Matches R (Control.locate b name track kind) (Control.locate b' name track kind) := by
  unfold Control.locate
  cases kind.thumbCss? with
  | none => exact .pure _
  | some css => exact (h (.resolveByCss css (some track))).bind fun thumb => .pure _

theorem read (c : Control) (name : Text) : Matches R (c.read b name) (c.read b' name) := by
  exact (h (.readAttribute c.readout name)).bind_option (.throw _) fun raw => .ofExcept _

theorem controlValue (c : Control) : Matches R (c.value b) (c.value b') := by
  unfold Control.value
  cases c.kind with
  | native => exact (h (.value c.readout)).bind fun raw => .ofExcept _
  | shadcn => exact h.read c _

theorem converge (c : Control) (target : Int) (maxIterations : Nat) :
    Matches R (Run.converge b c target maxIterations) (Run.converge b' c target maxIterations) := by
  refine (h.read c _).bind fun min => (h.read c _).bind fun max => ?_
  by_cases hrange : max ≤ min
  · simp only [hrange, if_true]
    intro p q hR
    exact ⟨.error _, p, q, rfl, rfl, hR⟩
  · simp only [hrange, if_false]
    refine (h (.boundingBox c.track)).bind_option (.throw _) fun box => ?_
    refine (h.controlValue c).bind fun current => ?_
    refine (Matches.ofExcept _).bind fun thumb => (Matches.ofExcept _).bind fun start => ?_
    have hplace (place : Point) : Matches R (b.pointerMove place) (b'.pointerMove place) :=
      h (.pointerMove place)
    have hmove (x : Float) := hplace ⟨x, box.y + box.height / 2⟩
    have hcorrect := Matches.correct c.name hmove (h.controlValue c) target start maxIterations
    refine (hmove _).bind fun _ => (h .pointerDown).bind fun _ => ?_
    -- The pointer is released whatever has come of the drag, and only then is that looked at.
    refine hcorrect.observe.bind fun result => (h .pointerUp).observe.bind fun released => ?_
    refine (Matches.ofExcept result).bind fun outcome => ?_
    exact (Matches.ofExcept released).bind fun _ => .pure outcome

/-! ## Commands -/

theorem perform [Regex.Engine] (o : Options) (at_ : Place) (vs : Variables) (c : Command) :
    Matches R (Run.perform b o at_ vs c) (Run.perform b' o at_ vs c) := by
  have hlocate := h.locate o at_.selector c
  unfold Run.perform
  cases c.action with
  | click => exact hlocate.bind fun target => (h (.click target)).bind fun _ => .pure _
  | hover => exact hlocate.bind fun target => (h (.hover target)).bind fun _ => .pure _
  | fill =>
      refine (Matches.ofExcept _).bind fun text => hlocate.bind fun target => ?_
      exact (h (.fill target text)).bind fun _ => .pure _
  | slide =>
      refine (Matches.ofExcept _).bind fun raw => (Matches.ofExcept _).bind fun value => ?_
      refine hlocate.bind fun target => ?_
      refine (h.locateControl c.object target at_.slider).bind fun control => ?_
      exact (h.converge control value o.maxIterations).bind fun _ => .pure _
  | store => exact hlocate.bind fun target => (h.plainText c target).bind fun text => .pure _
  | ensure => exact (h.ensure o at_.selector vs c).bind fun k => .pure _

theorem navigate [Regex.Engine] (o : Options) (at_ : Place) (url : Text) (title : Option Text) :
    Matches R (Run.navigate b o at_ url title) (Run.navigate b' o at_ url title) := by
  unfold Run.navigate
  refine (Matches.ofExcept _).bind fun p => ?_
  have hurl : Matches R (awaitUrl b p o.navigationTimeoutMs o.pollMs)
      (awaitUrl b' p o.navigationTimeoutMs o.pollMs) := by
    refine ((h .currentUrl).poll _ _).bind fun url => ?_
    by_cases hfits : p.isMatch url
    · simp only [hfits, if_true]
      exact .pure url
    · simp only [hfits]
      exact .throw _
  refine hurl.bind fun _ => ?_
  cases title with
  | none => exact .pure []
  | some title =>
      refine (Matches.ofExcept _).bind fun p => ?_
      have htitle : Matches R (awaitTitle b p o.timeoutMs o.pollMs)
          (awaitTitle b' p o.timeoutMs o.pollMs) :=
        ((h .title).poll _ _).bind fun last => .pure (last, p.isMatch last)
      refine htitle.bind fun seen => ?_
      obtain ⟨last, fits⟩ := seen
      cases fits with
      | true => exact .pure _
      | false => exact .pure _

end Backend.Agree

/-! ## Steps -/

/-- Related pages, and the same variables. -/
structure Run.World.Related (R : σ → τ → Prop) (w : World σ) (w' : World τ) : Prop where
  page : R w.page w'.page
  values : w.values = w'.values

namespace Backend.Agree

variable [Regex.Engine] {b : Backend σ} {b' : Backend τ} (h : Backend.Agree R b b')
  (o : Options) (at_ : Place)
include h

theorem performAll (cs : List Command) {w : World σ} {w' : World τ} (hw : World.Related R w w') :
    (Run.performAll b o at_ cs w).1 = (Run.performAll b' o at_ cs w').1 ∧
      World.Related R (Run.performAll b o at_ cs w).2 (Run.performAll b' o at_ cs w').2 := by
  induction cs generalizing w w' with
  | nil => exact ⟨rfl, hw⟩
  | cons c cs ih =>
      obtain ⟨x, p, q, hrun, hrun', hR⟩ := h.perform o at_ w.values c hw.page
      rw [hw.values] at hrun'
      cases x with
      | error f =>
          simp only [Run.performAll, hrun, hrun']
          exact ⟨trivial, hR, hw.values⟩
      | ok found =>
          have hnext : World.Related R ⟨p, found.update w.values⟩ ⟨q, found.update w'.values⟩ :=
            ⟨hR, congrArg found.update hw.values⟩
          obtain ⟨hfound, hrest⟩ := ih hnext
          simp only [Run.performAll, hrun, hrun', hfound]
          exact ⟨trivial, hrest⟩

theorem performStep (tagger : Sentence.Tagger) (step : Suite.Step) {w : World σ} {w' : World τ}
    (hw : World.Related R w w') :
    (Run.performStep b o tagger at_ step w).1 = (Run.performStep b' o tagger at_ step w').1 ∧
      World.Related R (Run.performStep b o tagger at_ step w).2
        (Run.performStep b' o tagger at_ step w').2 := by
  cases hstep : step.sentence? with
  | some text =>
      cases hparse : Sentence.parseWith tagger text with
      | error fault =>
          rw [performStep_of_fault hstep hparse, performStep_of_fault hstep hparse]
          exact ⟨rfl, hw⟩
      | ok commands =>
          obtain ⟨hfound, hrest⟩ := h.performAll o at_ commands hw
          rw [performStep_of_parse hstep hparse, performStep_of_parse hstep hparse, hfound]
          exact ⟨rfl, hrest⟩
  | none =>
      cases step with
      | sentence | command => exact nomatch hstep
      | navigation url title =>
          obtain ⟨x, p, q, hrun, hrun', hR⟩ := h.navigate o at_ url title hw.page
          simp only [Run.performStep, hrun, hrun']
          cases x with
          | error f => exact ⟨rfl, hR, hw.values⟩
          | ok found => exact ⟨rfl, hR, hw.values⟩

end Backend.Agree

end PlainSteps
