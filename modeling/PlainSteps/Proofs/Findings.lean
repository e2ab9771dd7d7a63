import Mathlib.Data.List.Forall2
import PlainSteps.Run.Perform

/-!
# What a step finds

A finding fits the command that left it (`fits_perform`), and a navigation leaves one finding at
most (`answers_navigate`). The main statement is `performAll_eq`: a list of commands is carried out
up to the first that fails, and the page is left as that one leaves it.
-/

namespace PlainSteps

/-- The action works on the page. -/
def Action.acts : Action → Bool
  | .click | .hover | .fill | .slide => true
  | .store | .ensure => false

namespace Run

variable {σ α β : Type}

/-! ## The answers of a session -/

/-- Every answer of a session has a property. -/
def Answers (m : Session σ α) (P : α → Prop) : Prop :=
  ∀ ⦃p q : σ⦄ ⦃x : α⦄, m.run.run p = (.ok x, q) → P x

theorem Answers.pure {P : α → Prop} {x : α} (h : P x) : Answers (σ := σ) (pure x) P := by
  intro p q y hy
  obtain rfl : x = y := Except.ok.inj (congrArg Prod.fst hy)
  exact h

theorem run_bind_of_ok {m : Session σ α} {f : α → Session σ β} {p p' : σ} {x : α}
    (h : m.run.run p = (.ok x, p')) : (m >>= f).run.run p = (f x).run.run p' := by
  rw [ExceptT.run_bind, StateT.run_bind, h]
  rfl

theorem run_bind_cases {m : Session σ α} {f : α → Session σ β} {p q : σ}
    {result : Except Failure β} (h : (m >>= f).run.run p = (result, q)) :
    (∃ g, m.run.run p = (.error g, q) ∧ result = .error g) ∨
      ∃ x p', m.run.run p = (.ok x, p') ∧ (f x).run.run p' = (result, q) := by
  rw [ExceptT.run_bind, StateT.run_bind] at h
  cases hm : m.run.run p with
  | mk first p' =>
      rw [hm] at h
      cases first with
      | error g =>
          obtain ⟨rfl, rfl⟩ : .error g = result ∧ p' = q := Prod.mk.inj h
          exact .inl ⟨g, rfl, rfl⟩
      | ok x => exact .inr ⟨x, p', rfl, h⟩

theorem Answers.bind {P : β → Prop} {m : Session σ α} {f : α → Session σ β}
    (h : ∀ x, Answers (f x) P) : Answers (m >>= f) P := by
  intro p q y hy
  obtain ⟨g, -, herror⟩ | ⟨x, p', -, hrest⟩ := run_bind_cases hy
  · exact nomatch herror
  · exact h x hrest

theorem Answers.ofExcept {α : Type} (x : Except Failure α) :
    Answers (σ := σ) (MonadExcept.ofExcept x) fun y => x = .ok y := by
  intro p q y hy
  cases x with
  | ok x =>
      obtain rfl : x = y := Except.ok.inj (congrArg Prod.fst hy)
      rfl
  | error f => exact nomatch congrArg Prod.fst hy

theorem Answers.andThen {α β : Type} {P : β → Prop} {Q : α → Prop} {m : Session σ α}
    {g : α → Session σ β} (h : Answers m Q) (hrest : ∀ x, Q x → Answers (g x) P) :
    Answers (m >>= g) P := by
  intro p q y hy
  obtain ⟨f, -, herror⟩ | ⟨x, p', hm, hx⟩ := run_bind_cases hy
  · exact nomatch herror
  · exact hrest x (h hm) hx

theorem Answers.poll {α : Type} {P : α → Prop} (settled : Except Failure α → Bool)
    {look : Session σ α} (h : Answers look P) (n : Nat) : Answers (Run.poll settled look n) P := by
  induction n with
  | zero => exact h
  | succ n ih =>
      intro p q x hx
      obtain ⟨f, -, hnone⟩ | ⟨result, p', hlook, hrest⟩ := run_bind_cases hx
      · exact nomatch hnone
      · have hresult : (look.run.run p).1 = result := Except.ok.inj (congrArg Prod.fst hlook)
        cases hsettled : settled result with
        | false =>
            rw [hsettled] at hrest
            exact ih hrest
        | true =>
            rw [hsettled] at hrest
            cases result with
            | error f => exact nomatch congrArg Prod.fst hrest
            | ok y =>
                obtain rfl : y = x := Except.ok.inj (congrArg Prod.fst hrest)
                exact h (Prod.ext hresult rfl)

/-! ## Findings of commands -/

namespace Finding

/-- The finding can be one that a command leaves at a place. -/
def Fits (at_ : Place) (c : Command) : Finding → Prop
  | performed action command _ => c.action.acts ∧ action = c.action ∧ command = c.render
  | stored name _ => c.action = .store ∧ name = c.variableName.getD []
  | held command => c.action = .ensure ∧ command = c.render
  | titleHeld => False
  | refuted f =>
    c.action = .ensure ∧ f.case = at_.case ∧ f.step = at_.step ∧ f.command = c.render

/-- The finding belongs to a place. -/
def IsAt (at_ : Place) : Finding → Prop
  | refuted f => f.case = at_.case ∧ f.step = at_.step
  | _ => True

theorem Fits.isAt {at_ : Place} {c : Command} {found : Finding} (h : found.Fits at_ c) :
    found.IsAt at_ := by
  cases found with
  | refuted f => exact ⟨h.2.1, h.2.2.1⟩
  | _ => trivial

end Finding

theorem Check.fits_finding {c : Command} (h : c.action = .ensure) (k : Check) (at_ : Place) :
    (k.finding at_ c.render).Fits at_ c := by
  unfold Check.finding
  split
  · exact ⟨h, rfl⟩
  · exact ⟨h, rfl, rfl, rfl⟩

section Command

variable [Regex.Engine] {b : Backend σ} {o : Options} {at_ : Place} {vs : Variables} {c : Command}

theorem fits_perform : Answers (perform b o at_ vs c) (Finding.Fits at_ c) := by
  have hacts {a : Action} (h : c.action = a) (ha : a.acts) (target : Text) :
      (Finding.performed a c.render target).Fits at_ c := ⟨h ▸ ha, h.symm, rfl⟩
  unfold perform
  cases haction : c.action with
  | click | hover => exact .bind fun h => .bind fun _ => .pure (hacts haction rfl h.id)
  | fill => exact .bind fun _ => .bind fun h => .bind fun _ => .pure (hacts haction rfl h.id)
  | slide =>
      refine .bind fun _ => .bind fun _ => .bind fun h => .bind fun _ => .bind fun _ => ?_
      exact .pure (hacts haction rfl h.id)
  | store => exact .bind fun _ => .bind fun _ => .pure ⟨haction, rfl⟩
  | ensure => exact .bind fun k => .pure (k.fits_finding haction at_)

/-- An assertion that does not hold is an answer: only a look that fails ends the step. -/
theorem perform_ensure_error (haction : c.action = .ensure) {f : Failure} {p q : σ}
    (h : (perform b o at_ vs c).run.run p = (.error f, q)) :
    (ensure b o at_.selector vs c).run.run p = (.error f, q) := by
  simp only [perform, haction] at h
  obtain ⟨g, hlook, herror⟩ | ⟨k, p', -, hrest⟩ := run_bind_cases h
  · rw [Except.error.inj herror]
    exact hlook
  · exact nomatch congrArg Prod.fst hrest

/-- Whatever a navigation answers, it has looked at the title at most once. -/
theorem answers_navigate (url : Text) (title : Option Text) :
    Answers (navigate b o at_ url title) fun found =>
      (title = none ∧ found = []) ∨ (title.isSome ∧ found = [.titleHeld]) ∨
        ∃ f, title.isSome ∧ found = [.refuted f] ∧ f.case = at_.case ∧ f.step = at_.step := by
  unfold navigate
  refine .bind fun _ => .bind fun _ => ?_
  cases title with
  | none => exact .pure (.inl ⟨rfl, rfl⟩)
  | some title =>
      refine .bind fun _ => .bind fun seen => ?_
      obtain ⟨last, fits⟩ := seen
      cases fits with
      | true => exact .pure (.inr (.inl ⟨rfl, rfl⟩))
      | false => exact .pure (.inr (.inr ⟨_, rfl, rfl, rfl, rfl⟩))

end Command

/-! ## Lists of commands -/

section Commands

variable [Regex.Engine] (b : Backend σ) (o : Options) (at_ : Place)

/-- Commands that run to their end one behind the other, what they find, and the world that each
leaves to the next. -/
inductive Completes : World σ → List Command → List Finding → World σ → Prop
  | nil (w : World σ) : Completes w [] [] w
  | cons {w w' : World σ} {c : Command} {cs : List Command} {found : Finding}
      {fs : List Finding} {page : σ} :
      (perform b o at_ w.values c).run.run w.page = (.ok found, page) →
      Completes ⟨page, found.update w.values⟩ cs fs w' → Completes w (c :: cs) (found :: fs) w'

/-- A command fails in the world `v`, and the world is `w` then. -/
def Fails (v : World σ) (c : Command) (f : Failure) (w : World σ) : Prop :=
  (perform b o at_ v.values c).run.run v.page = (.error f, w.page) ∧ w.values = v.values

variable {b o at_}

theorem Completes.fits {w v : World σ} {cs : List Command} {fs : List Finding}
    (h : Completes b o at_ w cs fs v) : List.Forall₂ (fun c f => f.Fits at_ c) cs fs := by
  induction h with
  | nil w => exact .nil
  | cons hperform _ ih => exact .cons (fits_perform hperform) ih

theorem Completes.forall_of_fits {P : Finding → Prop} (hP : ∀ c f, f.Fits at_ c → P f)
    {w v : World σ} {cs : List Command} {fs : List Finding} (h : Completes b o at_ w cs fs v) :
    ∀ found ∈ fs, P found := by
  induction h with
  | nil w => exact nofun
  | cons hperform _ ih => exact List.forall_mem_cons.mpr ⟨hP _ _ (fits_perform hperform), ih⟩

variable (b o at_) in
/-- Commands are carried out up to the first that fails. -/
theorem performAll_eq (cs : List Command) (w : World σ) :
    ∃ k ≤ cs.length, ∃ fs v, Completes b o at_ w (cs.take k) fs v ∧
      ((k = cs.length ∧ performAll b o at_ cs w = ((fs, none), v)) ∨
        ∃ c f w', cs[k]? = some c ∧ Fails b o at_ v c f w' ∧
          performAll b o at_ cs w = ((fs, some f), w')) := by
  -- Over all worlds, since the rest begins in the world that the first command leaves.
  induction cs generalizing w with
  | nil => exact ⟨0, Nat.le_refl 0, [], w, .nil w, .inl ⟨rfl, rfl⟩⟩
  | cons c cs ih =>
      cases hperform : (perform b o at_ w.values c).run.run w.page with
      | mk result page =>
          cases result with
          | error f =>
              refine ⟨0, Nat.zero_le _, [], w, .nil w, .inr ⟨c, f, { w with page }, rfl, ?_, ?_⟩⟩
              · exact ⟨hperform, rfl⟩
              · simp only [performAll, hperform]
          | ok found =>
              obtain ⟨k, hk, fs, v, hdone, hend⟩ := ih ⟨page, found.update w.values⟩
              refine ⟨k + 1, Nat.succ_le_succ hk, found :: fs, v, .cons hperform hdone, ?_⟩
              obtain ⟨rfl, hall⟩ | ⟨d, f, w', hd, hfails, hall⟩ := hend
              · exact .inl ⟨rfl, by simp only [performAll, hperform, hall]⟩
              · exact .inr ⟨d, f, w', hd, hfails, by simp only [performAll, hperform, hall]⟩

theorem forall_performAll {P : Finding → Prop} (hP : ∀ c f, f.Fits at_ c → P f)
    (cs : List Command) (w : World σ) : ∀ found ∈ (performAll b o at_ cs w).1.1, P found := by
  obtain ⟨k, -, fs, v, hdone, ⟨-, hall⟩ | ⟨c, f, w', -, -, hall⟩⟩ :=
    performAll_eq b o at_ cs w
  · rw [hall]
    exact hdone.forall_of_fits hP
  · rw [hall]
    exact hdone.forall_of_fits hP

end Commands

/-! ## Steps -/

section Step

variable [Regex.Engine] {b : Backend σ} {o : Options} {tagger : Sentence.Tagger} {at_ : Place}
variable {step : Suite.Step} {w : World σ}

theorem performStep_of_parse {text : Text} {commands : List Command}
    (hstep : step.sentence? = some text)
    (hparse : Sentence.parseWith tagger text = .ok commands) :
    performStep b o tagger at_ step w =
      (⟨commands.length, (performAll b o at_ commands w).1.1, (performAll b o at_ commands w).1.2⟩,
        (performAll b o at_ commands w).2) := by
  cases step with
  | navigation url title => exact nomatch hstep
  | sentence | command =>
      obtain rfl := Option.some.inj hstep
      simp only [performStep, Suite.Step.commands, Suite.Step.sentence?, Option.elim, hparse]

/-- A sentence that holds no commands does nothing. -/
theorem performStep_of_fault {text : Text} {fault : Sentence.Fault}
    (hstep : step.sentence? = some text)
    (hparse : Sentence.parseWith tagger text = .error fault) :
    performStep b o tagger at_ step w = ({ failure := some (.sentence fault) }, w) := by
  cases step with
  | navigation url title => exact nomatch hstep
  | sentence | command =>
      obtain rfl := Option.some.inj hstep
      simp only [performStep, Suite.Step.commands, Suite.Step.sentence?, Option.elim, hparse]

variable (b o tagger at_ w) in
/-- A navigation that does not fail has looked at the title once, if there is one to look at. -/
theorem performStep_navigation (url : Text) (title : Option Text) :
    let found := (performStep b o tagger at_ (.navigation url title) w).1
    (∃ f, found = { failure := some f }) ∨ (title = none ∧ found = {}) ∨
      (title.isSome ∧ found = { findings := [.titleHeld] }) ∨
        ∃ f, title.isSome ∧ found = { findings := [.refuted f] } ∧
          f.case = at_.case ∧ f.step = at_.step := by
  simp only [performStep]
  cases hrun : (navigate b o at_ url title).run.run w.page with
  | mk result page =>
      cases result with
      | error f => exact .inl ⟨f, rfl⟩
      | ok fs =>
          obtain ⟨htitle, rfl⟩ | ⟨htitle, rfl⟩ | ⟨f, htitle, rfl, hf⟩ :=
            answers_navigate url title hrun
          · exact .inr (.inl ⟨htitle, rfl⟩)
          · exact .inr (.inr (.inl ⟨htitle, rfl⟩))
          · exact .inr (.inr (.inr ⟨f, htitle, rfl, hf⟩))

theorem isAt_performStep :
    ∀ found ∈ (performStep b o tagger at_ step w).1.findings, found.IsAt at_ := by
  cases hstep : step.sentence? with
  | some text =>
      cases hparse : Sentence.parseWith tagger text with
      | error fault => rw [performStep_of_fault hstep hparse]; exact nofun
      | ok commands =>
          rw [performStep_of_parse hstep hparse]
          exact forall_performAll (fun _ _ h => h.isAt) commands w
  | none =>
      cases step with
      | sentence | command => exact nomatch hstep
      | navigation url title =>
          obtain ⟨f, hfound⟩ | ⟨-, hfound⟩ | ⟨-, hfound⟩ | ⟨f, -, hfound, hf⟩ :=
            performStep_navigation b o tagger at_ w url title
          · rw [hfound]; exact nofun
          · rw [hfound]; exact nofun
          · rw [hfound]; exact List.forall_mem_singleton.mpr trivial
          · rw [hfound]; exact List.forall_mem_singleton.mpr hf

end Step

end Run

end PlainSteps
