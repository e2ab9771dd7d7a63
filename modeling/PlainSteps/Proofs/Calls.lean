import PlainSteps.Proofs.Agreement

/-!
# Calls in a log

`Backend.logged` keeps a log beside the page: every call is written down with its answer, and is
answered as without the log (`agree_logged`). `Run.Logs` says what a session adds to the log; it
goes through a session call by call.
-/

namespace PlainSteps

open Run

variable {σ α β : Type}

/-- A call with its answer. Calls that drive no slider are not told apart. -/
inductive Exchange where
  | value (h : Handle) (answer : Except Failure Text)
  | readAttribute (h : Handle) (name : Text) (answer : Except Failure (Option Text))
  | box (h : Handle) (answer : Except Failure (Option Box))
  | move (place : Point) (answer : Except Failure Unit)
  | press (answer : Except Failure Unit)
  | release (answer : Except Failure Unit)
  | other (answer : Except Failure Unit)

namespace Exchange

/-- The call failed in a way. -/
def FailsWith (f : Failure) : Exchange → Prop
  | value _ answer => answer = .error f
  | readAttribute _ _ answer => answer = .error f
  | box _ answer => answer = .error f
  | move _ answer | press answer | release answer | other answer => answer = .error f

def isMove : Exchange → Bool
  | move .. => true
  | _ => false

/-- The call presses or releases the pointer. -/
def isButton : Exchange → Bool
  | press _ | release _ => true
  | _ => false

end Exchange

def Request.exchange : {α : Type} → Request α → Except Failure α → Exchange
  | _, .value h, answer => .value h answer
  | _, .readAttribute h name, answer => .readAttribute h name answer
  | _, .boundingBox h, answer => .box h answer
  | _, .pointerMove place, answer => .move place answer
  | _, .pointerDown, answer => .press answer
  | _, .pointerUp, answer => .release answer
  | _, _, answer => .other (answer.map fun _ => ())

/-! ## Logged calls -/

namespace Backend

/-- The backend that answers every request in one way. -/
def ofAnswers (answer : {α : Type} → Request α → Session σ α) : Backend σ where
  resolveByRole role name scope := answer (.resolveByRole role name scope)
  resolveByAttribute attr value := answer (.resolveByAttribute attr value)
  resolveByLabel name scope := answer (.resolveByLabel name scope)
  resolveByCss css scope := answer (.resolveByCss css scope)
  resolveSection heading := answer (.resolveSection heading)
  isVisible h := answer (.isVisible h)
  click h := answer (.click h)
  hover h := answer (.hover h)
  fill h text := answer (.fill h text)
  value h := answer (.value h)
  text h := answer (.text h)
  readAttribute h name := answer (.readAttribute h name)
  boundingBox h := answer (.boundingBox h)
  pointerMove place := answer (.pointerMove place)
  pointerDown := answer .pointerDown
  pointerUp := answer .pointerUp
  currentUrl := answer .currentUrl
  title := answer .title
  reload := answer .reload

theorem answer_ofAnswers (answer : {α : Type} → Request α → Session σ α) (r : Request α) :
    (ofAnswers answer).answer r = answer r := by
  cases r <;> rfl

/-- The calls on a page with a log of them. -/
def logged (b : Backend σ) : Backend (σ × List Exchange) :=
  ofAnswers fun r => ExceptT.mk fun (p, log) =>
    let (x, q) := (b.answer r).run.run p
    (x, q, log ++ [r.exchange x])

theorem run_logged {b : Backend σ} {r : Request α} {x : Except Failure α} {p q : σ}
    (h : (b.answer r).run.run p = (x, q)) (log : List Exchange) :
    (b.logged.answer r).run.run (p, log) = (x, q, log ++ [r.exchange x]) := by
  rw [logged, answer_ofAnswers]
  change (let (x, q) := (b.answer r).run.run p; (x, q, log ++ [r.exchange x])) = _
  rw [h]

/-- The log changes no answer and nothing on the page. -/
theorem agree_logged (b : Backend σ) : Agree (fun p q => q.1 = p) b b.logged := by
  rintro α r p ⟨_, log⟩ rfl
  exact ⟨_, _, _, rfl, run_logged rfl log, rfl⟩

end Backend

/-! ## What a session logs -/

theorem Run.run_observe {m : Session σ α} {p q : σ} {x : Except Failure α}
    (h : m.run.run p = (x, q)) : (observe m).run.run p = (.ok x, q) := by
  change ((fun x => (Except.ok x.1, x.2)) <| m.run.run p) = _
  rw [h]

/-- Whatever the page, the calls that a session makes go with its answer as `P` says. -/
def Run.Logs (m : Session (σ × List Exchange) α) (P : Except Failure α → List Exchange → Prop) :
    Prop :=
  ∀ p log, ∃ x q added, m.run.run (p, log) = (x, q, log ++ added) ∧ P x added

namespace Run.Logs

variable {m : Session (σ × List Exchange) α} {P Q : Except Failure α → List Exchange → Prop}

theorem mono (h : Logs m P) (hPQ : ∀ x log, P x log → Q x log) : Logs m Q := by
  intro p log
  obtain ⟨x, q, added, hrun, hP⟩ := h p log
  exact ⟨x, q, added, hrun, hPQ x added hP⟩

theorem ofExcept {x : Except Failure α} (h : P x []) :
    Logs (σ := σ) (MonadExcept.ofExcept x) P := by
  intro p log
  refine ⟨x, p, [], ?_, h⟩
  rw [List.append_nil]
  cases x <;> rfl

theorem pure {x : α} (h : P (.ok x) []) : Logs (σ := σ) (Pure.pure x) P := by
  intro p log
  refine ⟨.ok x, p, [], ?_, h⟩
  rw [List.append_nil]
  rfl

theorem throw {f : Failure} (h : P (.error f) []) :
    Logs (σ := σ) (MonadExcept.throw f) P := by
  intro p log
  refine ⟨.error f, p, [], ?_, h⟩
  rw [List.append_nil]
  rfl

theorem call (b : Backend σ) {r : Request α} (h : ∀ x, P x [r.exchange x]) :
    Logs (b.logged.answer r) P := by
  intro p log
  exact ⟨_, _, _, Backend.run_logged rfl log, h _⟩

/-- A session either stops with its first part, or goes on behind what that has logged. -/
theorem bind {R : Except Failure β → List Exchange → Prop} {f : α → Session (σ × List Exchange) β}
    (h : Logs m P) (herror : ∀ g log, P (.error g) log → R (.error g) log)
    (hok : ∀ x front, P (.ok x) front → Logs (f x) fun z back => R z (front ++ back)) :
    Logs (m >>= f) R := by
  intro p log
  obtain ⟨x, q, front, hrun, hP⟩ := h p log
  cases x with
  | error g =>
      refine ⟨.error g, q, front, ?_, herror g front hP⟩
      rw [ExceptT.run_bind, StateT.run_bind, hrun]
      rfl
  | ok x =>
      obtain ⟨z, q', back, hrest, hR⟩ := hok x front hP q (log ++ front)
      refine ⟨z, q', front ++ back, ?_, hR⟩
      rw [run_bind_of_ok hrun, hrest, List.append_assoc]

theorem observe (h : Logs m P) : Logs (Run.observe m) fun z log => ∃ x, z = .ok x ∧ P x log := by
  intro p log
  obtain ⟨x, q, added, hrun, hP⟩ := h p log
  exact ⟨.ok x, q, added, run_observe hrun, x, rfl, hP⟩

end Run.Logs

end PlainSteps
