import PlainSteps.Backend.Scripted
import PlainSteps.Proofs.Failures
import PlainSteps.Proofs.Reloading

/-!
# Backends that report

A backend reports its failures if it fails in no other way than as a backend. Pages in memory do
(`Page.reports_backend`), and so does every script before a backend that does
(`Scripted.reports_backend`).
-/

namespace PlainSteps

open Run

variable {σ α β : Type} {P : Failure → Prop}

namespace Run.Raises

theorem modify (g : σ → σ) : Raises (modify g : Session σ Unit) P := by
  intro p q f hf
  exact nomatch congrArg Prod.fst hf

theorem get : Raises (get : Session σ σ) P := by
  intro p q f hf
  exact nomatch congrArg Prod.fst hf

end Run.Raises

/-- The page could not carry out a call. -/
def Failure.IsReport (f : Failure) : Prop := ∃ message, f = .backend message

def Backend.Reports (b : Backend σ) : Prop := ∀ f, b.CanRaise f → f.IsReport

theorem bind_eq_error {ε : Type} {x : Except ε α} {g : α → Except ε β} {e : ε}
    (h : x >>= g = .error e) : x = .error e ∨ ∃ y, x = .ok y ∧ g y = .error e := by
  cases x with
  | error e' => exact .inl (congrArg Except.error (Except.error.inj h))
  | ok y => exact .inr ⟨y, rfl, h⟩

namespace Page

theorem isReport_index {p : Page} {h : Handle} {f : Failure} (hf : p.index h = .error f) :
    f.IsReport := by
  unfold index at hf
  split at hf
  · cases hf
  · exact ⟨_, (Except.error.inj hf).symm⟩

theorem isReport_element {p : Page} {h : Handle} {f : Failure} (hf : p.element h = .error f) :
    f.IsReport := by
  obtain hindex | ⟨i, -, hnone⟩ := bind_eq_error hf
  · exact isReport_index hindex
  · cases hnone

theorem isReport_find {p : Page} {scope : Option Handle} {fits : Element → Bool} {f : Failure}
    (hf : p.find scope fits = .error f) : f.IsReport := by
  obtain hscope | ⟨i, -, hnone⟩ := bind_eq_error hf
  · cases scope with
    | none => cases hscope
    | some h =>
        obtain hindex | ⟨i, -, hnone⟩ := bind_eq_error hscope
        · exact isReport_index hindex
        · cases hnone
  · cases hnone

theorem isReport_applyEffects {p : Page} {effects : List Effect} {f : Failure}
    (hf : (p.applyEffects effects).2 = .error f) : f.IsReport := by
  induction effects generalizing p with
  | nil => cases hf
  | cons e effects ih =>
      unfold applyEffects at hf
      cases happly : p.applyEffect e with
      | ok q =>
          rw [happly] at hf
          exact ih hf
      | error g =>
          rw [happly] at hf
          obtain rfl := Except.error.inj hf
          cases e with
          | navigate => cases happly
          | setText | setVisible =>
              obtain hindex | ⟨i, -, hnone⟩ := bind_eq_error happly
              · exact isReport_index hindex
              · cases hnone
          | copyValue =>
              obtain helement | ⟨e, -, hrest⟩ := bind_eq_error happly
              · exact isReport_element helement
              · obtain hindex | ⟨i, -, hnone⟩ := bind_eq_error hrest
                · exact isReport_index hindex
                · cases hnone

theorem raises_ask {g : Page → Except Failure α} (h : ∀ p f, g p = .error f → P f) :
    Raises (ask g) P := by
  intro p q f hf
  rw [run_ask] at hf
  exact h p f (congrArg Prod.fst hf)

theorem raises_change {g : Page → Page × Except Failure Unit}
    (h : ∀ p f, (g p).2 = .error f → P f) : Raises (change g) P := by
  intro p q f hf
  rw [run_change] at hf
  exact h p f (congrArg Prod.fst hf)

/-- A page in memory fails as a backend alone. -/
theorem reports_backend : Page.backend.Reports := by
  rintro f ⟨α, request, p, q, hf⟩
  refine (?_ : Raises (Page.backend.answer request) Failure.IsReport) hf
  have hindex (h : Handle) (g : Page → Nat → α) :
      Raises (ask fun p => (p.index h).map (g p)) Failure.IsReport :=
    raises_ask fun p f hf => isReport_index (eq_error_of_map hf)
  have helement (h : Handle) (g : Page → Nat × Element → α) :
      Raises (ask fun p => (p.element h).map (g p)) Failure.IsReport :=
    raises_ask fun p f hf => isReport_element (eq_error_of_map hf)
  have hfind (scope : Option Handle) (fits : Element → Bool) :
      Raises (ask (·.find scope fits)) Failure.IsReport := raises_ask fun p f => isReport_find
  have hask (g : Page → α) : Raises (ask fun p => .ok (g p)) Failure.IsReport :=
    raises_ask fun p f hf => nomatch hf
  cases request with
  | resolveByRole role name scope => exact hfind scope _
  | resolveByAttribute attr value => exact hfind none (·.hasAttribute attr value)
  | resolveByLabel name scope => exact hfind scope _
  | resolveByCss css scope =>
      simp only [Backend.answer, backend]
      cases Selector.ofText? css with
      | some s => exact hfind scope _
      | none => exact .throw ⟨_, rfl⟩
  | resolveSection heading => exact hask _
  | isVisible h => exact hindex h _
  | text h => exact hindex h _
  | value h => exact helement h _
  | readAttribute h => exact helement h _
  | boundingBox h => exact helement h _
  | click h =>
      refine (raises_ask fun p f => isReport_element).bind fun e => ?_
      exact raises_change fun p f => isReport_applyEffects
  | hover h =>
      refine (raises_ask fun p f => isReport_element).bind fun e => ?_
      exact raises_change fun p f => isReport_applyEffects
  | fill h => exact (raises_ask fun p f => isReport_index).bind fun i => Raises.modify _
  | pointerMove => exact Raises.modify _
  | pointerDown => exact Raises.modify _
  | pointerUp => exact Raises.modify _
  | reload => exact Raises.modify _
  | currentUrl => exact hask _
  | title => exact hask _

end Page

namespace Scripted

variable {b : Backend σ}

theorem raises_inner {m : Session σ α} (h : Raises m P) : Raises (inner m) P := by
  intro p q f hf
  have hresult : (m.run.run p.page).1 = .error f := congrArg Prod.fst hf
  exact h (Prod.ext hresult rfl)

theorem raises_answered (call : Call) (answer : Rule → Option α) {m : Session σ α}
    (h : Raises m Failure.IsReport) : Raises (answered call answer m) Failure.IsReport := by
  refine (Raises.modify _).bind fun _ => Raises.get.bind fun s => ?_
  split
  · split
    · exact .throw ⟨_, rfl⟩
    · exact .pure _
    · exact raises_inner h
  · exact raises_inner h

/-- Every call may be answered by a rule, and else reaches the backend. -/
theorem exists_answered (request : Request α) : ∃ call answer,
    (Scripted.backend b).answer request = answered call answer (b.answer request) := by
  cases request <;> exact ⟨_, _, rfl⟩

/-- A script makes a backend fail as one alone. -/
theorem reports_backend (h : b.Reports) : (Scripted.backend b).Reports := by
  rintro f ⟨α, request, p, q, hf⟩
  obtain ⟨call, answer, hanswered⟩ := exists_answered (b := b) request
  rw [hanswered] at hf
  exact raises_answered call answer (fun p q f hf => h f ⟨α, request, p, q, hf⟩) hf

end Scripted

end PlainSteps
