import PlainSteps.Page
import PlainSteps.Proofs.Agreement

/-!
# Reloading a page

`Page.Keeps` is what every call leaves true of a page: the copy that a reload brings back, or the
document itself while there is no copy, is the first document; and no slider is dragged without a
copy. No call looks at the calls before it, so two pages that differ in these alone are never told
apart (`agree_backend`). The main statement is `reload_restores`.
-/

namespace PlainSteps

open Run

variable {α : Type}

namespace Page

/-! ## What a page keeps -/

/-- What a copy of the page would hold. -/
def document (p : Page) : Snapshot := ⟨p.elements, p.url, p.title⟩

/-- No call has acted on the page, or none since it was reloaded. -/
structure IsFresh (p : Page) : Prop where
  pristine : p.pristine = none
  grabbed : p.grabbed = none
  pointer : p.pointer = none

/-- The page comes by calls from one with the document `first`, to which the calls `calls` had been
made: there is a copy of that document, or else nothing has changed it. -/
structure Keeps (first : Snapshot) (calls : List Text) (p : Page) : Prop where
  copy : p.pristine = some first ∨ p.pristine = none ∧ p.grabbed = none ∧ p.document = first
  calls : calls <:+ p.calls

theorem IsFresh.keeps {p : Page} (h : p.IsFresh) : p.Keeps p.document p.calls :=
  ⟨.inr ⟨h.pristine, h.grabbed, rfl⟩, List.suffix_refl p.calls⟩

theorem pristine_applyEffect {p q : Page} {e : Effect} (h : p.applyEffect e = .ok q) :
    q.pristine = p.pristine ∧ q.calls = p.calls := by
  cases e with
  | navigate url title =>
      obtain rfl := Except.ok.inj h
      exact ⟨rfl, rfl⟩
  | setText target text | setVisible target visible =>
      simp only [applyEffect] at h
      cases hi : p.index target with
      | error f => rw [hi] at h; exact nomatch h
      | ok i =>
          rw [hi] at h
          obtain rfl := Except.ok.inj h
          exact ⟨rfl, rfl⟩
  | copyValue source target =>
      simp only [applyEffect] at h
      cases he : p.element source with
      | error f => rw [he] at h; exact nomatch h
      | ok e =>
          cases hi : p.index target with
          | error f => rw [he, hi] at h; exact nomatch h
          | ok i =>
              rw [he, hi] at h
              obtain rfl := Except.ok.inj h
              exact ⟨rfl, rfl⟩

theorem pristine_applyEffects (es : List Effect) (p : Page) :
    (p.applyEffects es).1.pristine = p.pristine ∧ (p.applyEffects es).1.calls = p.calls := by
  induction es generalizing p with
  | nil => exact ⟨rfl, rfl⟩
  | cons e es ih =>
      rw [applyEffects]
      cases he : p.applyEffect e with
      | error f => exact ⟨rfl, rfl⟩
      | ok q =>
          obtain ⟨hpristine, hcalls⟩ := pristine_applyEffect he
          exact ⟨(ih q).1.trans hpristine, (ih q).2.trans hcalls⟩

theorem isFresh_reloaded (p : Page) : p.reloaded.IsFresh := by
  unfold reloaded
  cases h : p.pristine with
  | none => exact ⟨h, rfl, rfl⟩
  | some s => exact ⟨rfl, rfl, rfl⟩

theorem calls_reloaded (p : Page) : p.reloaded.calls = p.calls := by
  unfold reloaded
  cases p.pristine <;> rfl

namespace Keeps

variable {first : Snapshot} {calls : List Text} {p : Page} (h : p.Keeps first calls)
include h

theorem record (call : Text) : (p.record call).Keeps first calls :=
  ⟨h.copy, h.calls.trans (List.suffix_cons call p.calls)⟩

theorem pristine_keepPristine : p.keepPristine.pristine = some first := by
  obtain hcopy | ⟨hnone, -, hdocument⟩ := h.copy
  · simp [keepPristine, hcopy]
  · simp [keepPristine, hnone, ← hdocument, document]

/-- Behind a copy a call may change the document and the pointer as it likes. -/
theorem keepPristine {q : Page} (hpristine : q.pristine = p.keepPristine.pristine)
    (hcalls : q.calls = p.calls) : q.Keeps first calls := by
  refine ⟨.inl (hpristine.trans h.pristine_keepPristine), ?_⟩
  rw [hcalls]
  exact h.calls

theorem applyEffects (es : List Effect) {q : Page}
    (hpristine : q.pristine = p.keepPristine.pristine) (hcalls : q.calls = p.calls) :
    (q.applyEffects es).1.Keeps first calls := by
  obtain ⟨hpristine', hcalls'⟩ := pristine_applyEffects es q
  exact h.keepPristine (hpristine'.trans hpristine) (hcalls'.trans hcalls)

/-- A move of the pointer keeps no copy. It drags a slider only if there is one. -/
theorem movePointer (place : Point) : (p.movePointer place).Keeps first calls := by
  have hcalls : (p.movePointer place).calls = p.calls := by
    unfold Page.movePointer
    cases p.grabbed <;> rfl
  refine ⟨?_, hcalls ▸ h.calls⟩
  unfold Page.movePointer
  obtain hcopy | ⟨hnone, hgrabbed, hdocument⟩ := h.copy
  · cases p.grabbed with
    | none => exact .inl hcopy
    | some i => exact .inl hcopy
  · simp only [hgrabbed, Option.elim]
    exact .inr ⟨hnone, trivial, hdocument⟩

theorem release : Page.Keeps first calls { p with grabbed := none } := by
  refine ⟨?_, h.calls⟩
  obtain hcopy | ⟨hnone, -, hdocument⟩ := h.copy
  · exact .inl hcopy
  · exact .inr ⟨hnone, rfl, hdocument⟩

/-- A reload brings the first document back. -/
theorem document_reloaded : p.reloaded.document = first := by
  unfold reloaded
  obtain hcopy | ⟨hnone, -, hdocument⟩ := h.copy
  · rw [hcopy]
    rfl
  · rw [hnone]
    exact hdocument

theorem reloaded : p.reloaded.Keeps first calls := by
  obtain ⟨hpristine, hgrabbed, -⟩ := isFresh_reloaded p
  refine ⟨.inr ⟨hpristine, hgrabbed, h.document_reloaded⟩, ?_⟩
  rw [calls_reloaded]
  exact h.calls

end Keeps

/-! ## Calls before -/

/-- The page with other calls behind it. -/
def withCalls (p : Page) (calls : List Text) : Page := { p with calls }

section Calls

variable (p : Page) (calls : List Text)

theorem index_withCalls (h : Handle) : (p.withCalls calls).index h = p.index h := rfl

theorem element_withCalls (h : Handle) : (p.withCalls calls).element h = p.element h := rfl

theorem ancestorsUpTo_withCalls (n i : Nat) :
    (p.withCalls calls).ancestorsUpTo n i = p.ancestorsUpTo n i := by
  induction n generalizing i with
  | zero => rfl
  | succ n ih =>
      have hparent : (p.withCalls calls).parent? i = p.parent? i := rfl
      simp only [ancestorsUpTo, hparent, ih]

theorem isWithin_withCalls : (p.withCalls calls).isWithin = p.isWithin := by
  funext i ancestor
  unfold isWithin ancestors
  rw [ancestorsUpTo_withCalls]
  rfl

theorem isShown_withCalls : (p.withCalls calls).isShown = p.isShown := by
  funext i
  unfold isShown ancestors
  rw [ancestorsUpTo_withCalls]
  rfl

theorem find_withCalls (scope : Option Handle) (fits : Element → Bool) :
    (p.withCalls calls).find scope fits = p.find scope fits := by
  unfold find
  rw [isWithin_withCalls]
  rfl

theorem findSection_withCalls (heading : Text) :
    (p.withCalls calls).findSection heading = p.findSection heading := by
  unfold findSection
  rw [isWithin_withCalls]
  rfl

theorem textOf_withCalls : (p.withCalls calls).textOf = p.textOf := by
  funext i
  unfold textOf
  rw [isWithin_withCalls]
  rfl

theorem applyEffect_withCalls (e : Effect) :
    (p.withCalls calls).applyEffect e = (p.applyEffect e).map (·.withCalls calls) := by
  cases e with
  | navigate url title => rfl
  | setText target text | setVisible target visible =>
      simp only [applyEffect, index_withCalls]
      cases p.index target <;> rfl
  | copyValue source target =>
      simp only [applyEffect, index_withCalls, element_withCalls]
      cases p.element source with
      | error f => rfl
      | ok e => cases p.index target <;> rfl

theorem applyEffects_withCalls (es : List Effect) :
    (p.withCalls calls).applyEffects es =
      ((p.applyEffects es).1.withCalls calls, (p.applyEffects es).2) := by
  induction es generalizing p with
  | nil => rfl
  | cons e es ih =>
      rw [applyEffects, applyEffects, applyEffect_withCalls]
      cases p.applyEffect e with
      | error f => rfl
      | ok q => exact ih q

theorem movePointer_withCalls (place : Point) :
    (p.withCalls calls).movePointer place = (p.movePointer place).withCalls calls := by
  have hgrabbed : (p.withCalls calls).grabbed = p.grabbed := rfl
  unfold movePointer
  dsimp only
  rw [hgrabbed]
  cases p.grabbed <;> rfl

theorem reloaded_withCalls : (p.withCalls calls).reloaded = p.reloaded.withCalls calls := by
  have hpristine : (p.withCalls calls).pristine = p.pristine := rfl
  unfold reloaded
  rw [hpristine]
  cases p.pristine <;> rfl

end Calls

/-! ## Calls -/

/-- Two pages that differ only in their calls, and that such a document is kept for. -/
structure Twins (first : Snapshot) (calls : List Text) (p q : Page) : Prop where
  withCalls : ∃ others, q = p.withCalls others
  keeps : p.Keeps first calls

theorem run_get (p : Page) : (get : Session Page Page).run.run p = (.ok p, p) := rfl

theorem run_ask (f : Page → Except Failure α) (p : Page) : (ask f).run.run p = (f p, p) := by
  rw [ask, run_bind_of_ok (run_get p)]
  cases f p <;> rfl

theorem run_change (f : Page → Page × Except Failure Unit) (p : Page) :
    (change f).run.run p = ((f p).2, (f p).1) := by
  have hset (q : Page) : (set q : Session Page PUnit).run.run p = (.ok (), q) := rfl
  rw [change, run_bind_of_ok (run_get p), run_bind_of_ok (hset (f p).1)]
  cases (f p).2 <;> rfl

section

variable {first : Snapshot} {calls : List Text}

theorem matches_ask {f : Page → Except Failure α}
    (hf : ∀ p others, f (p.withCalls others) = f p) :
    Matches (Twins first calls) (ask f) (ask f) := by
  rintro p q hpq
  obtain ⟨others, rfl⟩ := hpq.withCalls
  exact ⟨f p, p, p.withCalls others, run_ask f p, by rw [run_ask, hf], hpq⟩

theorem matches_change {f : Page → Page × Except Failure Unit}
    (hf : ∀ p others, ∃ others', f (p.withCalls others) = ((f p).1.withCalls others', (f p).2))
    (hkeeps : ∀ p, p.Keeps first calls → (f p).1.Keeps first calls) :
    Matches (Twins first calls) (change f) (change f) := by
  rintro p q hpq
  obtain ⟨others, rfl⟩ := hpq.withCalls
  obtain ⟨others', hothers⟩ := hf p others
  refine ⟨(f p).2, (f p).1, (f p).1.withCalls others', run_change f p, ?_, ?_⟩
  · rw [run_change, hothers]
  · exact ⟨⟨others', rfl⟩, hkeeps p hpq.keeps⟩

theorem matches_modify {f : Page → Page}
    (hf : ∀ p others, ∃ others', f (p.withCalls others) = (f p).withCalls others')
    (hkeeps : ∀ p, p.Keeps first calls → (f p).Keeps first calls) :
    Matches (Twins first calls) (modify f) (modify f) := by
  rintro p q hpq
  obtain ⟨others, rfl⟩ := hpq.withCalls
  obtain ⟨others', hothers⟩ := hf p others
  refine ⟨.ok (), f p, f (p.withCalls others), rfl, rfl, ?_⟩
  exact ⟨⟨others', hothers⟩, hkeeps p hpq.keeps⟩

/-- Pages that differ only in their calls answer every call alike, and the document stays kept. -/
theorem agree_backend (first : Snapshot) (calls : List Text) :
    Backend.Agree (Twins first calls) backend backend := by
  intro α r
  cases r with
  | resolveByRole role name scope =>
      exact matches_ask fun p others => find_withCalls p others scope _
  | resolveByAttribute attr value =>
      exact matches_ask (f := (·.find none (·.hasAttribute attr value))) fun p others =>
        find_withCalls p others none _
  | resolveByLabel name scope =>
      exact matches_ask fun p others => find_withCalls p others scope _
  | resolveByCss css scope =>
      cases hcss : Selector.ofText? css with
      | none =>
          have hthrow : backend.answer (.resolveByCss css scope) =
              throw (.backend ("unsupported selector " ++ css)) := by
            simp only [Backend.answer, backend, hcss]
          rw [hthrow]
          exact .throw _
      | some s =>
          have hask : backend.answer (.resolveByCss css scope) = ask (·.find scope s.fits) := by
            simp only [Backend.answer, backend, hcss]
          rw [hask]
          exact matches_ask fun p others => find_withCalls p others scope _
  | resolveSection heading =>
      exact matches_ask (f := fun p => .ok (p.findSection heading)) fun p others =>
        congrArg Except.ok (findSection_withCalls p others heading)
  | isVisible h =>
      refine matches_ask fun p others => ?_
      rw [index_withCalls, isShown_withCalls]
  | text h =>
      refine matches_ask fun p others => ?_
      rw [index_withCalls, textOf_withCalls]
  | value h =>
      refine matches_ask fun p others => ?_
      rw [element_withCalls]
  | readAttribute h name =>
      refine matches_ask fun p others => ?_
      rw [element_withCalls]
      rfl
  | boundingBox h =>
      refine matches_ask fun p others => ?_
      rw [element_withCalls]
  | currentUrl => exact matches_ask (f := fun p => .ok p.url) fun _ _ => rfl
  | title => exact matches_ask (f := fun p => .ok p.title) fun _ _ => rfl
  | click h =>
      refine (matches_ask fun p others => element_withCalls p others h).bind fun target => ?_
      let call : Text := "click:" ++ h.id
      refine matches_change (fun p others => ⟨call :: others, ?_⟩) fun p hp => ?_
      · exact applyEffects_withCalls (p.keepPristine.record call) (call :: others) _
      · exact (hp.record call).applyEffects _ rfl rfl
  | hover h =>
      refine (matches_ask fun p others => element_withCalls p others h).bind fun target => ?_
      let call : Text := "hover:" ++ h.id
      let place := target.2.box.map Box.center
      refine matches_change (fun p others => ⟨call :: others, ?_⟩) fun p hp => ?_
      · exact applyEffects_withCalls
          { p.keepPristine.record call with pointer := place.or p.pointer } (call :: others) _
      · exact (hp.record call).applyEffects _ rfl rfl
  | fill h text =>
      refine (matches_ask fun p others => index_withCalls p others h).bind fun i => ?_
      refine matches_modify (fun p others => ⟨_, rfl⟩) fun p hp => ?_
      exact (hp.record _).keepPristine rfl rfl
  | pointerMove place =>
      refine matches_modify (fun p others => ⟨("pointer_move" : Text) :: others, ?_⟩) fun p hp => ?_
      · exact movePointer_withCalls (p.record "pointer_move") _ place
      · exact (hp.record _).movePointer place
  | pointerDown =>
      refine matches_modify (fun p others => ⟨_, rfl⟩) fun p hp => ?_
      exact (hp.record _).keepPristine rfl rfl
  | pointerUp =>
      refine matches_modify (fun p others => ⟨_, rfl⟩) fun p hp => ?_
      exact (hp.record _).release
  | reload =>
      refine matches_modify (fun p others => ⟨("reload" : Text) :: others, ?_⟩) fun p hp => ?_
      · exact reloaded_withCalls (p.record "reload") _
      · exact (hp.record _).reloaded

end

theorem IsFresh.eq_withCalls {p q : Page} (hp : p.IsFresh) (hq : q.IsFresh)
    (h : q.document = p.document) : q = p.withCalls q.calls := by
  obtain ⟨helements, hurl, htitle⟩ := Snapshot.mk.inj h
  cases p
  cases q
  obtain ⟨rfl, rfl, rfl⟩ := hp
  obtain ⟨rfl, rfl, rfl⟩ := hq
  obtain rfl := helements
  obtain rfl := hurl
  obtain rfl := htitle
  rfl

/-- A reload takes any page that has come of a fresh one back to it, up to the calls. -/
theorem Twins.reload {page p q : Page} (hfresh : page.IsFresh)
    (h : Twins page.document page.calls p q) :
    Twins page.document page.calls page (q.record "reload").reloaded := by
  refine ⟨⟨_, hfresh.eq_withCalls (isFresh_reloaded _) ?_⟩, hfresh.keeps⟩
  obtain ⟨others, rfl⟩ := h.withCalls
  have hcalls : (p.withCalls others).record "reload" =
      (p.record "reload").withCalls (("reload" : Text) :: others) := rfl
  rw [hcalls, reloaded_withCalls]
  exact (h.keeps.record "reload").document_reloaded

end Page

/-! ## Sequences of calls -/

/-- The page that calls leave, made one behind the other, whether they fail or not. -/
def Backend.after {σ : Type} (b : Backend σ) (requests : List (Σ α, Request α)) (page : σ) : σ :=
  requests.foldl (fun p r => ((b.answer r.2).run.run p).2) page

namespace Page

theorem keeps_after {first : Snapshot} {calls : List Text} {p : Page}
    (requests : List (Σ α, Request α)) (h : p.Keeps first calls) :
    (backend.after requests p).Keeps first calls := by
  induction requests generalizing p with
  | nil => exact h
  | cons r requests ih =>
      obtain ⟨x, q, q', hrun, -, hq⟩ := agree_backend first calls r.2 ⟨⟨p.calls, rfl⟩, h⟩
      have hnext : ((backend.answer r.2).run.run p).2 = q := congrArg Prod.snd hrun
      refine ih (p := ((backend.answer r.2).run.run p).2) ?_
      rw [hnext]
      exact hq.keeps

theorem Keeps.history_after {first : Snapshot} {calls : List Text} {p : Page}
    (h : p.Keeps first calls) (requests : List (Σ α, Request α)) :
    p.history <+: (backend.after requests p).history := by
  have hp : p.Keeps first p.calls := ⟨h.copy, List.suffix_refl p.calls⟩
  exact List.reverse_prefix.mpr (keeps_after requests hp).calls

/-- Whatever calls are made on a fresh page, in whatever order, and whether they fail or not, a
reload brings back the document as it was, with no slider grabbed and no pointer. The history of
calls only grows. -/
theorem reload_restores {page : Page} (h : page.IsFresh) (requests more : List (Σ α, Request α)) :
    let p := backend.after requests page
    let q := (backend.reload.run.run p).2
    (backend.reload.run.run p).1 = .ok () ∧
      q.elements = page.elements ∧ q.url = page.url ∧ q.title = page.title ∧
      q.grabbed = none ∧ q.pointer = none ∧
      q.history = p.history ++ [("reload" : Text)] ∧
      p.history <+: (backend.after more p).history := by
  intro p q
  have hp := keeps_after requests h.keeps
  have hdocument : q.document = page.document := (hp.record "reload").document_reloaded
  obtain ⟨helements, hurl, htitle⟩ := Snapshot.mk.inj hdocument
  obtain ⟨-, hgrabbed, hpointer⟩ := isFresh_reloaded (p.record "reload")
  have hcalls : q.calls = ("reload" : Text) :: p.calls := calls_reloaded (p.record "reload")
  refine ⟨rfl, helements, hurl, htitle, hgrabbed, hpointer, ?_, hp.history_after more⟩
  rw [history, hcalls, List.reverse_cons]
  rfl

/-- The first effect of the button is applied, and the second fails. -/
def halfPage : Page :=
  { elements := [{ tag := "button", role := some "button", name := "Save"
                   onClick := [.setText (handle 0) "Saved", .setVisible (handle 7) false] }] }

theorem reload_restores_halfClick :
    let requests : List (Σ α, Request α) := [⟨_, .click (handle 0)⟩, ⟨_, .pointerDown⟩]
    let p := backend.after requests halfPage
    let q := (backend.reload.run.run p).2
    halfPage.IsFresh ∧
      ((backend.click (handle 0)).run.run halfPage).1 =
        .error (.backend "stale element handle e7") ∧
      p.elements.map (·.text) = ["Saved".toList] ∧
      q.elements = halfPage.elements ∧ q.history = p.history ++ [("reload" : Text)] := by
  intro requests p q
  have hfresh : halfPage.IsFresh := ⟨rfl, rfl, rfl⟩
  have hrestores := reload_restores hfresh requests []
  exact ⟨hfresh, by decide +kernel, by decide +kernel, hrestores.2.1, hrestores.2.2.2.2.2.2.1⟩

end Page

end PlainSteps
