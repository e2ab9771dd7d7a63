import Mathlib.Order.Bounds.Basic
import PlainSteps.Proofs.Ancestry
import PlainSteps.Proofs.Parts
import PlainSteps.Proofs.Reloading

/-!
# Which element a command aims at

`Page.Candidate` says which elements of a page a command may mean: by an attribute, or by a label
or a role and a name, inside of the container that the specifier of the command means. A command
aims at the first of them (`Page.Target`), which has to be visible; a later one is never taken in
its place. The main statement is `run_resolve_plan`.
-/

namespace PlainSteps

open Run

/-- A text occurs in another, whatever the case of their letters. -/
def Mentions (t part : Text) : Prop := Text.toLower part <:+: Text.toLower t

theorem containsFolded_iff {t part : Text} : Page.containsFolded t part ↔ Mentions t part :=
  Text.contains_iff_infix

/-- The failure of a command whose target is not found. -/
def Command.notFound (mode : SelectorMode) (c : Command) : Failure :=
  match mode with
  | .dataQaId => .targetNotFound "[data-qa-id]" c.object none
  | .id => .targetNotFound "[id]" c.object none
  | .label =>
    let role := if c.elementType = "generic" then "element labelled".toList else c.elementType
    .targetNotFound role c.object c.specifier

namespace Page

open Element

variable (p : Page)

/-! ## What a command means -/

/-- There is an element at a position, and it is as `P` says. -/
def At (P : Element → Prop) (i : Nat) : Prop := ∃ e, p.elements[i]? = some e ∧ P e

def Element.Labelled (label : Text) (e : Element) : Prop := ∃ l, e.label = some l ∧ Mentions l label

def Element.Plays (role name : Text) (e : Element) : Prop :=
  e.role = some role ∧ Mentions e.name name

/-- The label of the element, or its role and name, are as a command says. -/
def Element.AnswersTo (c : Command) (e : Element) : Prop :=
  if c.elementType = "generic" then e.Labelled c.object else e.Plays c.elementType c.object

/-- The elements that a specifier may mean: sections by the headings in them, landmarks by their
tags, and others by their labels. -/
def Container (specifier : Text) (isSection : Bool) (a : Nat) : Prop :=
  if isSection ∨ "section".toList <:+: Text.toLower specifier then
    p.At (·.hasTag "section") a ∧ ∃ i, p.Inside i a ∧ p.At (Plays "heading" specifier) i
  else if specifier ∈ regions then p.At (·.hasTag specifier) a
  else p.At (Labelled specifier) a

/-- The elements that a command may mean. -/
def Candidate (mode : SelectorMode) (c : Command) (i : Nat) : Prop :=
  match mode with
  | .dataQaId => p.At (·.attributeValue? "data-qa-id" = some c.object) i
  | .id => p.At (·.attributeValue? "id" = some c.object) i
  | .label => p.At (AnswersTo c) i ∧
    ∀ s, c.specifier = some s → ∃ a, IsLeast {a | p.Container s c.isSection a} a ∧ p.Inside i a

/-- The first of the elements that a command may mean, if it is visible. -/
structure Target (mode : SelectorMode) (c : Command) (i : Nat) : Prop where
  first : IsLeast {i | p.Candidate mode c i} i
  shown : p.Shown i

/-! ## Look-ups -/

/-- The answer of a look-up for the first position with a property. -/
inductive Finds (P : Nat → Prop) : Option Handle → Prop
  | first {i : Nat} : IsLeast {i | P i} i → Finds P (some (handle i))
  | none : (∀ i, ¬ P i) → Finds P none

variable {p} {P Q : Nat → Prop}

theorem Finds.congr {found : Option Handle} (h : Finds P found) (hPQ : ∀ i, P i ↔ Q i) :
    Finds Q found := by
  obtain rfl : P = Q := funext fun i => propext (hPQ i)
  exact h

theorem At.lt_length {P : Element → Prop} {i : Nat} (h : p.At P i) : i < p.elements.length := by
  obtain ⟨e, he, -⟩ := h
  exact (List.getElem?_eq_some_iff.mp he).choose

theorem At.congr {P Q : Element → Prop} (hPQ : ∀ e, P e ↔ Q e) {i : Nat} :
    p.At P i ↔ p.At Q i := by
  obtain rfl : P = Q := funext fun e => propext (hPQ e)
  rfl

theorem finds_zipIdx (test : Element × Nat → Bool) :
    Finds (fun i => p.At (fun e => test (e, i)) i)
      ((p.elements.zipIdx.find? test).map fun (_, i) => handle i) := by
  cases hfind : p.elements.zipIdx.find? test with
  | none =>
      refine .none ?_
      rintro i ⟨e, he, htest⟩
      have hmem : (e, i) ∈ p.elements.zipIdx := List.mk_mem_zipIdx_iff_getElem?.mpr he
      exact List.find?_eq_none.mp hfind (e, i) hmem htest
  | some found =>
      obtain ⟨htest, i, hi, hat, hbefore⟩ := List.find?_eq_some_iff_getElem.mp hfind
      rw [List.getElem_zipIdx, Nat.zero_add] at hat
      subst hat
      rw [List.length_zipIdx] at hi
      refine .first ⟨⟨p.elements[i], List.getElem?_eq_getElem hi, htest⟩, ?_⟩
      rintro j ⟨e, he, hj⟩
      by_contra hlt
      obtain ⟨hjlength, rfl⟩ := List.getElem?_eq_some_iff.mp he
      have hno := hbefore j (by omega)
      rw [List.getElem_zipIdx, Nat.zero_add, hj] at hno
      cases hno

theorem Ordered.finds_findSection (h : p.Ordered) (heading : Text) :
    Finds (fun a => p.At (·.hasTag "section") a ∧
        ∃ i, p.Inside i a ∧ p.At (Plays "heading" heading) i)
      (p.findSection heading) := by
  refine (finds_zipIdx _).congr fun a => ?_
  have hholds : (p.elements.zipIdx.any fun (e, i) =>
      (e.role == some "heading" && containsFolded e.name heading) && p.isWithin i a) ↔
        ∃ i, p.Inside i a ∧ p.At (Plays "heading" heading) i := by
    rw [List.any_eq_true]
    constructor
    · rintro ⟨⟨e, i⟩, hmem, htest⟩
      simp only [Bool.and_eq_true, beq_iff_eq, containsFolded_iff, h.isWithin_iff] at htest
      exact ⟨i, htest.2, e, List.mk_mem_zipIdx_iff_getElem?.mp hmem, htest.1⟩
    · rintro ⟨i, hinside, e, he, hplays⟩
      refine ⟨(e, i), List.mk_mem_zipIdx_iff_getElem?.mpr he, ?_⟩
      simp only [Bool.and_eq_true, beq_iff_eq, containsFolded_iff, h.isWithin_iff]
      exact ⟨hplays, hinside⟩
  rw [← hholds]
  constructor
  · rintro ⟨e, he, htest⟩
    obtain ⟨htag, hany⟩ := Bool.and_eq_true_iff.mp htest
    exact ⟨⟨e, he, htag⟩, hany⟩
  · rintro ⟨⟨e, he, htag⟩, hany⟩
    exact ⟨e, he, Bool.and_eq_true_iff.mpr ⟨htag, hany⟩⟩

/-! ## Look-ups as calls -/

/-- A look-up answers with the first position with a property, and leaves the page. -/
def Locates (p : Page) (look : Session Page (Option Handle)) (P : Nat → Prop) : Prop :=
  ∃ found, look.run.run p = (.ok found, p) ∧ Finds P found

theorem locates_ask {f : Page → Except Failure (Option Handle)} {found : Option Handle}
    (hfound : f p = .ok found) (h : Finds P found) : p.Locates (ask f) P := by
  refine ⟨found, ?_, h⟩
  rw [run_ask, hfound]

theorem Locates.congr {look : Session Page (Option Handle)} (h : p.Locates look P)
    (hPQ : ∀ i, P i ↔ Q i) : p.Locates look Q := by
  obtain ⟨found, hrun, hfinds⟩ := h
  exact ⟨found, hrun, hfinds.congr hPQ⟩

section Find

variable {fits : Element → Bool} {R : Element → Prop} (hfits : ∀ e, fits e ↔ R e)
include hfits

theorem locates_find : p.Locates (ask (·.find none fits)) (p.At R) := by
  refine locates_ask rfl ((finds_zipIdx _).congr fun i => At.congr fun e => ?_)
  simp only [Option.all_none, Bool.and_true, hfits]

theorem Ordered.locates_find_inside (h : p.Ordered) {a : Nat} (ha : a < p.elements.length) :
    p.Locates (ask (·.find (some (handle a)) fits)) fun i => p.At R i ∧ p.Inside i a := by
  have hfind : p.find (some (handle a)) fits = .ok ((p.elements.zipIdx.find? fun (e, i) =>
      fits e && (some a).all (p.isWithin i)).map fun (_, i) => handle i) := by
    rw [find, Option.mapM_some, index_handle ha]
    rfl
  refine locates_ask hfind ((finds_zipIdx _).congr fun i => ?_)
  simp only [Option.all_some, Bool.and_eq_true, h.isWithin_iff, hfits]
  constructor
  · rintro ⟨e, he, hR, hinside⟩
    exact ⟨⟨e, he, hR⟩, hinside⟩
  · rintro ⟨⟨e, he, hR⟩, hinside⟩
    exact ⟨e, he, hR, hinside⟩

end Find

theorem fits_attribute (attr value : Text) (e : Element) :
    e.hasAttribute attr value ↔ e.attributeValue? attr = some value := by
  rw [hasAttribute, beq_iff_eq]

theorem fits_label (label : Text) (e : Element) :
    e.label.any (containsFolded · label) ↔ e.Labelled label := by
  rw [Option.any_eq_true]
  simp only [containsFolded_iff, Labelled]

theorem fits_role (role name : Text) (e : Element) :
    (e.role == some role && containsFolded e.name name) ↔ e.Plays role name := by
  rw [Bool.and_eq_true, beq_iff_eq, containsFolded_iff, Plays]

theorem ofText?_region {tag : Text} (h : tag ∈ regions) :
    Selector.ofText? tag = some ⟨some tag, none⟩ := by
  revert tag
  decide

theorem locates_region {tag : Text} (h : tag ∈ regions) :
    p.Locates (backend.resolveByCss tag none) (p.At (·.hasTag tag)) := by
  have hcall : backend.resolveByCss tag none =
      ask (·.find none (Selector.fits ⟨some tag, none⟩)) := by
    simp only [backend, ofText?_region h]
  rw [hcall]
  refine locates_find fun e => ?_
  simp [Selector.fits]

/-- The call that looks for the container. -/
def container (b : Backend Page) : Scope → Session Page (Option Handle)
  | .titled title => b.resolveSection title
  | .region tag => b.resolveByCss tag none
  | .labelled label => b.resolveByLabel label none

theorem withinScope_some (b : Backend Page) (s : Scope)
    (find : Option Handle → Session Page (Option Handle)) :
    Query.withinScope b (some s) find = (container b s >>= fun
      | some a => find (some a)
      | none => return none) := by
  cases s <;> rfl

theorem Ordered.locates_container (h : p.Ordered) (specifier : Text) (isSection : Bool) :
    p.Locates (container backend (Scope.ofSpecifier specifier isSection))
      (p.Container specifier isSection) := by
  unfold Scope.ofSpecifier Container
  by_cases hsection : isSection ∨ "section".toList <:+: Text.toLower specifier
  · have htest : isSection || Text.contains (Text.toLower specifier) "section" := by
      rw [Bool.or_eq_true, Text.contains_iff_infix]
      exact hsection
    rw [if_pos htest]
    simp only [if_pos hsection]
    exact locates_ask (f := fun p => .ok (p.findSection specifier)) rfl
      (h.finds_findSection specifier)
  · have htest : ¬ (isSection || Text.contains (Text.toLower specifier) "section") := by
      rw [Bool.or_eq_true, Text.contains_iff_infix]
      exact hsection
    rw [if_neg htest]
    simp only [if_neg hsection]
    by_cases hregion : specifier ∈ regions
    · rw [if_pos (List.contains_iff_mem.mpr hregion)]
      simp only [if_pos hregion]
      exact locates_region hregion
    · rw [if_neg (mt List.contains_iff_mem.mp hregion)]
      simp only [if_neg hregion]
      exact locates_find (fits_label specifier)

theorem Container.lt_length {specifier : Text} {isSection : Bool} {a : Nat}
    (h : p.Container specifier isSection a) : a < p.elements.length := by
  unfold Container at h
  split at h
  · exact h.1.lt_length
  · split at h
    · exact h.lt_length
    · exact h.lt_length

/-- With a specifier only what stands inside of the container is looked at, and nothing if there
is no container. -/
theorem Ordered.locates_withinScope (h : p.Ordered) {fits : Element → Bool} {R : Element → Prop}
    (hfits : ∀ e, fits e ↔ R e) (specifier : Option Text) (isSection : Bool) :
    p.Locates (Query.withinScope backend (specifier.map (Scope.ofSpecifier · isSection))
        fun scope => ask (·.find scope fits))
      fun i => p.At R i ∧
        ∀ s, specifier = some s →
          ∃ a, IsLeast {a | p.Container s isSection a} a ∧ p.Inside i a := by
  cases specifier with
  | none =>
      refine (locates_find hfits).congr fun i => (and_iff_left ?_).symm
      intro s hs
      cases hs
  | some s =>
      obtain ⟨found, hrun, hfound⟩ := h.locates_container s isSection
      rw [Option.map_some, withinScope_some]
      unfold Locates
      rw [run_bind_of_ok hrun]
      cases hfound with
      | first ha =>
          obtain ⟨found, hrun, hfound⟩ := h.locates_find_inside hfits ha.1.lt_length
          refine ⟨found, hrun, hfound.congr fun i => and_congr_right' ?_⟩
          constructor
          · rintro hinside _ ⟨⟩
            exact ⟨_, ha, hinside⟩
          · intro hspec
            obtain ⟨b, hb, hinside⟩ := hspec s rfl
            rwa [ha.unique hb]
      | none hnone =>
          refine ⟨none, rfl, .none ?_⟩
          rintro i ⟨-, hspec⟩
          obtain ⟨a, ha, -⟩ := hspec s rfl
          exact hnone a ha.1

theorem Ordered.locates_candidate (h : p.Ordered) (mode : SelectorMode) (c : Command) :
    p.Locates ((Query.plan mode c).candidate backend) (p.Candidate mode c) := by
  cases mode with
  | dataQaId => exact locates_find (fits_attribute "data-qa-id" c.object)
  | id => exact locates_find (fits_attribute "id" c.object)
  | label =>
      unfold Query.plan Candidate AnswersTo
      by_cases hgeneric : c.elementType = "generic"
      · simp only [SelectorMode.comparedAttribute?, if_pos hgeneric]
        exact h.locates_withinScope (fits_label c.object) c.specifier c.isSection
      · simp only [SelectorMode.comparedAttribute?, if_neg hgeneric]
        exact h.locates_withinScope (fits_role c.elementType c.object) c.specifier c.isSection

/-! ## Resolving -/

theorem Candidate.lt_length {mode : SelectorMode} {c : Command} {i : Nat}
    (h : p.Candidate mode c i) : i < p.elements.length := by
  cases mode with
  | dataQaId | id => exact At.lt_length h
  | label => exact At.lt_length h.1

theorem text_ofSpecifier (specifier : Text) (isSection : Bool) :
    (Scope.ofSpecifier specifier isSection).text = specifier := by
  unfold Scope.ofSpecifier
  split
  · rfl
  · split <;> rfl

/-- The failure to find a target names what the command names. -/
theorem notFound_plan (mode : SelectorMode) (c : Command) :
    (Query.plan mode c).notFound = c.notFound mode := by
  cases mode with
  | dataQaId | id => rfl
  | label =>
      have hscope : (c.specifier.map (Scope.ofSpecifier · c.isSection)).map Scope.text =
          c.specifier := by
        rw [Option.map_map]
        cases c.specifier with
        | none => rfl
        | some s => exact congrArg some (text_ofSpecifier s c.isSection)
      unfold Query.plan Command.notFound
      by_cases hgeneric : c.elementType = "generic"
      · simp only [SelectorMode.comparedAttribute?, if_pos hgeneric, Query.notFound, hscope]
      · simp only [SelectorMode.comparedAttribute?, if_neg hgeneric, Query.notFound, hscope]

theorem Ordered.run_isVisible (h : p.Ordered) {i : Nat} (hi : i < p.elements.length) :
    ∃ shown, (backend.isVisible (handle i)).run.run p = (.ok shown, p) ∧ (shown ↔ p.Shown i) := by
  refine ⟨p.isShown i, ?_, h.isShown_iff⟩
  have hcall := run_ask (fun p => (p.index (handle i)).map p.isShown) p
  rw [index_handle hi] at hcall
  exact hcall

theorem Ordered.run_resolve (h : p.Ordered) (mode : SelectorMode) (c : Command) :
    (∃ i, p.Target mode c i ∧
        ((Query.plan mode c).resolve backend).run.run p = (.ok (handle i), p)) ∨
      (∀ i, ¬ p.Target mode c i) ∧
        ((Query.plan mode c).resolve backend).run.run p = (.error (c.notFound mode), p) := by
  obtain ⟨found, hrun, hfound⟩ := h.locates_candidate mode c
  rw [Query.resolve, run_bind_of_ok hrun, notFound_plan]
  cases hfound with
  | none hnone => exact .inr ⟨fun i htarget => hnone i htarget.first.1, rfl⟩
  | @first i hi =>
      obtain ⟨shown, hvisible, hshown⟩ := h.run_isVisible hi.1.lt_length
      simp only [run_bind_of_ok hvisible]
      cases shown with
      | true => exact .inl ⟨i, ⟨hi, hshown.mp rfl⟩, rfl⟩
      | false =>
          -- The first element is the only one that the command could aim at.
          refine .inr ⟨fun j htarget => ?_, rfl⟩
          obtain rfl := htarget.first.unique hi
          exact nomatch hshown.mpr htarget.shown

/-- A command resolves to the element that it aims at. Where there is none, because no element is
meant, the container is missing or the first element is hidden, the target is not found. The page
is left as it is. -/
theorem run_resolve_plan (h : p.Ordered) (mode : SelectorMode) (c : Command) :
    (∀ t, ((Query.plan mode c).resolve backend).run.run p = (.ok t, p) ↔
        ∃ i, t = handle i ∧ p.Target mode c i) ∧
      ((∀ i, ¬ p.Target mode c i) →
        ((Query.plan mode c).resolve backend).run.run p = (.error (c.notFound mode), p)) := by
  obtain ⟨i, htarget, hrun⟩ | ⟨hnone, hrun⟩ := h.run_resolve mode c
  · constructor
    · intro t
      rw [hrun]
      constructor
      · rintro ⟨⟩
        exact ⟨i, rfl, htarget⟩
      · rintro ⟨j, rfl, hj⟩
        rw [hj.first.unique htarget.first]
    · intro hnone
      exact absurd htarget (hnone i)
  · constructor
    · intro t
      rw [hrun]
      constructor
      · rintro ⟨⟩
      · rintro ⟨j, -, hj⟩
        exact absurd hj (hnone j)
    · intro _
      exact hrun

/-- The first section has no such heading, and the first button in the second is hidden with the
box around it. -/
def accountPage : Page :=
  { elements :=
      [{ tag := "section" }, { tag := "section" },
        { tag := "h2", role := some "heading", name := "My Account", parent := some (handle 1) },
        { tag := "div", visible := false, parent := some (handle 1) },
        { tag := "button", role := some "button", name := "Save all", parent := some (handle 3) },
        { tag := "button", role := some "button", name := "Save", parent := some (handle 1) },
        { tag := "a", label := some "Help", parent := some (handle 1) }] }

def accountCommand (object elementType : Text) : Command :=
  { action := .click, object, elementType, specifier := some "account", isSection := true }

theorem run_resolve_plan_account :
    accountPage.Ordered ∧
      (∃ i, handle 6 = handle i ∧
        accountPage.Target .label (accountCommand "help" "generic") i) ∧
      ∀ i, ¬ accountPage.Target .label (accountCommand "SAVE" "button") i := by
  have hordered : accountPage.Ordered := by decide +kernel
  obtain ⟨hhelp, -⟩ := run_resolve_plan hordered .label (accountCommand "help" "generic")
  obtain ⟨hsave, -⟩ := run_resolve_plan hordered .label (accountCommand "SAVE" "button")
  refine ⟨hordered, (hhelp (handle 6)).mp rfl, ?_⟩
  intro i hi
  exact nomatch (hsave (handle i)).mpr ⟨i, rfl, hi⟩

end Page

end PlainSteps
