import PlainSteps.Proofs.Ancestry
import PlainSteps.Proofs.Reloading

/-!
# Walks over the parents

What an element stands inside of, whether it can be seen and which texts it holds are all found by
walking from an element to its parent and on. Such a walk looks at one element after the other until
one passes a test or none is left (`Page.Walk`). It has no bound of its own: where handles lead
round in a circle it need not end. A walk that ends has found what it looks for exactly if there is
one ahead (`Walk.found_iff`), and on a page where every parent stands in front of what it holds all
walks end (`Ordered.exists_walk`). So the three questions are all answered by the one relation
`Page.Inside` (`Ordered.walks_end`).
-/

namespace PlainSteps.Page

variable {p : Page} {test : Nat → Bool}

/-! ## Walks -/

/-- A walk from an element, if there is one, that looks at `n` elements; `found` says that the last
of them passes the test. -/
inductive Walk (p : Page) (test : Nat → Bool) : (current : Option Nat) → (n : Nat) →
    (found : Bool) → Prop
  | past : Walk p test none 0 false
  | stop {i : Nat} (htest : test i) : Walk p test (some i) 1 true
  | on {i n : Nat} {found : Bool} (htest : test i = false)
      (hrest : Walk p test (p.parent? i) n found) : Walk p test (some i) (n + 1) found

/-- There is only one walk from an element. -/
theorem Walk.unique {current : Option Nat} {m n : Nat} {b c : Bool} (hb : p.Walk test current m b)
    (hc : p.Walk test current n c) : n = m ∧ c = b := by
  induction hb generalizing n with
  | past =>
      cases hc
      exact ⟨rfl, rfl⟩
  | stop htest =>
      cases hc with
      | stop _ => exact ⟨rfl, rfl⟩
      | on hfails _ => simp [htest] at hfails
  | on htest _ ih =>
      cases hc with
      | stop hpasses => simp [htest] at hpasses
      | on _ hrest =>
          obtain ⟨rfl, rfl⟩ := ih hrest
          exact ⟨rfl, rfl⟩

/-- The elements that a walk would come to if no test stopped it. -/
def Ahead (p : Page) (current : Option Nat) (j : Nat) : Prop :=
  ∃ i, current = some i ∧ (j = i ∨ p.Inside i j)

theorem ahead_parent?_iff {i j : Nat} : p.Ahead (p.parent? i) j ↔ p.Inside i j := by
  cases hparent : p.parent? i with
  | none =>
      refine iff_of_false ?_ (not_inside_of_parent?_eq_none hparent)
      rintro ⟨_, hnone, -⟩
      cases hnone
  | some k =>
      rw [inside_iff_of_parent?_eq_some hparent]
      constructor
      · rintro ⟨_, hsome, hj⟩
        cases hsome
        exact hj
      · intro hj
        exact ⟨k, rfl, hj⟩

theorem ahead_some_iff {i j : Nat} : p.Ahead (some i) j ↔ j = i ∨ p.Inside i j := by
  constructor
  · rintro ⟨_, hsome, hj⟩
    cases hsome
    exact hj
  · intro hj
    exact ⟨i, rfl, hj⟩

/-- A walk that ends has found an element that passes the test if there is one ahead. -/
theorem Walk.found_iff {current : Option Nat} {n : Nat} {found : Bool}
    (h : p.Walk test current n found) : found ↔ ∃ j, p.Ahead current j ∧ test j := by
  induction h with
  | past =>
      apply iff_of_false Bool.false_ne_true
      rintro ⟨_, ⟨_, hnone, -⟩, -⟩
      cases hnone
  | @stop i htest =>
      apply iff_of_true rfl
      exact ⟨i, ahead_some_iff.mpr (.inl rfl), htest⟩
  | @on i _ _ htest _ ih =>
      rw [ih]
      constructor
      · rintro ⟨j, hahead, hj⟩
        exact ⟨j, ahead_some_iff.mpr (.inr (ahead_parent?_iff.mp hahead)), hj⟩
      · rintro ⟨j, hahead, hj⟩
        rcases ahead_some_iff.mp hahead with rfl | hinside
        · simp [htest] at hj
        · exact ⟨j, ahead_parent?_iff.mpr hinside, hj⟩

namespace Ordered

variable (h : p.Ordered)
include h

/-- A step to the parent leaves fewer elements in front. -/
theorem exists_walk (test : Nat → Bool) (i : Nat) :
    ∃ n found, n ≤ i + 1 ∧ p.Walk test (some i) n found := by
  induction i using Nat.strongRecOn with
  | ind i ih =>
      cases htest : test i with
      | true => exact ⟨1, true, by omega, .stop htest⟩
      | false =>
          cases hparent : p.parent? i with
          | none =>
              have hrest : p.Walk test (p.parent? i) 0 false := by
                rw [hparent]
                exact .past
              exact ⟨1, false, by omega, .on htest hrest⟩
          | some j =>
              have hj := h i j hparent
              obtain ⟨n, found, hn, hwalk⟩ := ih j hj
              rw [← hparent] at hwalk
              exact ⟨n + 1, found, by omega, .on htest hwalk⟩

theorem exists_walk_parent? (test : Nat → Bool) (i : Nat) :
    ∃ n found, n ≤ i ∧ p.Walk test (p.parent? i) n found := by
  cases hparent : p.parent? i with
  | none => exact ⟨0, false, Nat.zero_le i, .past⟩
  | some j =>
      have hj := h i j hparent
      obtain ⟨n, found, hn, hwalk⟩ := h.exists_walk test j
      exact ⟨n, found, by omega, hwalk⟩

end Ordered

/-- The walk from an element ends within a number of elements, in one way only, with an answer. -/
def Ends (p : Page) (test : Nat → Bool) (current : Option Nat) (bound : Nat) (answer : Bool) :
    Prop :=
  ∃ n ≤ bound, ∀ m found, p.Walk test current m found ↔ m = n ∧ found = answer

theorem Walk.ends {current : Option Nat} {n bound : Nat} {found answer : Bool}
    (h : p.Walk test current n found) (hn : n ≤ bound)
    (hanswer : answer ↔ ∃ j, p.Ahead current j ∧ test j) : p.Ends test current bound answer := by
  obtain rfl : found = answer := Bool.eq_iff_iff.mpr (h.found_iff.trans hanswer.symm)
  refine ⟨n, hn, fun m b => ⟨h.unique, ?_⟩⟩
  rintro ⟨rfl, rfl⟩
  exact h

/-! ## What walks are made for -/

/-- The element itself is not visible. -/
def isHidden (p : Page) (j : Nat) : Bool := !(p.elements[j]?).all (·.visible)

theorem isHidden_iff {j : Nat} :
    p.isHidden j ↔ ∃ e, p.elements[j]? = some e ∧ e.visible = false := by
  rw [isHidden]
  cases p.elements[j]? with
  | none => simp
  | some e => simp

theorem shown_iff {i : Nat} : p.Shown i ↔ ¬ ∃ j, p.Ahead (some i) j ∧ p.isHidden j := by
  constructor
  · rintro hshown ⟨j, hahead, hhidden⟩
    obtain ⟨e, he, hvisible⟩ := isHidden_iff.mp hhidden
    have := hshown j e (ahead_some_iff.mp hahead) he
    simp [hvisible] at this
  · intro hnone j e hj he
    by_contra hvisible
    apply hnone
    exact ⟨j, ahead_some_iff.mpr hj, isHidden_iff.mpr ⟨e, he, by simpa using hvisible⟩⟩

/-- The text of an element without what it holds. -/
def ownText (p : Page) (j : Nat) : Text := ((p.elements[j]?).map (·.text)).getD []

/-- The elements with a text of their own that an element holds, itself included, in document
order. -/
structure Speakers (p : Page) (i : Nat) (js : List Nat) : Prop where
  inOrder : js.Pairwise (· < ·)
  mem_iff : ∀ j, j ∈ js ↔ (j = i ∨ p.Inside j i) ∧ p.ownText j ≠ []

theorem ownText_of_mem {e : Element} {j : Nat} (h : (e, j) ∈ p.elements.zipIdx) :
    p.ownText j = e.text := by
  rw [List.mk_mem_zipIdx_iff_getElem?] at h
  rw [ownText, h]
  rfl

theorem exists_of_ownText_ne {j : Nat} (h : p.ownText j ≠ []) :
    ∃ e, (e, j) ∈ p.elements.zipIdx := by
  cases he : p.elements[j]? with
  | none => simp [ownText, he] at h
  | some e => exact ⟨e, List.mk_mem_zipIdx_iff_getElem?.mpr he⟩

namespace Ordered

variable (h : p.Ordered)
include h

theorem ends_isWithin (i a : Nat) : p.Ends (· == a) (p.parent? i) i (p.isWithin i a) := by
  obtain ⟨n, found, hn, hwalk⟩ := h.exists_walk_parent? (· == a) i
  apply hwalk.ends hn
  rw [h.isWithin_iff]
  constructor
  · intro hinside
    exact ⟨a, ahead_parent?_iff.mpr hinside, beq_self_eq_true a⟩
  · rintro ⟨j, hahead, hj⟩
    rw [← beq_iff_eq.mp hj]
    exact ahead_parent?_iff.mp hahead

theorem ends_isShown (i : Nat) : p.Ends p.isHidden (some i) (i + 1) (!p.isShown i) := by
  obtain ⟨n, found, hn, hwalk⟩ := h.exists_walk p.isHidden i
  apply hwalk.ends hn
  rw [Bool.not_eq_true', ← Bool.not_eq_true, h.isShown_iff, shown_iff, not_not]

/-- The elements that are asked for their texts are those that a walk leads from to the element. -/
theorem exists_speakers (i : Nat) :
    ∃ js, p.Speakers i js ∧ p.textOf i = Text.unwords (js.map p.ownText) := by
  let speaks : Element × Nat → Bool := fun x => !x.1.text.isEmpty && (x.2 == i || p.isWithin x.2 i)
  let own := p.elements.zipIdx.filter speaks
  have hown {e : Element} {j : Nat} (hmem : (e, j) ∈ own) : p.ownText j = e.text :=
    ownText_of_mem (List.mem_of_mem_filter hmem)
  refine ⟨own.map (·.2), ⟨?_, ?_⟩, ?_⟩
  · have hsublist : (own.map (·.2)).Sublist (p.elements.zipIdx.map (·.2)) :=
      List.filter_sublist.map _
    apply List.Pairwise.sublist hsublist
    rw [List.zipIdx_map_snd]
    exact List.pairwise_lt_range'
  · intro j
    rw [List.mem_map]
    constructor
    · rintro ⟨⟨e, _⟩, hmem, rfl⟩
      have hspeaks := (List.mem_filter.mp hmem).2
      simp only [speaks, Bool.and_eq_true, Bool.or_eq_true, beq_iff_eq, h.isWithin_iff] at hspeaks
      rw [hown hmem]
      exact ⟨hspeaks.2, by simpa using hspeaks.1⟩
    · rintro ⟨hheld, hne⟩
      obtain ⟨e, hmem⟩ := exists_of_ownText_ne hne
      refine ⟨(e, j), List.mem_filter.mpr ⟨hmem, ?_⟩, rfl⟩
      rw [ownText_of_mem hmem] at hne
      simp only [speaks, Bool.and_eq_true, Bool.or_eq_true, beq_iff_eq, h.isWithin_iff]
      exact ⟨by simpa using hne, hheld⟩
  · have htexts : own.map (·.1.text) = (own.map (·.2)).map p.ownText := by
      rw [List.map_map]
      apply List.map_congr_left
      rintro ⟨e, j⟩ hmem
      exact (hown hmem).symm
    rw [← htexts]
    rfl

/-- On a page where every parent stands in front of what it holds all walks end. They find the
ancestors of an element, that it is visible with all of them, and the texts that it holds. -/
theorem walks_end :
    (∀ i a, p.Ends (· == a) (p.parent? i) i (p.isWithin i a) ∧ (p.isWithin i a ↔ p.Inside i a)) ∧
      ∀ target i, p.index target = .ok i →
        (∃ shown, (backend.isVisible target).run.run p = (.ok shown, p) ∧
          p.Ends p.isHidden (some i) (i + 1) (!shown) ∧ (shown ↔ p.Shown i)) ∧
        ∃ js, p.Speakers i js ∧
          (backend.text target).run.run p = (.ok (Text.unwords (js.map p.ownText)), p) := by
  constructor
  · intro i a
    exact ⟨h.ends_isWithin i a, h.isWithin_iff⟩
  · intro target i hi
    constructor
    · refine ⟨p.isShown i, ?_, h.ends_isShown i, h.isShown_iff⟩
      have hcall := run_ask (fun p => (p.index target).map p.isShown) p
      rw [hi] at hcall
      exact hcall
    · obtain ⟨js, hjs, htext⟩ := h.exists_speakers i
      refine ⟨js, hjs, ?_⟩
      have hcall := run_ask (fun p => (p.index target).map p.textOf) p
      rw [hi] at hcall
      rw [← htext]
      exact hcall

end Ordered

/-- A hidden box in a form. The paragraph behind it says that it is inside an element that is not
there. -/
def formPage : Page :=
  { elements :=
      [{ tag := "form", text := "Team" },
        { tag := "div", visible := false, parent := some (handle 0) },
        { tag := "b", text := "Ada", parent := some (handle 1) },
        { tag := "p", text := "Home", parent := some (handle 9) }] }

theorem walks_end_form :
    formPage.Ordered ∧ formPage.index (handle 2) = .ok 2 ∧
      (formPage.Ends (· == 0) (formPage.parent? 2) 2 true ∧ formPage.Inside 2 0) ∧
      ¬ formPage.Inside 3 0 ∧
      (backend.isVisible (handle 2)).run.run formPage = (.ok false, formPage) ∧
      ¬ formPage.Shown 2 ∧
      ∃ js, formPage.Speakers 2 js ∧
        (backend.text (handle 2)).run.run formPage =
          (.ok (Text.unwords (js.map formPage.ownText)), formPage) := by
  have hordered : formPage.Ordered := by decide +kernel
  obtain ⟨hwithin, hcalls⟩ := Ordered.walks_end hordered
  have hname : formPage.index (handle 2) = .ok 2 := by decide +kernel
  have hinside : formPage.isWithin 2 0 = true := by decide +kernel
  have hapart : formPage.isWithin 3 0 = false := by decide +kernel
  have hanswer : (backend.isVisible (handle 2)).run.run formPage = (.ok false, formPage) := rfl
  obtain ⟨⟨shown, hrun, -, hshown⟩, htext⟩ := hcalls (handle 2) 2 hname
  obtain rfl : false = shown := Except.ok.inj (Prod.mk.inj (hanswer.symm.trans hrun)).1
  obtain ⟨hends, hiff⟩ := hwithin 2 0
  rw [hinside] at hends
  refine ⟨hordered, hname, ⟨hends, hiff.mp hinside⟩, ?_, hanswer, ?_, htext⟩
  · rw [← (hwithin 3 0).2, hapart]
    exact Bool.false_ne_true
  · rw [← hshown]
    exact Bool.false_ne_true

/-- What the form says is what its elements say, hidden or not. -/
example : formPage.textOf 0 = "Team Ada".toList ∧ formPage.textOf 1 = "Ada".toList := by
  decide +kernel

end PlainSteps.Page
