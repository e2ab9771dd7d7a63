import Mathlib.Logic.Relation
import PlainSteps.Page

/-!
# What an element stands inside of

An element stands inside of another if a chain of parents leads there (`Page.Inside`). On a page
where every parent stands in front of what it holds the walk over the parents ends before its bound
is met, so that it comes past all of them (`mem_ancestors_iff`).

The handle of an element leads back to it (`index?_handle`).
-/

namespace PlainSteps.Page

variable {p : Page}

/-! ## Handles -/

theorem readNat?_ofNat (n : Nat) : Numeral.readNat? (Text.ofNat n) = some n := by
  have hdigits : (Text.ofNat n).all Char.isDigit := by
    rw [List.all_eq_true]
    intro c hc
    exact Nat.isDigit_of_mem_toDigits (by decide) (by decide) hc
  have hvalue : Numeral.digitsValue (Text.ofNat n) = n := by
    have hfold := @Nat.ofDigitChars_ten_toDigits n
    simp only [Nat.ofDigitChars_eq_foldl, Nat.mul_comm 10] at hfold
    exact hfold
  unfold Numeral.readNat?
  cases htext : Text.ofNat n with
  | nil => exact absurd htext Nat.toDigits_ne_nil
  | cons c r =>
      rw [htext] at hdigits hvalue
      have hc : c ≠ '+' := by
        rintro rfl
        exact absurd hdigits (by simp)
      simp [hc, hdigits, hvalue]

theorem index?_handle {i : Nat} (h : i < p.elements.length) : p.index? (handle i) = some i := by
  rw [index?, handle]
  simp [readNat?_ofNat, h]

theorem index_handle {i : Nat} (h : i < p.elements.length) : p.index (handle i) = .ok i := by
  rw [index, index?_handle h]

/-! ## Chains of parents -/

/-- The first element stands inside of the second, perhaps with others between them. -/
def Inside (p : Page) : (i a : Nat) → Prop :=
  Relation.TransGen fun i a => p.parent? i = some a

theorem parent?_of_length_le {i : Nat} (h : p.elements.length ≤ i) : p.parent? i = none := by
  rw [parent?, List.getElem?_eq_none h]
  rfl

theorem not_inside_of_parent?_eq_none {i a : Nat} (h : p.parent? i = none) : ¬ p.Inside i a := by
  intro hinside
  obtain ⟨j, hj, -⟩ := Relation.TransGen.head'_iff.mp hinside
  exact nomatch h.symm.trans hj

theorem inside_iff_of_parent?_eq_some {i j a : Nat} (h : p.parent? i = some j) :
    p.Inside i a ↔ a = j ∨ p.Inside j a := by
  rw [Inside, Relation.TransGen.head'_iff]
  constructor
  · rintro ⟨k, hk, hchain⟩
    obtain rfl : j = k := Option.some.inj (h.symm.trans hk)
    exact Relation.reflTransGen_iff_eq_or_transGen.mp hchain
  · intro hchain
    exact ⟨j, h, Relation.reflTransGen_iff_eq_or_transGen.mpr hchain⟩

/-- Every parent stands in front of what it holds. -/
def Ordered (p : Page) : Prop := ∀ i j, p.parent? i = some j → j < i

theorem ordered_iff : p.Ordered ↔ ∀ i < p.elements.length, ∀ j ∈ p.parent? i, j < i := by
  constructor
  · intro h i _ j hj
    exact h i j hj
  · intro h i j hj
    by_cases hi : i < p.elements.length
    · exact h i hi j hj
    · exact nomatch (parent?_of_length_le (Nat.not_lt.mp hi)).symm.trans hj

instance : Decidable p.Ordered := decidable_of_iff _ ordered_iff.symm

namespace Ordered

variable (h : p.Ordered)
include h

/-- The walk needs no more steps than there are elements in front. -/
theorem mem_ancestorsUpTo_iff {n i a : Nat} (hi : i ≤ n) :
    a ∈ p.ancestorsUpTo n i ↔ p.Inside i a := by
  induction n generalizing i with
  | zero =>
      obtain rfl : i = 0 := by omega
      refine iff_of_false List.not_mem_nil ?_
      cases hparent : p.parent? 0 with
      | none => exact not_inside_of_parent?_eq_none hparent
      | some j => exact absurd (h 0 j hparent) (Nat.not_lt_zero j)
  | succ n ih =>
      rw [ancestorsUpTo]
      cases hparent : p.parent? i with
      | none => exact iff_of_false List.not_mem_nil (not_inside_of_parent?_eq_none hparent)
      | some j =>
          have hj := h i j hparent
          rw [inside_iff_of_parent?_eq_some hparent, List.mem_cons, ih (by omega)]

theorem mem_ancestors_iff {i a : Nat} : a ∈ p.ancestors i ↔ p.Inside i a := by
  by_cases hi : i < p.elements.length
  · exact h.mem_ancestorsUpTo_iff (Nat.le_of_lt hi)
  · have hparent := parent?_of_length_le (Nat.not_lt.mp hi)
    refine iff_of_false ?_ (not_inside_of_parent?_eq_none hparent)
    rw [ancestors]
    cases p.elements.length with
    | zero => exact List.not_mem_nil
    | succ n =>
        rw [ancestorsUpTo, hparent]
        exact List.not_mem_nil

theorem isWithin_iff {i a : Nat} : p.isWithin i a ↔ p.Inside i a := by
  rw [isWithin, List.contains_iff_mem]
  exact h.mem_ancestors_iff

end Ordered

/-! ## Sight -/

/-- An element is visible of itself, and so is everything that it stands inside of. -/
def Shown (p : Page) (i : Nat) : Prop :=
  ∀ j e, j = i ∨ p.Inside i j → p.elements[j]? = some e → e.visible

theorem Ordered.isShown_iff (h : p.Ordered) {i : Nat} : p.isShown i ↔ p.Shown i := by
  have hmem {j : Nat} : j ∈ i :: p.ancestors i ↔ j = i ∨ p.Inside i j := by
    rw [List.mem_cons, h.mem_ancestors_iff]
  rw [isShown, List.all_eq_true]
  constructor
  · intro hall j e hj he
    have hvisible := hall j (hmem.mpr hj)
    rwa [he] at hvisible
  · intro hshown j hj
    cases he : p.elements[j]? with
    | none => rfl
    | some e => exact hshown j e (hmem.mp hj) he

end PlainSteps.Page
