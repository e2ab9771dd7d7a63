import PlainSteps.Proofs.Doubles
import PlainSteps.Proofs.Numerals
import PlainSteps.Run.Slider

/-!
# What sliders can be read as and set to

A slider is set to what a numeral of a finite number says. What it reports is read more freely: no
number is taken for zero, and what lies beyond all doubles for the end of the 64-bit range. The main
statement is `wholeReading_sliderTarget`.
-/

namespace PlainSteps

namespace Numeral

open Double

/-- The text is a numeral that says a finite number. -/
def IsFinite (t : Text) : Prop := ∃ negative d, IsNumeral negative d t ∧ d.size < limit

/-- The end of the 64-bit range on the side of the sign. -/
def extreme (negative : Bool) : Int := if negative then -(int64Bound : Int) else int64Bound - 1

/-- What stands for a text that says no finite number. -/
inductive Excess : Int → Text → Prop
  | nan {negative : Bool} {s t : Text} : IsSign negative s → IsSpelling "nan" t → Excess 0 (s ++ t)
  | infinity {negative : Bool} {s t : Text} : IsSign negative s →
      IsSpelling "inf" t ∨ IsSpelling "infinity" t → Excess (extreme negative) (s ++ t)
  | overflow {negative : Bool} {d : Decimal} {t : Text} : IsNumeral negative d t →
      limit ≤ d.size → Excess (extreme negative) t

theorem round_infinity (negative : Bool) : (infinity negative).round = extreme negative := by
  cases negative <;> decide

theorem isFinite_iff {t : Text} :
    IsFinite t ↔ ∃ x, Double.read? t = some x ∧ x.isFinite := by
  constructor
  · rintro ⟨negative, d, hd, hsize⟩
    exact ⟨_, read?_eq_some_iff.mpr (.numeral hd), (d.isFinite_toDouble_iff negative).mpr hsize⟩
  · rintro ⟨x, hread, hfinite⟩
    cases read?_eq_some_iff.mp hread with
    | infinity => cases hfinite
    | nan => cases hfinite
    | @numeral negative d _ hd =>
        exact ⟨negative, d, hd, (d.isFinite_toDouble_iff negative).mp hfinite⟩

theorem excess_iff {t : Text} {n : Int} :
    Excess n t ↔ ∃ x, Double.read? t = some x ∧ ¬ x.isFinite ∧ x.round = n := by
  constructor
  · rintro (⟨hs, ht⟩ | ⟨hs, ht⟩ | ⟨hd, hsize⟩)
    · exact ⟨_, read?_eq_some_iff.mpr (.nan hs ht), Bool.false_ne_true, rfl⟩
    · exact ⟨_, read?_eq_some_iff.mpr (.infinity hs ht), Bool.false_ne_true, round_infinity _⟩
    · refine ⟨_, read?_eq_some_iff.mpr (.numeral hd), ?_⟩
      rw [Decimal.toDouble_of_limit_le hsize]
      exact ⟨Bool.false_ne_true, round_infinity _⟩
  · rintro ⟨x, hread, hfinite, rfl⟩
    cases read?_eq_some_iff.mp hread with
    | infinity hs ht =>
        rw [round_infinity]
        exact .infinity hs ht
    | nan hs ht => exact .nan hs ht
    | @numeral negative d _ hd =>
        have hsize := not_lt.mp (mt (d.isFinite_toDouble_iff negative).mpr hfinite)
        rw [Decimal.toDouble_of_limit_le hsize, round_infinity]
        exact .overflow hd hsize

theorem int64Bound_lt_limit : (int64Bound : ℚ) < limit := by
  calc (int64Bound : ℚ) = 2 ^ 53 * 2 ^ (10 : ℤ) := by norm_num [int64Bound]
    _ < 2 ^ 53 * 2 ^ (970 : ℤ) := by gcongr <;> norm_num
    _ ≤ limit := limit_bounds.1

/-- No numeral of the 64-bit range is beyond the doubles. -/
theorem IsFinite.of_readInt64? {t : Text} {n : Int} (h : readInt64? t = some n) : IsFinite t := by
  obtain ⟨hread, -⟩ := Option.filter_eq_some_iff.mp h
  obtain ⟨negative, digits, rfl, hnumeral⟩ := (readInt?_eq_some_iff.mp hread).isNumeral
  have hdigits : digits ≤ int64Bound := by
    obtain ⟨hlow, hhigh⟩ := isInt64_of_readInt64? h
    unfold signed at hlow hhigh
    split_ifs at hlow hhigh <;> omega
  refine ⟨negative, _, hnumeral, ?_⟩
  calc Decimal.size ⟨digits, 0⟩ = digits := by rw [Decimal.size, zpow_zero, mul_one]
    _ ≤ int64Bound := by exact_mod_cast hdigits
    _ < limit := int64Bound_lt_limit

end Numeral

namespace Run

open Numeral

variable {raw name : Text}

theorem wholeReading_of_excess {n : Int} (h : Excess n (Text.trim raw)) :
    wholeReading raw name = .ok n := by
  obtain ⟨x, hread, -, rfl⟩ := excess_iff.mp h
  rw [wholeReading, hread]

theorem wholeReading_of_isFinite (h : IsFinite (Text.trim raw)) :
    ∃ n, wholeReading raw name = .ok n := by
  obtain ⟨x, hread, -⟩ := isFinite_iff.mp h
  rw [wholeReading, hread]
  exact ⟨_, rfl⟩

theorem wholeReading_of_neither (h : ¬ IsFinite (Text.trim raw))
    (hexcess : ¬ ∃ n, Excess n (Text.trim raw)) :
    wholeReading raw name = .error (.coercion raw ("a number for " ++ name)) := by
  unfold wholeReading
  cases hread : Double.read? (Text.trim raw) with
  | none => rfl
  | some x =>
      by_cases hfinite : x.isFinite
      · exact absurd (isFinite_iff.mpr ⟨x, hread, hfinite⟩) h
      · exact absurd ⟨_, excess_iff.mpr ⟨x, hread, hfinite, rfl⟩⟩ hexcess

theorem sliderTarget_of_isFinite (h : IsFinite (Text.trim raw)) :
    ∃ n, sliderTarget raw = .ok n := by
  obtain ⟨x, hread, hfinite⟩ := isFinite_iff.mp h
  unfold sliderTarget
  dsimp only
  cases readInt64? (Text.trim raw) with
  | some n => exact ⟨n, rfl⟩
  | none =>
      rw [hread, Option.filter_some_pos hfinite]
      exact ⟨_, rfl⟩

theorem sliderTarget_of_not_isFinite (h : ¬ IsFinite (Text.trim raw)) :
    sliderTarget raw = .error (.coercion raw "an integer slider value") := by
  unfold sliderTarget
  dsimp only
  cases hint : readInt64? (Text.trim raw) with
  | some n => exact absurd (.of_readInt64? hint) h
  | none =>
      cases hfilter : (Double.read? (Text.trim raw)).filter (·.isFinite) with
      | none => rfl
      | some x =>
          obtain ⟨hread, hfinite⟩ := Option.filter_eq_some_iff.mp hfilter
          exact absurd (isFinite_iff.mpr ⟨x, hread, hfinite⟩) h

theorem not_isFinite_of_excess {n : Int} {t : Text} (h : Excess n t) : ¬ IsFinite t := by
  intro hfinite
  obtain ⟨x, hread, hnot, -⟩ := excess_iff.mp h
  obtain ⟨y, hread', hfinite⟩ := isFinite_iff.mp hfinite
  obtain rfl := Option.some.inj (hread.symm.trans hread')
  exact hnot hfinite

/-- A slider is set to a text just if the text, without the white space around it, is a numeral that
says a finite number. What it reports is read just if it is such a numeral, or one that is in excess
of them all: then no target is made of it, but a reading is, with nothing to tell it from an honest
one. All else fails, and the failure names the text. -/
theorem wholeReading_sliderTarget (raw name : Text) :
    ((∃ n, sliderTarget raw = .ok n) ↔ IsFinite (Text.trim raw)) ∧
    ((∃ n, wholeReading raw name = .ok n) ↔
      IsFinite (Text.trim raw) ∨ ∃ n, Excess n (Text.trim raw)) ∧
    (∀ n, Excess n (Text.trim raw) → wholeReading raw name = .ok n ∧
      sliderTarget raw = .error (.coercion raw "an integer slider value")) ∧
    (∀ f, wholeReading raw name = .error f → f = .coercion raw ("a number for " ++ name) ∧
      sliderTarget raw = .error (.coercion raw "an integer slider value")) := by
  refine ⟨⟨?_, sliderTarget_of_isFinite⟩, ⟨?_, ?_⟩, fun n hn => ?_, fun f hf => ?_⟩
  · rintro ⟨n, hn⟩
    by_contra hfinite
    cases hn.symm.trans (sliderTarget_of_not_isFinite hfinite)
  · rintro ⟨n, hn⟩
    by_contra hneither
    obtain ⟨hfinite, hexcess⟩ := not_or.mp hneither
    cases hn.symm.trans (wholeReading_of_neither hfinite hexcess)
  · rintro (hfinite | ⟨n, hn⟩)
    · exact wholeReading_of_isFinite hfinite
    · exact ⟨n, wholeReading_of_excess hn⟩
  · exact ⟨wholeReading_of_excess hn, sliderTarget_of_not_isFinite (not_isFinite_of_excess hn)⟩
  · have hfinite : ¬ IsFinite (Text.trim raw) := by
      intro hfinite
      obtain ⟨n, hn⟩ : ∃ n, wholeReading raw name = .ok n := wholeReading_of_isFinite hfinite
      cases hf.symm.trans hn
    have hexcess : ¬ ∃ n, Excess n (Text.trim raw) := by
      rintro ⟨n, hn⟩
      cases hf.symm.trans (wholeReading_of_excess hn)
    have herror := hf.symm.trans (wholeReading_of_neither hfinite hexcess)
    exact ⟨Except.error.inj herror, sliderTarget_of_not_isFinite hfinite⟩

theorem wholeReading_sliderTarget_overflow : Excess (int64Bound - 1) (Text.trim " 1e999") ∧
    wholeReading " 1e999" "max" = .ok (int64Bound - 1) ∧
    sliderTarget " 1e999" = .error (.coercion " 1e999" "an integer slider value") := by
  have hexcess : Excess (int64Bound - 1) (Text.trim " 1e999") :=
    excess_iff.mpr ⟨.infinity false, by decide +kernel, Bool.false_ne_true, round_infinity false⟩
  obtain ⟨-, -, h, -⟩ := wholeReading_sliderTarget " 1e999" "max"
  exact ⟨hexcess, h _ hexcess⟩

theorem wholeReading_nan : ¬ ((∃ n, wholeReading "NaN" "value" = .ok n) ↔
    ∃ n, sliderTarget "NaN" = .ok n) := by
  intro h
  obtain ⟨n, hn⟩ := h.mp ⟨0, by decide +kernel⟩
  have herror : sliderTarget "NaN" = .error (.coercion "NaN" "an integer slider value") := by
    decide +kernel
  cases hn.symm.trans herror

end Run

end PlainSteps
