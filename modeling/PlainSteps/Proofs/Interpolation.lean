import PlainSteps.Proofs.Doubles
import PlainSteps.Run.Slider

/-!
# Where sliders are dragged to

The place on a track is worked out from differences of 64-bit numbers. The readings and targets of a
slider are 64-bit numbers, but nothing keeps their differences in that range, and a difference that
lies outside of it ends the program. The main statement is `interpolate_of_readings`.
-/

namespace PlainSteps

namespace Run

open Numeral

variable {m n : Int}

/-! ## Readings and targets -/

theorem isInt64_of_wholeReading {raw name : Text} (h : wholeReading raw name = .ok n) :
    IsInt64 n := by
  unfold wholeReading at h
  split at h
  · obtain rfl := Except.ok.inj h
    exact isInt64_round _
  · cases h

theorem isInt64_of_sliderTarget {raw : Text} (h : sliderTarget raw = .ok n) : IsInt64 n := by
  unfold sliderTarget at h
  dsimp only at h
  split at h
  · next hread =>
      obtain rfl := Except.ok.inj h
      exact isInt64_of_readInt64? hread
  · split at h
    · obtain rfl := Except.ok.inj h
      exact isInt64_truncate _
    · cases h

/-! ## Differences -/

theorem difference_eq_ok_iff : difference m n = .ok (m - n) ↔ IsInt64 (m - n) := by
  unfold difference
  split
  · next h => exact iff_of_true rfl h
  · next h => exact iff_of_false nofun h

theorem difference_of_not_isInt64 (h : ¬ IsInt64 (m - n)) :
    difference m n = .error .overflow := if_neg h

/-- The 64-bit number that a whole number wraps around to, which is what a difference is without the
check. -/
def wrapped (n : Int) : Int := n.bmod nat64Bound

/-- A difference that is out of range is off by all 64-bit numbers. -/
theorem wrapped_of_not_isInt64 (hm : IsInt64 m) (hn : IsInt64 n) (h : ¬ IsInt64 (m - n)) :
    wrapped (m - n) = m - n - (m - n).sign * nat64Bound := by
  unfold IsInt64 int64Bound at hm hn h
  unfold wrapped nat64Bound
  rw [Int.bmod_def]
  rcases lt_trichotomy (m - n) 0 with hneg | hzero | hpos
  · rw [Int.sign_eq_neg_one_of_neg hneg]
    split_ifs <;> omega
  · omega
  · rw [Int.sign_eq_one_of_pos hpos]
    split_ifs <;> omega

/-! ## Places -/

variable {box : Box} {min max value target : Int}

theorem interpolate_of_isInt64 (hlength : IsInt64 (max - min)) (hpart : IsInt64 (value - min)) :
    interpolate box min max value =
      .ok (box.x + floatOfInt (value - min) / floatOfInt (max - min) * box.width) := by
  rw [interpolate, difference_eq_ok_iff.mpr hpart, difference_eq_ok_iff.mpr hlength]
  rfl

theorem interpolate_of_not_isInt64 (h : ¬ (IsInt64 (max - min) ∧ IsInt64 (value - min))) :
    interpolate box min max value = .error .overflow := by
  rw [interpolate]
  by_cases hpart : IsInt64 (value - min)
  · have hlength : ¬ IsInt64 (max - min) := fun hlength => h ⟨hlength, hpart⟩
    rw [difference_eq_ok_iff.mpr hpart, difference_of_not_isInt64 hlength]
    rfl
  · rw [difference_of_not_isInt64 hpart]
    rfl

/-- Nothing but an overflow keeps a value from having its place. -/
theorem interpolate_eq_error {f : Failure} (h : interpolate box min max value = .error f) :
    ¬ (IsInt64 (max - min) ∧ IsInt64 (value - min)) ∧ f = .overflow := by
  by_cases hexact : IsInt64 (max - min) ∧ IsInt64 (value - min)
  · rw [interpolate_of_isInt64 hexact.1 hexact.2] at h
    cases h
  · rw [interpolate_of_not_isInt64 hexact] at h
    exact ⟨hexact, (Except.error.inj h).symm⟩

/-- Let a slider report a range and let a value be reported by it or asked of it. Of the two
differences that the place of the value is worked out from, each is had just if it is a 64-bit
number, which both are if neither the least value nor this one is negative. If both are had, the
place is the one that divides the track as the value does the range; else there is none. Without
the check they would be off by all 64-bit numbers, and a range that is too long would seem to have
a negative length. -/
theorem interpolate_of_readings {rawMin nameMin rawMax nameMax : Text}
    (hmin : wholeReading rawMin nameMin = .ok min) (hmax : wholeReading rawMax nameMax = .ok max)
    (hrange : min < max) (hvalue : (∃ raw name, wholeReading raw name = .ok value) ∨
      ∃ raw, sliderTarget raw = .ok value) :
    (difference max min = .ok (max - min) ↔ IsInt64 (max - min)) ∧
    (difference value min = .ok (value - min) ↔ IsInt64 (value - min)) ∧
    (0 ≤ min → 0 ≤ value → IsInt64 (max - min) ∧ IsInt64 (value - min)) ∧
    (IsInt64 (max - min) → IsInt64 (value - min) → ∀ box, interpolate box min max value =
      .ok (box.x + floatOfInt (value - min) / floatOfInt (max - min) * box.width)) ∧
    (¬ (IsInt64 (max - min) ∧ IsInt64 (value - min)) →
      ∀ box, interpolate box min max value = .error .overflow) ∧
    (¬ IsInt64 (max - min) →
      wrapped (max - min) = max - min - nat64Bound ∧ wrapped (max - min) < 0) ∧
    (¬ IsInt64 (value - min) →
      wrapped (value - min) = value - min - (value - min).sign * nat64Bound) := by
  have hmin := isInt64_of_wholeReading hmin
  have hmax := isInt64_of_wholeReading hmax
  have hvalue : IsInt64 value := by
    obtain ⟨raw, name, h⟩ | ⟨raw, h⟩ := hvalue
    · exact isInt64_of_wholeReading h
    · exact isInt64_of_sliderTarget h
  refine ⟨difference_eq_ok_iff, difference_eq_ok_iff, fun hmin' hvalue' => ?_,
    fun hlength hpart box => interpolate_of_isInt64 hlength hpart,
    fun h box => interpolate_of_not_isInt64 h, fun hlength => ?_,
    wrapped_of_not_isInt64 hvalue hmin⟩
  · unfold IsInt64 at *
    omega
  · have hoff := wrapped_of_not_isInt64 hmax hmin hlength
    rw [Int.sign_eq_one_of_pos (by omega), one_mul] at hoff
    refine ⟨hoff, ?_⟩
    unfold IsInt64 int64Bound at hmin hmax
    unfold nat64Bound at hoff
    omega

/-- A target that lies far below the range has no place, and would seem to lie far above it. -/
theorem interpolate_of_readings_below : wholeReading "1" "min" = .ok 1 ∧
    wholeReading "100" "max" = .ok 100 ∧
    sliderTarget "-9223372036854775808" = .ok (-int64Bound) ∧
    difference 100 1 = .ok 99 ∧ (∀ box, interpolate box 1 100 (-int64Bound) = .error .overflow) ∧
    wrapped (-int64Bound - 1) = int64Bound - 1 := by
  have hmin : wholeReading "1" "min" = .ok 1 := by decide +kernel
  have hmax : wholeReading "100" "max" = .ok 100 := by decide +kernel
  have hvalue : sliderTarget "-9223372036854775808" = .ok (-int64Bound) := by decide +kernel
  obtain ⟨hlength, -, -, -, hnone, -, hpart⟩ :=
    interpolate_of_readings hmin hmax (by decide) (.inr ⟨_, hvalue⟩)
  exact ⟨hmin, hmax, hvalue, hlength.mpr (by decide), hnone (by decide), hpart (by decide)⟩

/-- The target is in the middle of the range, and the range is too long. -/
theorem difference_of_long_range : ∃ min max value, wholeReading "-9e18" "min" = .ok min ∧
    wholeReading "9e18" "max" = .ok max ∧ sliderTarget "0" = .ok value ∧ min < max ∧
    difference max min = .error .overflow ∧ wrapped (max - min) ≠ max - min ∧
    ∀ box, interpolate box min max value = .error .overflow :=
  ⟨-9000000000000000000, 9000000000000000000, 0, by decide +kernel, by decide +kernel,
    by decide +kernel, by decide, by decide, by decide, fun _ =>
      interpolate_of_not_isInt64 (by decide)⟩

end Run

end PlainSteps
