import Mathlib.Algebra.Order.Field.Power
import Mathlib.Data.Rat.Cast.Order
import Mathlib.Tactic.FieldSimp
import Mathlib.Tactic.Linarith
import Mathlib.Tactic.NormNum
import Mathlib.Tactic.Positivity
import Mathlib.Tactic.Ring
import PlainSteps.Numeral.Decimal

/-!
# Which numbers are finite doubles

Rounding keeps a quotient finite just if it lies below `Double.limit`, half a place above the
greatest double: `isFinite_ofRatio_iff`. The same holds of decimals, although exponents that are
beyond every double are not worked out: `Decimal.isFinite_toDouble_iff`. The whole numbers that are
made of doubles are 64-bit numbers, whatever the doubles: `isInt64_round`, `isInt64_truncate`.
-/

namespace PlainSteps.Numeral

/-! ## Rounding to whole numbers -/

/-- The quotients that are rounded below an even number are those that lie more than a half below
it. At the half itself the even number is taken. -/
theorem le_roundHalfEven_iff {n d k : ℕ} (hd : 0 < d) (hk : k % 2 = 0) :
    k ≤ roundHalfEven n d ↔ 2 * (k * d) ≤ 2 * n + d := by
  have hn : n / d * d + n % d = n := Nat.div_add_mod' n d
  have hr : n % d < d := Nat.mod_lt n hd
  unfold roundHalfEven
  generalize n / d = q, n % d = r at *
  rcases Nat.lt_trichotomy k (q + 1) with hlt | rfl | hlt
  · have hle : k * d ≤ q * d := Nat.mul_le_mul_right d (by omega)
    dsimp only
    split_ifs <;> omega
  · have hmul : (q + 1) * d = q * d + d := Nat.succ_mul q d
    dsimp only
    split_ifs <;> omega
  · have hle : (q + 2) * d ≤ k * d := Nat.mul_le_mul_right d (by omega)
    have hmul : (q + 2) * d = q * d + 2 * d := Nat.add_mul q 2 d
    dsimp only
    split_ifs <;> omega

theorem roundHalfEven_le {n d k : ℕ} (hd : 0 < d) (h : n ≤ k * d) : roundHalfEven n d ≤ k := by
  have hn : n / d * d + n % d = n := Nat.div_add_mod' n d
  have hq : n / d ≤ k := by
    by_contra hlt
    have hle : (k + 1) * d ≤ n / d * d := Nat.mul_le_mul_right d (by omega)
    have hmul : (k + 1) * d = k * d + d := Nat.succ_mul k d
    omega
  unfold roundHalfEven
  generalize n / d = q, n % d = r at *
  rcases Nat.lt_or_eq_of_le hq with hlt | rfl
  · dsimp only
    split_ifs <;> omega
  · dsimp only
    split_ifs <;> omega

/-! ## Powers -/

theorem power_pos {base : ℕ} (hbase : 0 < base) (e : ℤ) :
    0 < (power base e).1 ∧ 0 < (power base e).2 := by
  unfold power
  split_ifs
  · exact ⟨Nat.pow_pos hbase, Nat.one_pos⟩
  · exact ⟨Nat.one_pos, Nat.pow_pos hbase⟩

theorem power_fst_div_snd (base : ℕ) (e : ℤ) :
    ((power base e).1 / (power base e).2 : ℚ) = (base : ℚ) ^ e := by
  unfold power
  split_ifs with h
  · obtain ⟨k, rfl⟩ := Int.eq_ofNat_of_zero_le h
    simp
  · obtain ⟨k, rfl⟩ : ∃ k : ℕ, e = -k := ⟨(-e).toNat, by omega⟩
    simp

namespace Double

/-! ## The place of the last bit -/

/-- A quotient in units of `2 ^ e`. -/
def inUnits (num den : ℕ) (e : ℤ) : ℕ × ℕ := (num * (power 2 e).2, den * (power 2 e).1)

theorem inUnits_snd_pos {den : ℕ} (hden : 0 < den) (num : ℕ) (e : ℤ) :
    0 < (inUnits num den e).2 :=
  Nat.mul_pos hden (power_pos Nat.two_pos e).1

theorem inUnits_ratio (num den : ℕ) (e : ℤ) :
    ((inUnits num den e).1 / (inUnits num den e).2 : ℚ) = num / den / 2 ^ e := by
  have h := power_fst_div_snd 2 e
  unfold inUnits
  push_cast at h ⊢
  rw [← h]
  field_simp

/-- A first guess at the place, which may be too great by one. -/
def guess (num den : ℕ) : ℤ := (Nat.log2 num : ℤ) - (Nat.log2 den : ℤ) - 52

/-- The place of the last of the 53 bits of a quotient. -/
def place (num den : ℕ) : ℤ :=
  if (inUnits num den (guess num den)).1 / (inUnits num den (guess num den)).2 < mantissaBound
  then guess num den - 1 else guess num den

theorem guess_bounds {num den : ℕ} (hnum : num ≠ 0) (hden : 0 < den) :
    (2 : ℚ) ^ 51 * 2 ^ guess num den ≤ num / den ∧
      (num / den : ℚ) < 2 ^ 53 * 2 ^ guess num den := by
  have hunit : (0 : ℚ) < 2 ^ guess num den := by positivity
  have hlow : (2 : ℚ) ^ num.log2 ≤ num := by exact_mod_cast Nat.log2_self_le hnum
  have hhigh : (num : ℚ) < 2 ^ (num.log2 + 1) := by exact_mod_cast Nat.lt_log2_self
  have hlow' : (2 : ℚ) ^ den.log2 ≤ den := by exact_mod_cast Nat.log2_self_le hden.ne'
  have hhigh' : (den : ℚ) < 2 ^ (den.log2 + 1) := by exact_mod_cast Nat.lt_log2_self
  have hscale : (2 : ℚ) ^ num.log2 = 2 ^ 52 * 2 ^ guess num den * 2 ^ den.log2 := by
    have hexp : (num.log2 : ℤ) = (52 : ℕ) + guess num den + den.log2 := by
      unfold guess
      omega
    rw [← zpow_natCast 2 num.log2, hexp, zpow_add₀ two_ne_zero, zpow_add₀ two_ne_zero,
      zpow_natCast, zpow_natCast]
  constructor
  · rw [le_div_iff₀ (by exact_mod_cast hden)]
    calc (2 : ℚ) ^ 51 * 2 ^ guess num den * den
        ≤ 2 ^ 51 * 2 ^ guess num den * 2 ^ (den.log2 + 1) := by gcongr
      _ = 2 ^ num.log2 := by rw [hscale]; ring
      _ ≤ num := hlow
  · rw [div_lt_iff₀ (by exact_mod_cast hden)]
    calc (num : ℚ) < 2 ^ (num.log2 + 1) := hhigh
      _ = 2 ^ 53 * 2 ^ guess num den * 2 ^ den.log2 := by rw [pow_succ, hscale]; ring
      _ ≤ 2 ^ 53 * 2 ^ guess num den * den := by gcongr

/-- In units of its place a quotient has 53 bits. -/
theorem place_bounds {num den : ℕ} (hnum : num ≠ 0) (hden : 0 < den) :
    (2 : ℚ) ^ 52 * 2 ^ place num den ≤ num / den ∧
      (num / den : ℚ) < 2 ^ 53 * 2 ^ place num den := by
  obtain ⟨hlow, hhigh⟩ := guess_bounds hnum hden
  have hunit : (0 : ℚ) < 2 ^ guess num den := by positivity
  have hpos := inUnits_snd_pos hden num (guess num den)
  have hsmall : (inUnits num den (guess num den)).1 / (inUnits num den (guess num den)).2 <
      mantissaBound ↔ (num / den : ℚ) < 2 ^ 52 * 2 ^ guess num den := by
    rw [Nat.div_lt_iff_lt_mul hpos, ← div_lt_iff₀ hunit, ← inUnits_ratio,
      div_lt_iff₀ (by exact_mod_cast hpos)]
    norm_cast
  have hhalf : (2 : ℚ) ^ guess num den = 2 * 2 ^ (guess num den - 1) := by
    rw [zpow_sub_one₀ two_ne_zero]
    ring
  unfold place
  split_ifs with h
  · have hless := hsmall.mp h
    rw [hhalf] at hlow hless
    constructor <;> linarith
  · have hmore := mt hsmall.mpr h
    exact ⟨not_lt.mp hmore, hhigh⟩

/-! ## Finite quotients -/

/-- The exponent that a quotient is rounded at. -/
def roundingExponent (num den : ℕ) : ℤ := max leastExponent (place num den)

/-- The mantissa that a quotient is rounded to. -/
def roundedMantissa (num den : ℕ) : ℕ :=
  roundHalfEven (inUnits num den (roundingExponent num den)).1
    (inUnits num den (roundingExponent num den)).2

theorem ofRatio_eq {num den : ℕ} (hnum : num ≠ 0) (negative : Bool) :
    ofRatio negative num den =
      if roundedMantissa num den = 2 * mantissaBound then
        if greatestExponent < roundingExponent num den + 1 then infinity negative
        else finite negative mantissaBound (roundingExponent num den + 1)
      else
        if greatestExponent < roundingExponent num den then infinity negative
        else finite negative (roundedMantissa num den) (roundingExponent num den) := by
  have hunfold : ofRatio negative num den =
      if num = 0 then finite negative 0 leastExponent
      else
        let carried :=
          if roundedMantissa num den = 2 * mantissaBound
          then (mantissaBound, roundingExponent num den + 1)
          else (roundedMantissa num den, roundingExponent num den)
        if greatestExponent < carried.2 then infinity negative
        else finite negative carried.1 carried.2 := rfl
  rw [hunfold, if_neg hnum]
  by_cases hcarry : roundedMantissa num den = 2 * mantissaBound
  · simp only [if_pos hcarry]
  · simp only [if_neg hcarry]

theorem isFinite_ofRatio_iff_exponent {num den : ℕ} (hnum : num ≠ 0) (negative : Bool) :
    (ofRatio negative num den).isFinite ↔ roundingExponent num den < greatestExponent ∨
      roundingExponent num den = greatestExponent ∧
        roundedMantissa num den ≠ 2 * mantissaBound := by
  rw [ofRatio_eq hnum]
  split_ifs
  · exact iff_of_false Bool.false_ne_true (by omega)
  · exact iff_of_true rfl (by omega)
  · exact iff_of_false Bool.false_ne_true (by omega)
  · exact iff_of_true rfl (by omega)

theorem carries_iff {num den : ℕ} (hnum : num ≠ 0) (hden : 0 < den) :
    roundedMantissa num den = 2 * mantissaBound ↔
      (2 ^ 53 - 1 / 2) * 2 ^ roundingExponent num den ≤ (num / den : ℚ) := by
  have hunit : (0 : ℚ) < 2 ^ roundingExponent num den := by positivity
  have hpos := inUnits_snd_pos hden num (roundingExponent num den)
  have hpos' : (0 : ℚ) < (inUnits num den (roundingExponent num den)).2 := by exact_mod_cast hpos
  have hratio := inUnits_ratio num den (roundingExponent num den)
  -- The place is not below that of the quotient, so that 53 bits are enough.
  have hfits : (num / den : ℚ) < 2 ^ 53 * 2 ^ roundingExponent num den :=
    calc (num / den : ℚ) < 2 ^ 53 * 2 ^ place num den := (place_bounds hnum hden).2
      _ ≤ 2 ^ 53 * 2 ^ roundingExponent num den := by
        gcongr
        · norm_num
        · exact le_max_right _ _
  have hle : roundedMantissa num den ≤ 2 * mantissaBound := by
    refine roundHalfEven_le hpos ?_
    rw [← div_lt_iff₀ hunit, ← hratio, div_lt_iff₀ hpos'] at hfits
    have hnat : (inUnits num den (roundingExponent num den)).1 <
        2 ^ 53 * (inUnits num den (roundingExponent num den)).2 := by exact_mod_cast hfits
    exact hnat.le
  have heven : 2 * mantissaBound % 2 = 0 := Nat.mul_mod_right 2 _
  rw [← hle.ge_iff_eq, roundedMantissa, le_roundHalfEven_iff hpos heven, ← le_div_iff₀ hunit,
    ← hratio, le_div_iff₀ hpos', ← Nat.cast_le (α := ℚ)]
  push_cast [mantissaBound]
  constructor <;> intro h <;> linarith

/-- A half place above the greatest double. -/
def limit : ℚ := (2 ^ 54 - 1) * 2 ^ (970 : ℤ)

theorem limit_bounds : (2 : ℚ) ^ 53 * 2 ^ (970 : ℤ) ≤ limit ∧ limit < 2 ^ 52 * 2 ^ (972 : ℤ) ∧
    limit = (2 ^ 53 - 1 / 2) * 2 ^ greatestExponent := by
  have hunit : (0 : ℚ) < 2 ^ (970 : ℤ) := by positivity
  have htwo : (2 : ℚ) ^ greatestExponent = 2 ^ (970 : ℤ) * 2 := zpow_add_one₀ two_ne_zero 970
  have hfour : (2 : ℚ) ^ (972 : ℤ) = 2 ^ (970 : ℤ) * 4 := by
    rw [show (972 : ℤ) = 970 + 2 from rfl, zpow_add₀ two_ne_zero]
    norm_num
  rw [htwo, hfour, limit]
  generalize (2 : ℚ) ^ (970 : ℤ) = u at hunit
  refine ⟨?_, ?_, ?_⟩ <;> linarith

theorem isFinite_ofRatio_iff {num den : ℕ} (hden : 0 < den) (negative : Bool) :
    (ofRatio negative num den).isFinite ↔ (num / den : ℚ) < limit := by
  obtain ⟨hbelow, habove, hhalf⟩ := limit_bounds
  by_cases hnum : num = 0
  · subst hnum
    refine iff_of_true rfl ?_
    rw [Nat.cast_zero, zero_div]
    exact lt_of_lt_of_le (by positivity) hbelow
  obtain ⟨hlow, hhigh⟩ := place_bounds hnum hden
  have hplace : place num den ≤ roundingExponent num den := le_max_right _ _
  have hgreatest : greatestExponent = 971 := rfl
  rw [isFinite_ofRatio_iff_exponent hnum, ne_eq, carries_iff hnum hden, not_le]
  rcases lt_trichotomy (roundingExponent num den) greatestExponent with hless | hsame | hmore
  · refine iff_of_true (.inl hless) ?_
    have hplace : place num den ≤ 970 := by omega
    calc (num / den : ℚ) < 2 ^ 53 * 2 ^ place num den := hhigh
      _ ≤ 2 ^ 53 * 2 ^ (970 : ℤ) := by gcongr; norm_num
      _ ≤ limit := hbelow
  · rw [hsame, ← hhalf]
    simp only [lt_irrefl, true_and, false_or]
  · refine iff_of_false (by omega) ?_
    have hplace : 972 ≤ place num den := by
      unfold roundingExponent leastExponent at hmore
      omega
    refine not_lt.mpr (habove.le.trans ?_)
    calc (2 : ℚ) ^ 52 * 2 ^ (972 : ℤ) ≤ 2 ^ 52 * 2 ^ place num den := by gcongr; norm_num
      _ ≤ (num / den : ℚ) := hlow

theorem ofRatio_of_not_isFinite {negative : Bool} {num den : ℕ}
    (h : ¬ (ofRatio negative num den).isFinite) : ofRatio negative num den = infinity negative := by
  by_cases hnum : num = 0
  · subst hnum
    exact absurd rfl h
  · rw [ofRatio_eq hnum] at h ⊢
    split_ifs at h ⊢
    · rfl
    · exact absurd rfl h
    · rfl
    · exact absurd rfl h

end Double

/-! ## Decimals -/

namespace Decimal

/-- The value without its sign. -/
def size (d : Decimal) : ℚ := d.digits * 10 ^ d.exponent

theorem size_lt (d : Decimal) : d.size < 2 ^ (d.digits.log2 + 1) * 10 ^ d.exponent := by
  have hdigits : (d.digits : ℚ) < 2 ^ (d.digits.log2 + 1) := by exact_mod_cast Nat.lt_log2_self
  exact mul_lt_mul_of_pos_right hdigits (by positivity)

theorem limit_le_pow : Double.limit ≤ 10 ^ (401 : ℤ) := by
  obtain ⟨-, habove, -⟩ := Double.limit_bounds
  calc Double.limit ≤ 2 ^ 52 * 2 ^ (972 : ℤ) := habove.le
    _ = 2 ^ (52 + 972) := by rw [pow_add]; rfl
    _ ≤ 2 ^ (3 * 342) := by gcongr <;> norm_num
    _ = (2 ^ 3) ^ 342 := pow_mul 2 3 342
    _ ≤ 10 ^ 342 := by gcongr; norm_num
    _ ≤ 10 ^ (401 : ℕ) := by gcongr <;> norm_num

theorem isFinite_toDouble_iff (d : Decimal) (negative : Bool) :
    (d.toDouble negative).isFinite ↔ d.size < Double.limit := by
  obtain ⟨hbelow, -, -⟩ := Double.limit_bounds
  unfold toDouble
  dsimp only
  split_ifs with hzero hbig hsmall
  · refine iff_of_true rfl ?_
    rw [size, hzero, Nat.cast_zero, zero_mul]
    exact lt_of_lt_of_le (by positivity) hbelow
  · refine iff_of_false Bool.false_ne_true (not_lt.mpr ?_)
    have hone : (1 : ℚ) ≤ d.digits := by exact_mod_cast Nat.one_le_iff_ne_zero.mpr hzero
    calc Double.limit ≤ 10 ^ (401 : ℤ) := limit_le_pow
      _ ≤ 10 ^ d.exponent := by gcongr; norm_num; omega
      _ ≤ d.size := le_mul_of_one_le_left (by positivity) hone
  · refine iff_of_true rfl ?_
    calc d.size < 2 ^ (d.digits.log2 + 1) * 10 ^ d.exponent := d.size_lt
      _ ≤ 10 ^ (d.digits.log2 + 1) * 10 ^ d.exponent := by gcongr; norm_num
      _ = 10 ^ ((d.digits.log2 + 1 : ℕ) + d.exponent) := by
        rw [zpow_add₀ (by norm_num), zpow_natCast]
      _ ≤ 10 ^ (0 : ℤ) := by gcongr; norm_num; push_cast; omega
      _ = 1 := zpow_zero 10
      _ ≤ 2 ^ 53 * 2 ^ (970 : ℤ) := by
        exact one_le_mul_of_one_le_of_one_le (one_le_pow₀ one_le_two)
          (one_le_zpow₀ one_le_two (by decide))
      _ ≤ Double.limit := hbelow
  · rw [Double.isFinite_ofRatio_iff (power_pos (by decide) _).2]
    have hpower := power_fst_div_snd 10 d.exponent
    push_cast at hpower ⊢
    rw [mul_div_assoc, hpower]
    rfl

theorem toDouble_of_limit_le {d : Decimal} (h : Double.limit ≤ d.size) (negative : Bool) :
    d.toDouble negative = .infinity negative := by
  have hnot := mt (d.isFinite_toDouble_iff negative).mp (not_lt.mpr h)
  unfold toDouble at hnot ⊢
  dsimp only at hnot ⊢
  split_ifs at hnot ⊢
  · exact absurd rfl hnot
  · rfl
  · exact absurd rfl hnot
  · exact Double.ofRatio_of_not_isFinite hnot

end Decimal

/-! ## 64-bit numbers -/

theorem isInt64_clamp64 (n : Int) : IsInt64 (Double.clamp64 n) := by
  unfold IsInt64 Double.clamp64 int64Bound
  omega

theorem isInt64_truncate (x : Double) : IsInt64 x.truncate := by
  cases x with
  | nan => decide
  | infinity negative => exact isInt64_clamp64 _
  | finite negative m e => exact isInt64_clamp64 _

theorem isInt64_round (x : Double) : IsInt64 x.round := by
  cases x with
  | nan => exact isInt64_truncate .nan
  | infinity negative => exact isInt64_truncate (.infinity negative)
  | finite negative m e => exact isInt64_clamp64 _

theorem isInt64_of_readInt64? {t : Text} {n : Int} (h : readInt64? t = some n) : IsInt64 n := by
  obtain ⟨-, hrange⟩ := Option.filter_eq_some_iff.mp h
  rw [Bool.and_eq_true, decide_eq_true_eq, decide_eq_true_eq] at hrange
  exact hrange

end PlainSteps.Numeral
