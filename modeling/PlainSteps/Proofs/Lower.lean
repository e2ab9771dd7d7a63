import Mathlib
import PlainSteps.Unicode.Lower

/-!
# Lower-cased texts

Lower-casing brings in no apostrophe (`apostrophe_mem_of_toLower`), and an ASCII character at an
end of a text stays at that end.
-/

namespace PlainSteps

namespace Unicode

theorem runs_all {table : String} {chars : Text} {p : Run → Bool} (h : table = String.ofList chars)
    (hall : ((Text.words chars).map Run.ofText).all p = true) : (runs table).all p = true := by
  subst h
  simpa [runs] using hall

set_option maxRecDepth 20000 in
theorem lowerRuns_above : lowerRuns.all (fun r => decide ((40 : Int) ≤ r.first + r.shift)) := by
  unfold lowerRuns
  refine runs_all rfl ?_
  decide +kernel

theorem lt_image_lowerRuns {n : ℕ} (hn : 39 < n) : 39 < image lowerRuns n := by
  rw [image]
  split
  · next r hr =>
      have hmem := List.mem_of_find?_eq_some hr
      have hcontains := List.find?_some hr
      have habove : (40 : Int) ≤ r.first + r.shift := by
        simpa using List.all_eq_true.mp lowerRuns_above r hmem
      have hfirst : r.first ≤ n := by
        simp only [Run.contains, Bool.and_eq_true, decide_eq_true_eq] at hcontains
        exact hcontains.1.1
      omega
  · exact hn

end Unicode

theorem ofNat_ne_apostrophe {n : ℕ} (hn : 39 < n) : Char.ofNat n ≠ '\'' := by
  intro h
  rw [Char.ofNat] at h
  split at h
  · have hval : n = 39 := congrArg Char.toNat h
    omega
  · exact absurd h (by decide)

theorem lowerChar_ascii {c : Char} (hc : c.val < 128) : lowerChar c = [c.toLower] := by
  rw [lowerChar, if_pos hc]

theorem apostrophe_mem_of_lowerChar {c : Char} (h : '\'' ∈ lowerChar c) : c = '\'' := by
  by_cases hc : c.val < 128
  · have hascii : ∀ n < 128, (Char.ofNat n).toLower = '\'' → n = 39 := by decide
    rw [lowerChar_ascii hc, List.mem_singleton] at h
    have hnat := hascii c.toNat (by simpa [UInt32.lt_iff_toNat_lt] using hc)
      (by rw [Char.ofNat_toNat]; exact h.symm)
    rw [← Char.ofNat_toNat c, hnat]
  · have hbig : 39 < c.toNat := by
      have hval : 128 ≤ c.val.toNat := by simpa [UInt32.lt_iff_toNat_lt] using hc
      exact Nat.lt_of_lt_of_le (by decide) hval
    rw [lowerChar, if_neg hc] at h
    split at h
    · exact absurd h (by decide)
    · exact absurd (List.mem_singleton.mp h).symm
        (ofNat_ne_apostrophe (Unicode.lt_image_lowerRuns hbig))

namespace Text

theorem toLowerAfter_cons_ascii {c : Char} (hc : c.val < 128) (before t : Text) :
    toLowerAfter before (c :: t) = c.toLower :: toLowerAfter (c :: before) t := by
  have hsigma : c.val ≠ 0x3A3 := by
    rintro h
    rw [h] at hc
    exact absurd hc (by decide)
  rw [toLowerAfter, if_neg hsigma, lowerChar_ascii hc]
  rfl

theorem head?_toLower {c : Char} (hc : c.val < 128) (t : Text) :
    (toLower (c :: t)).head? = some c.toLower := by
  rw [toLower, toLowerAfter_cons_ascii hc]
  rfl

theorem getLast?_toLowerAfter {c : Char} (hc : c.val < 128) (before t : Text) :
    (toLowerAfter before (t ++ [c])).getLast? = some c.toLower := by
  induction t generalizing before with
  | nil => rw [List.nil_append, toLowerAfter_cons_ascii hc]; rfl
  | cons d r ih => rw [List.cons_append, toLowerAfter, List.getLast?_append, ih]; rfl

theorem getLast?_toLower {c : Char} (hc : c.val < 128) (t : Text) :
    (toLower (t ++ [c])).getLast? = some c.toLower :=
  getLast?_toLowerAfter hc [] t

theorem apostrophe_mem_of_toLowerAfter {before t : Text} (h : '\'' ∈ toLowerAfter before t) :
    '\'' ∈ t := by
  induction t generalizing before with
  | nil => simp [toLowerAfter] at h
  | cons c r ih =>
      rw [toLowerAfter, List.mem_append] at h
      rcases h with h | h
      · by_cases hc : c.val = 0x3A3
        · rw [if_pos hc, List.mem_singleton] at h
          refine absurd h.symm (ofNat_ne_apostrophe ?_)
          split <;> decide
        · rw [if_neg hc] at h
          rw [apostrophe_mem_of_lowerChar h]
          exact List.mem_cons_self
      · exact List.mem_cons_of_mem c (ih h)

theorem apostrophe_mem_of_toLower {t : Text} (h : '\'' ∈ toLower t) : '\'' ∈ t :=
  apostrophe_mem_of_toLowerAfter h

end Text

end PlainSteps
