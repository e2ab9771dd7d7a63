import PlainSteps.Proofs.Lower
import PlainSteps.Unicode.Letter

/-!
# White space is no letter

No character is both white space and a letter or digit (`isAlphanumeric_of_isBlank`), so a full
stop in front of white space always ends its clause.
-/

namespace PlainSteps

namespace Unicode

open Category

/-- The code points of white space. -/
def blankCodes : List ℕ :=
  [9, 10, 11, 12, 13, 0x20, 0x85, 0xA0, 0x1680, 0x2000, 0x2001, 0x2002, 0x2003, 0x2004, 0x2005,
    0x2006, 0x2007, 0x2008, 0x2009, 0x200A, 0x2028, 0x2029, 0x202F, 0x205F, 0x3000]

/-- The tables that letters and digits are looked up in. -/
def alphanumericTables : List (List Run) :=
  [upperLetterRuns, lowerLetterRuns, titleLetterRuns, modifierLetterRuns, otherLetterRuns,
    letterNumberRuns, decimalDigitRuns, otherNumberRuns, otherAlphabetic]

set_option maxRecDepth 100000 in
theorem alphanumericTables_blank :
    ∀ table ∈ alphanumericTables, table.all fun r => blankCodes.all fun n => !r.contains n := by
  simp only [alphanumericTables, List.forall_mem_cons]
  refine ⟨runs_all rfl ?_, runs_all rfl ?_, runs_all rfl ?_, runs_all rfl ?_, runs_all rfl ?_,
    runs_all rfl ?_, runs_all rfl ?_, runs_all rfl ?_, runs_all rfl ?_, nofun⟩
  all_goals decide +kernel

theorem member_of_blank {table : List Run} (htable : table ∈ alphanumericTables) {n : ℕ}
    (hn : n ∈ blankCodes) : member table n = false := by
  rw [member, List.any_eq_false]
  intro r hr
  have hrun := List.all_eq_true.mp (alphanumericTables_blank table htable) r hr
  simpa using List.all_eq_true.mp hrun n hn

theorem holds_of_blank {k : Category}
    (hk : k ∈ [upperLetter, lowerLetter, titleLetter, modifierLetter, otherLetter, letterNumber,
      decimalDigit, otherNumber]) {n : ℕ} (hn : n ∈ blankCodes) : k.holds n = false := by
  simp only [List.mem_cons, List.not_mem_nil, or_false] at hk
  rcases hk with rfl | rfl | rfl | rfl | rfl | rfl | rfl | rfl
  all_goals exact member_of_blank (by simp [alphanumericTables]) hn

end Unicode

open Unicode

theorem toNat_mem_blankCodes {c : Char} (h : isBlank c) : c.toNat ∈ blankCodes := by
  have hcode : c.toNat = 0x20 ∨ 9 ≤ c.toNat ∧ c.toNat ≤ 13 ∨ c.toNat = 0x85 ∨ c.toNat = 0xA0 ∨
      c.toNat = 0x1680 ∨ 0x2000 ≤ c.toNat ∧ c.toNat ≤ 0x200A ∨ c.toNat = 0x2028 ∨
      c.toNat = 0x2029 ∨ c.toNat = 0x202F ∨ c.toNat = 0x205F ∨ c.toNat = 0x3000 := by
    simp only [isBlank, Bool.or_eq_true, Bool.and_eq_true, decide_eq_true_eq, or_assoc,
      ← Char.toNat_inj, ← UInt32.toNat_inj, UInt32.le_iff_toNat_le] at h
    exact h
  simp only [blankCodes, List.mem_cons]
  omega

theorem isAlphanumeric_of_isBlank {c : Char} (h : isBlank c) : isAlphanumeric c = false := by
  have hcode := toNat_mem_blankCodes h
  by_cases hascii : c.val < 128
  · have hall : ∀ n ∈ blankCodes, (Char.ofNat n).isAlphanum = false := by decide
    rw [isAlphanumeric, if_pos hascii, ← Char.ofNat_toNat c]
    exact hall c.toNat hcode
  · have hcategory (k : Category) (hk : k ∈ _) := holds_of_blank (k := k) hk hcode
    have hother : member otherAlphabetic c.toNat = false :=
      member_of_blank (by simp [alphanumericTables]) hcode
    rw [isAlphanumeric, if_neg hascii]
    simp [isAlphabetic, Category.isLetter, Category.isNumber, hcategory, hother]

end PlainSteps
