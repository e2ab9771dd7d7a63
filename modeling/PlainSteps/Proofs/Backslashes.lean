import Mathlib.Algebra.Group.Nat.Even
import PlainSteps.Proofs.Quotation

/-!
# Backslashes in front of a closing quote

Quoting leaves backslashes as they are, while reading takes each of them for a shield of the next
character. Inside a text that does no harm: what is shielded there, or not, is taken as it stands
between the first and the last quote that counts. Only at the end can it change which quote is the
last. So the text between the quotes is the one that was quoted exactly if an even number of
backslashes ends it (`unquote?_quoted_iff`).
-/

namespace PlainSteps

/-- The number of backslashes at the end of a text. -/
def endBackslashes (t : Text) : ℕ := (Text.takeEndWhile (· == '\\') t).length

theorem endBackslashes_concat (t : Text) (c : Char) :
    endBackslashes (t ++ [c]) = if c = '\\' then endBackslashes t + 1 else 0 := by
  by_cases hc : c = '\\'
  · simp [endBackslashes, Text.takeEndWhile, hc]
  · simp [endBackslashes, Text.takeEndWhile, hc]

theorem endBackslashes_escapeQuotes (t : Text) :
    endBackslashes (escapeQuotes t) = endBackslashes t := by
  induction t using List.reverseRecOn with
  | nil => rfl
  | append_singleton s c ih =>
      rw [escapeQuotes_append, endBackslashes_concat]
      by_cases hc : c = '"'
      · subst hc
        change endBackslashes (escapeQuotes s ++ (['\\'] ++ ['"'])) = _
        rw [← List.append_assoc, endBackslashes_concat]
        simp
      · have hself : escapeQuotes [c] = [c] := by simp [escapeQuotes, hc]
        rw [hself, endBackslashes_concat, ih]

namespace Sentence

/-! ## The end of a text -/

theorem escapedBehind_iff (t : Text) : escapedBehind false t ↔ ¬ Even (endBackslashes t) := by
  induction t using List.reverseRecOn with
  | nil => simp [escapedBehind, endBackslashes, Text.takeEndWhile]
  | append_singleton s c ih =>
      rw [escapedBehind_append, endBackslashes_concat]
      by_cases hc : c = '\\'
      · rw [if_pos hc, Nat.even_add_one, not_not, ← not_iff_not, ← ih]
        simp [escapedBehind, hc]
      · simp [escapedBehind, hc]

/-- A shielded quote at the end is not the last quote that counts. -/
theorem beforeLastQuote_concat_of_escaped {e : Bool} {s : Text} (h : escapedBehind e s) :
    beforeLastQuote e (s ++ ['"']) = beforeLastQuote e s := by
  induction s generalizing e with
  | nil =>
      obtain rfl : e = true := h
      rfl
  | cons c r ih => rw [List.cons_append, beforeLastQuote, beforeLastQuote, ih h]

theorem exists_of_beforeLastQuote {e : Bool} {t before : Text}
    (h : beforeLastQuote e t = some before) : ∃ behind, t = before ++ '"' :: behind := by
  induction t generalizing e before with
  | nil => cases h
  | cons c r ih =>
      rw [beforeLastQuote] at h
      split at h
      next later hlater =>
          obtain rfl := Option.some.inj h
          obtain ⟨behind, rfl⟩ := ih hlater
          exact ⟨behind, rfl⟩
      next =>
          split at h
          next hquote =>
              obtain rfl := Option.some.inj h
              have hc : c = '"' := by simpa using (Bool.and_eq_true_iff.mp hquote).2
              exact ⟨r, by rw [hc]; rfl⟩
          next => cases h

/-! ## Quotes inside the span -/

/-- In front of a quote of an escaped text stands the backslash that was put there. -/
theorem exists_of_escapeQuotes {t before behind : Text}
    (h : escapeQuotes t = before ++ '"' :: behind) :
    ∃ s u, t = s ++ '"' :: u ∧ before = escapeQuotes (s ++ ['\\']) := by
  induction t generalizing before with
  | nil => simp [escapeQuotes] at h
  | cons c r ih =>
      by_cases hc : c = '"'
      · subst hc
        rw [escapeQuotes, if_pos rfl] at h
        -- The quote is the first one of the text, or stands behind it.
        rcases before with _ | ⟨b, _ | ⟨d, rest⟩⟩
        · simp at h
        · obtain ⟨hb, -⟩ := List.cons.inj h
          exact ⟨[], r, rfl, by rw [← hb]; rfl⟩
        · obtain ⟨rfl, htail⟩ := List.cons.inj h
          obtain ⟨rfl, hrest⟩ := List.cons.inj htail
          obtain ⟨s, u, rfl, rfl⟩ := ih hrest
          exact ⟨'"' :: s, u, rfl, by simp [escapeQuotes]⟩
      · rw [escapeQuotes, if_neg hc] at h
        rcases before with _ | ⟨b, rest⟩
        · exact absurd (List.cons.inj h).1 hc
        · obtain ⟨rfl, hrest⟩ := List.cons.inj h
          obtain ⟨s, u, rfl, rfl⟩ := ih hrest
          exact ⟨c :: s, u, rfl, by simp [escapeQuotes, hc]⟩

/-- A span that is cut off at a quote inside the text does not mean the text. -/
theorem unescapeQuotes_ne {t before behind : Text} (h : escapeQuotes t = before ++ '"' :: behind) :
    unescapeQuotes before ≠ t := by
  obtain ⟨s, u, rfl, rfl⟩ := exists_of_escapeQuotes h
  rw [unescapeQuotes_escapeQuotes]
  intro heq
  have hheads := List.append_cancel_left heq
  simp at hheads

/-! ## Reading back -/

theorem unquote?_quoted_eq (t : Text) :
    unquote? (quoted t) = (beforeLastQuote false (escapeQuotes t ++ ['"'])).map unescapeQuotes := by
  rfl

/-- A quoted text is read back as it was exactly if it ends in an even number of backslashes. -/
theorem unquote?_quoted_iff (t : Text) :
    unquote? (quoted t) = some t ↔ Even (endBackslashes t) := by
  rw [unquote?_quoted_eq, ← endBackslashes_escapeQuotes]
  by_cases heven : Even (endBackslashes (escapeQuotes t))
  · have hopen : escapedBehind false (escapeQuotes t) = false := by
      rw [Bool.eq_false_iff, Ne, escapedBehind_iff, not_not]
      exact heven
    have hlast : beforeLastQuote false (escapeQuotes t ++ ['"']) = some (escapeQuotes t) :=
      beforeLastQuote_append hopen rfl
    simp [hlast, heven]
  · have hshielded := (escapedBehind_iff (escapeQuotes t)).mpr heven
    rw [beforeLastQuote_concat_of_escaped hshielded]
    refine iff_of_false ?_ heven
    intro hread
    obtain ⟨before, hbefore, hmeans⟩ := Option.map_eq_some_iff.mp hread
    obtain ⟨behind, hsplit⟩ := exists_of_beforeLastQuote hbefore
    exact unescapeQuotes_ne hsplit hmeans

/-- A backslash in front of a quote inside the text does no harm; one at the end shields the closing
quote. -/
example : unquote? (quoted "a\\\"b\\\\") = some "a\\\"b\\\\".toList ∧
    unquote? (quoted "a\"b\\") = none := by
  decide

end Sentence

end PlainSteps
