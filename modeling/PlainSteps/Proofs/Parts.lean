import PlainSteps.Proofs.Words

/-!
# Parts of a text

The tests for a head, a tail and a part of a text decide whether the text begins with, ends in or
holds another. A part is split off where it first occurs, so that no other occurrence leaves more
of the text behind it (`exists_splitAt?`).
-/

namespace PlainSteps.Text

theorem dropHead?_append (head t : Text) : dropHead? head (head ++ t) = some t := by
  induction head with
  | nil => rfl
  | cons c cs ih => rw [List.cons_append, dropHead?, if_pos rfl, ih]

theorem dropTail?_append (tail t : Text) : dropTail? tail (t ++ tail) = some t := by
  rw [dropTail?, List.reverse_append, dropHead?_append, Option.map_some, List.reverse_reverse]

theorem startsWith_iff_prefix {t head : Text} : startsWith t head ↔ head <+: t := by
  rw [startsWith, Option.isSome_iff_exists]
  constructor
  · rintro ⟨r, hr⟩
    exact ⟨r, (dropHead?_eq_some hr).symm⟩
  · rintro ⟨r, rfl⟩
    exact ⟨r, dropHead?_append head r⟩

theorem endsWith_iff_suffix {t tail : Text} : endsWith t tail ↔ tail <:+ t := by
  rw [endsWith, dropTail?, Option.isSome_map, ← List.reverse_prefix]
  exact startsWith_iff_prefix

theorem splitAt?_nil (t : Text) : splitAt? [] t = some ([], t) := by
  cases t <;> rfl

theorem splitAt?_eq_some {part t a b : Text} (h : splitAt? part t = some (a, b)) :
    t = a ++ part ++ b := by
  induction t generalizing a with
  | nil =>
      cases part with
      | nil =>
          obtain ⟨rfl, rfl⟩ := Prod.mk.inj (Option.some.inj h)
          rfl
      | cons => cases h
  | cons c r ih =>
      rw [splitAt?] at h
      split at h
      · next rest hhead =>
          obtain ⟨rfl, rfl⟩ := Prod.mk.inj (Option.some.inj h)
          exact dropHead?_eq_some hhead
      · obtain ⟨⟨a', b'⟩, hsplit, heq⟩ := Option.map_eq_some_iff.mp h
        obtain ⟨rfl, rfl⟩ := Prod.mk.inj heq
        rw [ih hsplit, List.cons_append, List.cons_append]

/-- The first occurrence of a part leaves as much behind it as any other. -/
theorem exists_splitAt? (before part behind : Text) :
    ∃ a b, splitAt? part (before ++ part ++ behind) = some (a, b) ∧ behind <:+ b := by
  induction before with
  | nil =>
      refine ⟨[], behind, ?_, List.suffix_refl behind⟩
      rw [List.nil_append]
      cases htext : part ++ behind with
      | nil =>
          obtain ⟨rfl, rfl⟩ := List.append_eq_nil_iff.mp htext
          rfl
      | cons c r => rw [splitAt?, ← htext, dropHead?_append]
  | cons c r ih =>
      obtain ⟨a, b, hsplit, hbehind⟩ := ih
      rw [List.cons_append, List.cons_append, splitAt?]
      split
      · next rest hhead =>
          -- The part occurs at the very front, and both occurrences end in the same text.
          refine ⟨[], rest, rfl, ?_⟩
          have htext := dropHead?_eq_some hhead
          have hlength := congrArg List.length htext
          simp only [List.length_cons, List.length_append] at hlength
          have hbehind : behind <:+ part ++ rest := ⟨c :: (r ++ part), by rw [← htext]; simp⟩
          exact List.suffix_of_suffix_length_le hbehind ⟨part, rfl⟩ (by omega)
      · exact ⟨c :: a, b, by rw [hsplit]; rfl, hbehind⟩

theorem contains_iff_infix {t part : Text} : contains t part ↔ part <:+: t := by
  rw [contains, Option.isSome_iff_exists]
  constructor
  · rintro ⟨⟨a, b⟩, h⟩
    exact ⟨a, b, (splitAt?_eq_some h).symm⟩
  · rintro ⟨before, behind, rfl⟩
    obtain ⟨a, b, h, -⟩ := exists_splitAt? before part behind
    exact ⟨(a, b), h⟩

end PlainSteps.Text
