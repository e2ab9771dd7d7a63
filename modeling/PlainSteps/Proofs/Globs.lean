import PlainSteps.Pattern
import PlainSteps.Proofs.Parts

/-!
# Globs

A glob matches exactly the texts that come of it when every star is replaced by a run of
characters (`Fills`). The search for the parts between the stars takes each where it first occurs
behind the one before; a later occurrence would only leave less text to the stars behind it.

`seek` is the same search with its place in the text kept as a number of bytes. It answers as
`globMatches` does, so that its place is never inside of a character (`seek_eq`). The main
statement is `isMatch_glob`.
-/

namespace PlainSteps.Pattern

/-- The text comes of the glob when every star is replaced by a run of characters. -/
inductive Fills : Text → Text → Prop
  | nil : Fills [] []
  | star {glob t : Text} (run : Text) : Fills glob t → Fills ('*' :: glob) (run ++ t)
  | char {c : Char} {glob t : Text} : c ≠ '*' → Fills glob t → Fills (c :: glob) (c :: t)

/-! ## The parts between the stars -/

/-- The text consists of the parts in order with a run of characters in front of each. -/
inductive Spread : List Text → Text → Prop
  | nil : Spread [] []
  | cons {part t : Text} {parts : List Text} (run : Text) :
      Spread parts t → Spread (part :: parts) (run ++ part ++ t)

theorem spread_cons_iff {part t : Text} {parts : List Text} :
    Spread (part :: parts) t ↔ ∃ run rest, t = run ++ part ++ rest ∧ Spread parts rest := by
  constructor
  · rintro (_ | ⟨run, h⟩)
    exact ⟨run, _, rfl, h⟩
  · rintro ⟨run, rest, rfl, h⟩
    exact .cons run h

/-- The first part begins the text, and the others are spread over what is behind it. -/
def PartsFill : List Text → Text → Prop
  | [], t => t = []
  | first :: parts, t => ∃ rest, t = first ++ rest ∧ Spread parts rest

theorem fills_iff {glob t : Text} :
    Fills glob t ↔ PartsFill (Text.splitWith (· == '*') glob) t := by
  induction glob generalizing t with
  | nil =>
      constructor
      · rintro ⟨⟩
        exact ⟨[], rfl, .nil⟩
      · rintro ⟨rest, rfl, ⟨⟩⟩
        exact .nil
  | cons c glob ih =>
      obtain ⟨first, parts, hsplit⟩ :=
        List.exists_cons_of_ne_nil (Text.splitWith_ne_nil (· == '*') glob)
      rw [hsplit] at ih
      by_cases hc : c = '*'
      · subst hc
        rw [Text.splitWith, if_pos (beq_self_eq_true '*'), hsplit]
        constructor
        · rintro (_ | ⟨run, h⟩ | ⟨hne, -⟩)
          · obtain ⟨rest, rfl, hrest⟩ := ih.mp h
            exact ⟨_, rfl, spread_cons_iff.mpr ⟨run, rest, (List.append_assoc ..).symm, hrest⟩⟩
          · exact absurd rfl hne
        · rintro ⟨_, rfl, hspread⟩
          obtain ⟨run, rest, rfl, hrest⟩ := spread_cons_iff.mp hspread
          rw [List.append_assoc]
          exact .star run (ih.mpr ⟨rest, rfl, hrest⟩)
      · have hstar : (c == '*') = false := beq_eq_false_iff_ne.mpr hc
        have hcons := @Text.splitWith_cons_of_neg (· == '*') c hstar glob first parts hsplit
        rw [hcons]
        constructor
        · rintro (_ | _ | ⟨-, h⟩)
          · exact absurd rfl hc
          · obtain ⟨rest, rfl, hrest⟩ := ih.mp h
            exact ⟨rest, rfl, hrest⟩
        · rintro ⟨rest, rfl, hrest⟩
          exact .char hc (ih.mpr ⟨rest, rfl, hrest⟩)

/-! ## The search -/

/-- More text in front goes to the first run. -/
theorem Spread.behind {parts : List Text} (hne : parts ≠ []) {t : Text} (h : Spread parts t)
    (more : Text) : Spread parts (more ++ t) := by
  cases h with
  | nil => exact absurd rfl hne
  | cons run h =>
      rw [List.append_assoc run, ← List.append_assoc more, ← List.append_assoc]
      exact .cons (more ++ run) h

theorem partsMatch_cons_cons (part next : Text) (parts : List Text) (t : Text) :
    partsMatch (part :: next :: parts) t =
      match Text.splitAt? part t with
      | some (_, rest) => partsMatch (next :: parts) rest
      | none => false := rfl

theorem partsMatch_iff {parts : List Text} {t : Text} : partsMatch parts t ↔ Spread parts t := by
  induction parts generalizing t with
  | nil =>
      rw [partsMatch, List.isEmpty_iff]
      constructor
      · rintro rfl
        exact .nil
      · rintro ⟨⟩
        rfl
  | cons part parts ih =>
      cases parts with
      | nil =>
          rw [partsMatch, Text.endsWith_iff_suffix, spread_cons_iff]
          constructor
          · rintro ⟨run, rfl⟩
            exact ⟨run, [], (List.append_nil _).symm, .nil⟩
          · rintro ⟨run, _, rfl, ⟨⟩⟩
            rw [List.append_nil]
            exact List.suffix_append run part
      | cons next parts =>
          rw [partsMatch_cons_cons]
          constructor
          · intro h
            split at h
            · next run rest hsplit =>
                rw [Text.splitAt?_eq_some hsplit]
                exact .cons run (ih.mp h)
            · cases h
          · intro h
            obtain ⟨run, rest, rfl, hrest⟩ := spread_cons_iff.mp h
            obtain ⟨a, b, hsplit, more, rfl⟩ := Text.exists_splitAt? run part rest
            rw [hsplit]
            exact ih.mpr (hrest.behind (List.cons_ne_nil next parts) more)

/-- With or without stars, the first part is taken off, and the others are looked for behind it. -/
theorem globMatches_eq {glob first : Text} {parts : List Text}
    (h : Text.splitWith (· == '*') glob = first :: parts) (t : Text) :
    globMatches glob t =
      match Text.dropHead? first t with
      | some rest => partsMatch parts rest
      | none => false := by
  rw [globMatches, h]
  cases parts with
  | cons next parts => rfl
  | nil =>
      cases hhead : Text.dropHead? first t with
      | some rest =>
          obtain rfl := Text.dropHead?_eq_some hhead
          cases rest <;> simp [partsMatch]
      | none =>
          have hne : t ≠ first := by
            rintro rfl
            have hself := Text.dropHead?_append t []
            rw [List.append_nil, hhead] at hself
            cases hself
          simp [hne]

theorem globMatches_iff {glob t : Text} : globMatches glob t ↔ Fills glob t := by
  obtain ⟨first, parts, hsplit⟩ :=
    List.exists_cons_of_ne_nil (Text.splitWith_ne_nil (· == '*') glob)
  rw [fills_iff, globMatches_eq hsplit, hsplit]
  constructor
  · intro h
    split at h
    · next rest hhead => exact ⟨rest, Text.dropHead?_eq_some hhead, partsMatch_iff.mp h⟩
    · cases h
  · rintro ⟨rest, rfl, hspread⟩
    rw [Text.dropHead?_append]
    exact partsMatch_iff.mpr hspread

/-! ## Places as numbers of bytes -/

/-- The number of bytes of a text in UTF-8. -/
def byteLength (t : Text) : Nat := (t.map Char.utf8Size).sum

@[simp] theorem byteLength_cons (c : Char) (t : Text) :
    byteLength (c :: t) = c.utf8Size + byteLength t := by
  simp [byteLength]

@[simp] theorem byteLength_append (t u : Text) :
    byteLength (t ++ u) = byteLength t + byteLength u := by
  simp [byteLength]

theorem byteLength_eq_zero_iff {t : Text} : byteLength t = 0 ↔ t = [] := by
  cases t with
  | nil => exact iff_of_true rfl rfl
  | cons c r =>
      have hc := c.utf8Size_pos
      refine iff_of_false ?_ (List.cons_ne_nil c r)
      rw [byteLength_cons]
      omega

/-- The text behind `n` bytes, if a character ends there. -/
def behindBytes? : (n : Nat) → Text → Option Text
  | 0, t => some t
  | _ + 1, [] => none
  | n + 1, c :: r => if c.utf8Size ≤ n + 1 then behindBytes? (n + 1 - c.utf8Size) r else none

theorem behindBytes?_append (front t : Text) :
    behindBytes? (byteLength front) (front ++ t) = some t := by
  induction front with
  | nil => cases t <;> rfl
  | cons c r ih =>
      obtain ⟨n, hn⟩ : ∃ n, byteLength (c :: r) = n + 1 :=
        Nat.exists_eq_succ_of_ne_zero (mt byteLength_eq_zero_iff.mp (List.cons_ne_nil c r))
      have hsize : n + 1 = c.utf8Size + byteLength r := by rw [← hn, byteLength_cons]
      rw [hn, List.cons_append, behindBytes?, if_pos (by omega), hsize, Nat.add_sub_cancel_left, ih]

/-- The parts behind the first are looked for from a place on, each behind the one before. There
is no answer if the place is inside of a character. -/
def seekParts (t : Text) : (place : Nat) → List Text → Option Bool
  | place, [] => some (place == byteLength t)
  | place, [last] =>
    some (last.isEmpty || decide (place + byteLength last ≤ byteLength t) && Text.endsWith t last)
  | place, part :: next :: parts =>
    if part.isEmpty then seekParts t place (next :: parts)
    else (behindBytes? place t).bind fun rest =>
      match Text.splitAt? part rest with
      | some (run, _) =>
        seekParts t (place + byteLength run + byteLength part) (next :: parts)
      | none => some false

/-- The search for a glob with its place as a number of bytes. -/
def seek (glob t : Text) : Option Bool :=
  match Text.splitWith (· == '*') glob with
  | [] => some t.isEmpty
  | first :: parts =>
    if Text.startsWith t first then seekParts t (byteLength first) parts else some false

/-- A tail that is no longer than what is behind a place begins behind it. -/
theorem endsWith_append {front t last : Text} (hlast : last ≠ []) :
    (decide (byteLength front + byteLength last ≤ byteLength (front ++ t)) &&
      Text.endsWith (front ++ t) last) = Text.endsWith t last := by
  rw [Bool.eq_iff_iff, Bool.and_eq_true, decide_eq_true_iff, Text.endsWith_iff_suffix,
    Text.endsWith_iff_suffix, byteLength_append, Nat.add_le_add_iff_left]
  constructor
  · rintro ⟨hle, hsuffix⟩
    obtain h | ⟨more, rfl⟩ := List.suffix_or_suffix_of_suffix hsuffix (List.suffix_append front t)
    · exact h
    · -- What stands in front of the text has no bytes.
      rw [byteLength_append] at hle
      obtain rfl := byteLength_eq_zero_iff.mp (by omega : byteLength more = 0)
      exact List.suffix_refl t
  · rintro ⟨run, rfl⟩
    refine ⟨?_, ⟨front ++ run, by simp⟩⟩
    rw [byteLength_append]
    omega

theorem seekParts_eq (front t : Text) (parts : List Text) :
    seekParts (front ++ t) (byteLength front) parts = some (partsMatch parts t) := by
  induction parts generalizing front t with
  | nil =>
      rw [seekParts, partsMatch, Option.some.injEq, Bool.eq_iff_iff, beq_iff_eq, List.isEmpty_iff,
        byteLength_append, Nat.left_eq_add, byteLength_eq_zero_iff]
  | cons part parts ih =>
      cases parts with
      | nil =>
          rw [seekParts, partsMatch]
          cases part with
          | nil => exact congrArg some (Text.endsWith_iff_suffix.mpr List.nil_suffix).symm
          | cons c r => exact congrArg some (endsWith_append (List.cons_ne_nil c r))
      | cons next parts =>
          rw [seekParts, partsMatch_cons_cons]
          cases part with
          | nil =>
              rw [Text.splitAt?_nil]
              exact ih front t
          | cons c r =>
              rw [behindBytes?_append, Option.bind_some]
              cases hsplit : Text.splitAt? (c :: r) t with
              | none => rfl
              | some found =>
                  obtain ⟨run, rest⟩ := found
                  obtain rfl := Text.splitAt?_eq_some hsplit
                  have h := ih (front ++ run ++ c :: r) rest
                  rw [byteLength_append, byteLength_append] at h
                  rw [← h]
                  simp [List.append_assoc]

/-- The search never stands inside of a character. -/
theorem seek_eq (glob t : Text) : seek glob t = some (globMatches glob t) := by
  obtain ⟨first, parts, hsplit⟩ :=
    List.exists_cons_of_ne_nil (Text.splitWith_ne_nil (· == '*') glob)
  rw [seek, globMatches_eq hsplit, hsplit]
  cases hhead : Text.dropHead? first t with
  | none => simp [Text.startsWith, hhead]
  | some rest =>
      obtain rfl := Text.dropHead?_eq_some hhead
      have hstarts : Text.startsWith (first ++ rest) first :=
        Text.startsWith_iff_prefix.mpr (List.prefix_append first rest)
      simp only [hstarts, if_true, seekParts_eq]

/-- A glob matches a text exactly if the text comes of it when every star is replaced by a run of
characters; and a search that keeps its place as a number of bytes finds just that, without ever
standing inside of a character. -/
theorem isMatch_glob (pattern t : Text) :
    ((glob pattern).isMatch t ↔ Fills pattern t) ∧
      seek pattern t = some ((glob pattern).isMatch t) :=
  ⟨globMatches_iff, seek_eq pattern t⟩

/-- The first `ab` would not do for the last part, and the two letters `é` are two bytes each. -/
example : (glob "é*ab*b").isMatch "ééabab" ∧ ¬ (glob "é*ab*b").isMatch "éab" := by decide

end PlainSteps.Pattern
