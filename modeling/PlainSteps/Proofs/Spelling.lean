import PlainSteps.Proofs.Terms

/-!
# A clause is spelled by its terms

The lexicon makes one row of terms of each word of a clause, and the row spells the word
(`exists_spells_tagWords`). So the terms give the words back when a space is put before each term
but the later parts of hyphenated words, these stand behind a hyphen, and a segment that takes the
row of a word takes the word. The main statement is `lexicon_spelling`.
-/

namespace PlainSteps.Sentence

/-- The term as it is written behind others. -/
def Term.spaced (t : Term) : Text := if t.hyphenated then t.raw else ' ' :: t.raw

/-- The terms as they are written one behind the other. -/
def spelling : List Term → Text
  | [] => []
  | t :: r => t.raw ++ r.flatMap Term.spaced

/-- The second term stands behind a hyphen if it is a later part of a hyphenated word. -/
def Continues (t u : Term) : Prop := u.hyphenated → t.raw.getLast? = some '-'

/-- Whatever segment takes the terms, it takes the word. -/
def IsTakenAs (w : Text) (ts : List Term) : Prop :=
  ∀ s : Segment, s.pushAll ts = { s with words := s.words ++ [w] }

/-! ## One word -/

theorem Spells.flatMap_spaced {w : Text} {ts : List Term} (h : Spells true w ts) :
    ts.flatMap Term.spaced = w := by
  generalize hlater : true = later at h
  induction h with
  | last ht => simp [Term.spaced, ht, ← hlater]
  | cons ht _ _ ih =>
      have hspaced := ih rfl
      simp [Term.spaced, ht, ← hlater, hspaced]

theorem Spells.spelling {w : Text} {ts : List Term} (h : Spells false w ts) :
    spelling ts = w := by
  cases h with
  | last => exact List.append_nil _
  | cons _ _ htail => rw [Sentence.spelling, htail.flatMap_spaced]

theorem Spells.hyphenated_head? {later : Bool} {w : Text} {ts : List Term}
    (h : Spells later w ts) : ∀ t ∈ ts.head?, t.hyphenated = later := by
  rintro t ht
  cases h with
  | last hlater | cons hlater =>
      obtain rfl := Option.some.inj ht
      exact hlater

theorem Spells.isChain {later : Bool} {w : Text} {ts : List Term} (h : Spells later w ts) :
    ts.IsChain Continues := by
  induction h with
  | last => exact .singleton _
  | cons _ hhyphen _ ih => exact List.isChain_cons.mpr ⟨fun _ _ _ => hhyphen, ih⟩

theorem Spells.isTakenAs {w : Text} {ts : List Term} (h : Spells false w ts) :
    IsTakenAs w ts := fun s => h.pushAll s.kind s.words

/-! ## Rows of words -/

theorem exists_spells_tagWords (f q : Bool) (ws : List Text) :
    ∃ rows, tagWords f q ws = rows.flatten ∧ List.Forall₂ (Spells false) ws rows := by
  induction ws generalizing f q with
  | nil => exact ⟨[], rfl, .nil⟩
  | cons w ws ih =>
      obtain ⟨rows, hrows, hspells⟩ := ih false (q != (quoteCount w % 2 == 1))
      refine ⟨tagWord f (q || quoteCount w > 0) w :: rows, ?_, .cons (spells_tagWord _ _ w) hspells⟩
      rw [tagWords, hrows, List.flatten_cons]

section Rows

variable {ws : List Text} {rows : List (List Term)} (h : List.Forall₂ (Spells false) ws rows)
include h

theorem hyphenated_head?_flatten : ∀ t ∈ rows.flatten.head?, t.hyphenated = false := by
  cases h with
  | nil => exact nofun
  | cons hrow _ =>
      obtain ⟨t, r, rfl, -⟩ := hrow.exists_head
      exact hrow.hyphenated_head?

theorem isChain_flatten : rows.flatten.IsChain Continues := by
  induction h with
  | nil => exact .nil
  | cons hrow hrows ih =>
      rw [List.flatten_cons, List.isChain_append]
      refine ⟨hrow.isChain, ih, fun t _ u hu hyphenated => ?_⟩
      rw [hyphenated_head?_flatten hrows u hu] at hyphenated
      cases hyphenated

theorem flatMap_spaced_flatten : rows.flatten.flatMap Term.spaced = ws.flatMap (' ' :: ·) := by
  induction h with
  | nil => rfl
  | @cons w row ws rows hrow _ ih =>
      have hspaced : row.flatMap Term.spaced = ' ' :: w := by
        obtain ⟨t, r, rfl, -⟩ := hrow.exists_head
        have ht : t.hyphenated = false := hrow.hyphenated_head? t rfl
        rw [← hrow.spelling]
        simp [Term.spaced, spelling, ht]
      rw [List.flatten_cons, List.flatMap_append, hspaced, ih, List.flatMap_cons]

theorem spelling_flatten : spelling rows.flatten = Text.unwords ws := by
  cases h with
  | nil => rfl
  | @cons w row ws rows hrow hrows =>
      obtain ⟨t, r, rfl, -⟩ := hrow.exists_head
      rw [List.flatten_cons, List.cons_append, spelling, List.flatMap_append,
        flatMap_spaced_flatten hrows, ← List.append_assoc, ← spelling, hrow.spelling,
        Text.unwords_eq_flatMap]

end Rows

/-- The terms of a clause, with a space before each but the later parts of hyphenated words, are
its words with single spaces between. A later part stands behind a hyphen, and a segment that takes
the row of terms of a word takes the word. -/
theorem lexicon_spelling (clause : Text) :
    spelling (lexicon clause) = Text.unwords (Text.words clause) ∧
      (∀ t ∈ (lexicon clause).head?, t.hyphenated = false) ∧
      (lexicon clause).IsChain Continues ∧
      ∃ rows, lexicon clause = rows.flatten ∧ List.Forall₂ IsTakenAs (Text.words clause) rows := by
  obtain ⟨rows, hrows, hspells⟩ := exists_spells_tagWords true false (Text.words clause)
  rw [← lexicon] at hrows
  rw [hrows]
  exact ⟨spelling_flatten hspells, hyphenated_head?_flatten hspells, isChain_flatten hspells,
    rows, rfl, hspells.imp fun _ _ hrow => hrow.isTakenAs⟩

example : (lexicon "Click \"Sign-up--now\" well-known-link!").map Term.raw =
    ["Click".toList, "\"Sign-up--now\"".toList, "well-".toList, "known-".toList,
      "link!".toList] := by
  decide

end PlainSteps.Sentence
