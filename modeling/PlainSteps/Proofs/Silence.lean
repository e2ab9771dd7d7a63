import PlainSteps.Proofs.Letters
import PlainSteps.Proofs.Seams
import PlainSteps.Proofs.Spans
import PlainSteps.Regex.Builtin
import PlainSteps.Suite

/-!
# Sentences that say nothing

A sentence is read as no command at all exactly if every word of its clauses joins: it is `and` or
`then`, or a row of them with hyphens between. It need not have a clause, which is so exactly if
it has nothing but white space, full stops and commas. The main statement is `parse_eq_nil_iff`.
-/

namespace PlainSteps.Sentence

/-! ## Instructions -/

theorem instructions_eq_nil_iff {ts : List Term} :
    instructions ts = [] ↔ ∀ t ∈ ts, t.role = .conjunction := by
  have hempty : instructions ts = [] ↔
      ∀ p ∈ rawParts false ts, ∀ t ∈ p, t.role = .conjunction := by
    simp [instructions, List.filter_eq_nil_iff, dropTrailingConjunctions_eq_nil_iff]
  rw [hempty]
  constructor
  · intro h t ht
    by_contra hrole
    obtain ⟨p, hp, hmem⟩ := mem_rawParts_of_mem (q := false) ht hrole
    exact hrole (h p hp t hmem)
  · intro h p hp t ht
    exact h t (mem_of_mem_rawParts p hp t ht)

/-! ## Words -/

/-- The word joins instructions: `and`, `then` or a row of them with hyphens between, perhaps with
punctuation behind. -/
def Joins (w : Text) : Prop :=
  quoteCount w = 0 ∧
    ∀ p ∈ hyphenParts (Text.dropEndWhile isTrailing w), Text.toLower p ∈ conjunctions

instance (w : Text) : Decidable (Joins w) := inferInstanceAs (Decidable (_ ∧ _))

theorem roleOf_eq_conjunction_iff {lower : Text} {first : Bool} :
    roleOf lower first = .conjunction ↔ lower ∈ conjunctions := by
  constructor
  · intro h
    unfold roleOf at h
    split_ifs at h with _ _ _ _ hmem
    exact List.contains_iff_mem.mp hmem
  · intro h
    have hall : ∀ f, ∀ w ∈ conjunctions, roleOf w f = .conjunction := by decide
    exact hall first lower h

theorem texts_tagParts (pre post : Text) (f q : Bool) (parts : List Text) :
    (tagParts pre post f q parts).map Term.text = parts := by
  have hlater (parts : List Text) : (tagLaterParts post q parts).map Term.text = parts := by
    induction parts with
    | nil => rfl
    | cons p r ih =>
        cases r with
        | nil => rfl
        | cons u r => rw [tagLaterParts, List.map_cons, ih]; rfl
  cases parts with
  | nil => rfl
  | cons p r =>
      cases r with
      | nil => rfl
      | cons u r => rw [tagParts, List.map_cons, hlater]; rfl

theorem tagWord_ne_nil (f q : Bool) (w : Text) : tagWord f q w ≠ [] := by
  intro h
  have htexts := congrArg (List.map Term.text) h
  rw [tagWord, texts_tagParts] at htexts
  exact hyphenParts_ne_nil _ htexts

theorem dropWhile_quote {w : Text} (h : quoteCount w = 0) : w.dropWhile (· == '"') = w := by
  cases w with
  | nil => rfl
  | cons c r =>
      have hc : (c == '"') = false := (countQuotes_cons_eq_zero h).1
      rw [List.dropWhile_cons_of_neg (by simp [hc])]

theorem conjunctions_tagWord {f : Bool} {w : Text} (h : quoteCount w = 0) :
    (∀ t ∈ tagWord f false w, t.role = .conjunction) ↔ Joins w := by
  have htexts : (tagWord f false w).map Term.text =
      hyphenParts (Text.dropEndWhile isTrailing w) := by
    rw [tagWord, texts_tagParts, dropWhile_quote h]
  rw [Joins, ← htexts, List.forall_mem_map]
  have hrole (t : Term) (ht : t ∈ tagWord f false w) :
      t.role = .conjunction ↔ Text.toLower t.text ∈ conjunctions := by
    obtain ⟨f', hf⟩ := (unquoted_of_mem_tagWord h ht).role
    rw [hf]
    exact roleOf_eq_conjunction_iff
  constructor
  · intro hall
    exact ⟨h, fun t ht => (hrole t ht).mp (hall t ht)⟩
  · rintro ⟨-, hall⟩ t ht
    exact (hrole t ht).mpr (hall t ht)

theorem conjunctions_tagWords {f : Bool} {ws : List Text} :
    (∀ t ∈ tagWords f false ws, t.role = .conjunction) ↔ ∀ w ∈ ws, Joins w := by
  induction ws generalizing f with
  | nil => simp [tagWords]
  | cons w ws ih =>
      rw [tagWords, List.forall_mem_cons, List.forall_mem_append]
      by_cases hw : quoteCount w = 0
      · have hword := conjunctions_tagWord (f := f) hw
        rw [hw]
        exact and_congr hword ih
      · -- A word with quotes is taken for nouns.
        have hquoted : (false || decide (quoteCount w > 0)) = true := by
          simpa using Nat.pos_of_ne_zero hw
        obtain ⟨t, ts, hts⟩ := List.exists_cons_of_ne_nil (tagWord_ne_nil f true w)
        have hmem : t ∈ tagWord f true w := by rw [hts]; exact List.mem_cons_self
        constructor
        · rintro ⟨hall, -⟩
          rw [hquoted] at hall
          have hnoun := role_of_mem_tagWord hmem
          rw [hall t hmem] at hnoun
          cases hnoun
        · rintro ⟨hjoins, -⟩
          exact absurd hjoins.1 hw

/-! ## Clauses -/

theorem isAlphanumeric_of_isLoose {c : Char} (h : isLoose c) : isAlphanumeric c = false := by
  simp only [isLoose, Bool.or_eq_true, beq_iff_eq] at h
  rcases h with (h | rfl) | rfl
  · exact isAlphanumeric_of_isBlank h
  · rfl
  · rfl

theorem closeClause_eq_none_iff {piece : Text} :
    closeClause piece = none ↔ ∀ c ∈ piece, isBlank c := by
  have htrim : Text.trim piece = [] ↔ ∀ c ∈ piece.dropWhile isBlank, isBlank c := by
    simp [Text.trim, Text.trimMatches, Text.dropEndWhile, List.dropWhile_eq_nil_iff]
  rw [closeClause_eq_none, htrim]
  constructor
  · intro h
    cases hrest : piece.dropWhile isBlank with
    | nil => exact List.dropWhile_eq_nil_iff.mp hrest
    | cons d r =>
        have hd : isBlank d = false := by
          have hhead := List.head?_dropWhile_not isBlank piece
          rw [hrest] at hhead
          simpa using hhead
        rw [hrest] at h
        rw [h d List.mem_cons_self] at hd
        cases hd
  · intro h c hc
    exact h c ((List.dropWhile_sublist _).mem hc)

theorem Nesting.step_of_isLoose {s : Nesting} (hs : s.escaped = false) {c : Char}
    (h : isLoose c) : s.step c = s := by
  have hne : c ≠ '\\' ∧ c ≠ '"' ∧ c ≠ '{' ∧ c ≠ '}' := by
    refine ⟨?_, ?_, ?_, ?_⟩
    all_goals
      rintro rfl
      exact absurd h (by decide)
  simp [step, hs, hne]

/-- Outside quotes and braces the only loose characters that stay in a piece are blank. -/
theorem Nesting.isBlank_of_keep {c : Char} {next : Option Char} (hc : isLoose c)
    (hnext : ∀ d ∈ next, isLoose d) (h : verdict {} c next = .keep) : isBlank c := by
  have hplain : next.any isAlphanumeric = false := by
    cases next with
    | none => rfl
    | some d => exact isAlphanumeric_of_isLoose (hnext d rfl)
  simp only [isLoose, Bool.or_eq_true, beq_iff_eq] at hc
  rcases hc with (hc | rfl) | rfl
  · exact hc
  · simp [verdict, isSeparator, hplain] at h
  · simp [verdict, isSeparator] at h

/-- A blank first piece begins with a blank character, if that stays in it. -/
theorem isBlank_of_pieces {c : Char} {r : Text}
    (h : ∀ p ∈ pieces {} (c :: r), ∀ d ∈ p, isBlank d)
    (hkeep : Nesting.verdict {} c r.head? = .keep) : isBlank c := by
  obtain ⟨p, ps, hpieces⟩ := List.exists_cons_of_ne_nil (pieces_ne_nil (Nesting.step {} c) r)
  rw [pieces, hkeep, hpieces] at h
  exact h (c :: p) List.mem_cons_self c List.mem_cons_self

theorem blank_pieces_cons {c : Char} {r : Text} (hc : isLoose c)
    (hkeep : Nesting.verdict {} c r.head? = .keep → isBlank c) :
    (∀ p ∈ pieces {} (c :: r), ∀ d ∈ p, isBlank d) ↔ ∀ p ∈ pieces {} r, ∀ d ∈ p, isBlank d := by
  obtain ⟨p, ps, hpieces⟩ := List.exists_cons_of_ne_nil (pieces_ne_nil {} r)
  rw [pieces, Nesting.step_of_isLoose rfl hc, hpieces]
  cases hverdict : Nesting.verdict {} c r.head? with
  | keep => simp [consFirst, hkeep hverdict]
  | cut => simp
  | drop => rfl

theorem blank_pieces_iff {t : Text} :
    (∀ p ∈ pieces {} t, ∀ c ∈ p, isBlank c) ↔ ∀ c ∈ t, isLoose c := by
  induction t with
  | nil => simp [pieces]
  | cons c r ih =>
      rw [List.forall_mem_cons]
      constructor
      · intro h
        have hkeep := isBlank_of_pieces h
        have hc : isLoose c := by
          by_cases hverdict : Nesting.verdict {} c r.head? = .keep
          · rw [isLoose, hkeep hverdict]
            rfl
          · have hstart : Quoting.Agrees {} {} := ⟨rfl, rfl⟩
            exact (hstart.loose hverdict).2
        exact ⟨hc, ih.mp ((blank_pieces_cons hc hkeep).mp h)⟩
      · rintro ⟨hc, hr⟩
        have hnext : ∀ d ∈ r.head?, isLoose d := fun d hd => hr d (List.mem_of_head? hd)
        exact (blank_pieces_cons hc (Nesting.isBlank_of_keep hc hnext)).mpr (ih.mpr hr)

theorem clauses_eq_nil_iff {sentence : Text} :
    clauses sentence = [] ↔ ∀ c ∈ sentence, isLoose c := by
  rw [clauses, List.filterMap_eq_nil_iff, ← blank_pieces_iff]
  constructor
  · intro h p hp
    exact closeClause_eq_none_iff.mp (h p hp)
  · intro h p hp
    exact closeClause_eq_none_iff.mpr (h p hp)

/-! ## Sentences -/

theorem mapM_eq_nil_iff {ε α β : Type} {f : α → Except ε β} {xs : List α} :
    xs.mapM f = .ok [] ↔ xs = [] := by
  constructor
  · intro h
    exact List.forall₂_nil_right_iff.mp (forall₂_of_mapM h)
  · rintro rfl
    rfl

/-- A sentence is read as no command exactly if every word of its clauses joins, and it has no
clause exactly if all of its characters are loose. -/
theorem parse_eq_nil_iff [Regex.Engine] (sentence : Text) :
    (parse sentence = .ok [] ↔ ∀ clause ∈ clauses sentence, ∀ w ∈ Text.words clause, Joins w) ∧
      (clauses sentence = [] ↔ ∀ c ∈ sentence, isLoose c) := by
  refine ⟨?_, clauses_eq_nil_iff⟩
  rw [parse, parseWith, mapM_eq_nil_iff, instructionsOf_standard, List.flatMap_eq_nil_iff]
  apply forall₂_congr
  intro clause _
  rw [instructions_eq_nil_iff, lexicon, conjunctions_tagWords]

open Regex.Builtin

example : parse "and then-and!" = .ok [] := by decide

/-- A step that is fit to run may say nothing, as a lone full stop does. -/
theorem parse_eq_nil_stop :
    ¬ ∀ (case : Text) (index : ℕ) (sentence : Text) (commands : List Command),
      (Suite.Step.sentence sentence).fault? case index = none →
        parse sentence = .ok commands → commands ≠ [] := by
  intro h
  have hstop : parse "." = .ok [] := by decide
  exact h [] 0 "." [] (by decide) hstop rfl

end PlainSteps.Sentence
