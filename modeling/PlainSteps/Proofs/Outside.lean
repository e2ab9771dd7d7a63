import PlainSteps.Proofs.Lower
import PlainSteps.Proofs.Terms

/-!
# Terms outside quotes

The lexicon gives a term outside quotes the role of its lower-cased text (`Term.Unquoted`). A full
stop behind the last word changes its last term and no role (`exists_tagWords_stop`). The terms of
a `Verbatim` text neither open a phrase nor negate it, and none of them is joined to the next.
-/

namespace PlainSteps.Sentence

/-! ## Roles -/

/-- The term has no quotes, and its role is the one of its text. -/
structure Term.Unquoted (t : Term) : Prop where
  quotes : t.quotes = 0
  role : ∃ f, t.role = roleOf t.lower f
  negative : t.negative = (t.role == .negation)

theorem unquoted_of_mem_tagWord {f : Bool} {w : Text} (hw : quoteCount w = 0) {t : Term}
    (h : t ∈ tagWord f false w) : t.Unquoted := by
  have hsum := (spells_tagWord f false w).quotes
  rw [hw] at hsum
  have hquotes := List.sum_eq_zero_iff_forall_eq_nat.mp hsum _ (List.mem_map_of_mem h)
  obtain ⟨_, _, _, f, _, rfl⟩ := exists_of_mem_tagWord h
  exact ⟨hquotes, ⟨f, rfl⟩, rfl⟩

theorem unquoted_of_mem_tagWords {f : Bool} {ws : List Text} (hws : ∀ w ∈ ws, quoteCount w = 0)
    {t : Term} (h : t ∈ tagWords f false ws) : t.Unquoted := by
  induction ws generalizing f with
  | nil => simp [tagWords] at h
  | cons w ws ih =>
      have hw := hws w List.mem_cons_self
      rw [tagWords, hw] at h
      rcases List.mem_append.mp h with h | h
      · exact unquoted_of_mem_tagWord hw h
      · exact ih (fun v hv => hws v (List.mem_cons_of_mem w hv)) h

theorem Connector.ofWord?_eq_none {w : Text} {f : Bool} (h : roleOf w f ≠ .connector) :
    ofWord? w = none := by
  refine List.find?_eq_none.mpr fun k _ hk => h ?_
  obtain rfl : k.word = w := by simpa using hk
  cases k <;> rfl

/-! ## Full stops -/

/-- A full stop goes to what stands behind the word. -/
def Term.stop (t : Term) (p : Text) : Term := { t with post := t.post ++ p }

@[simp] theorem Term.text_stop (t : Term) (p : Text) : (t.stop p).text = t.text := rfl

@[simp] theorem Term.role_stop (t : Term) (p : Text) : (t.stop p).role = t.role := rfl

@[simp] theorem Term.raw_stop (t : Term) (p : Text) : (t.stop p).raw = t.raw ++ p := by
  simp [raw, stop]

theorem exists_tagLaterParts_stop (post p : Text) (q : Bool) {parts : List Text}
    (h : parts ≠ []) : ∃ ts t, tagLaterParts post q parts = ts ++ [t] ∧
      tagLaterParts (post ++ p) q parts = ts ++ [t.stop p] := by
  induction parts with
  | nil => exact absurd rfl h
  | cons v r ih =>
      cases r with
      | nil => exact ⟨[], tagPart [] v post false q true, rfl, rfl⟩
      | cons u r =>
          obtain ⟨ts, t, hts, hstop⟩ := ih (List.cons_ne_nil u r)
          refine ⟨tagPart [] v ['-'] false q true :: ts, t, ?_, ?_⟩
          · rw [tagLaterParts, hts, List.cons_append]
          · rw [tagLaterParts, hstop, List.cons_append]

theorem exists_tagWord_stop {p : Text} (hp : IsStop p) (f q : Bool) (w : Text) :
    ∃ ts t, tagWord f q w = ts ++ [t] ∧ tagWord f q (w ++ p) = ts ++ [t.stop p] := by
  have hquote : ∀ c ∈ p.head?, (c == '"') = false := by rcases hp with rfl | rfl <;> decide
  have hpre : (w ++ p).takeWhile (· == '"') = w.takeWhile (· == '"') ∧
      (w ++ p).dropWhile (· == '"') = w.dropWhile (· == '"') ++ p := by
    induction w with
    | nil =>
        rcases hp with rfl | rfl
        · exact ⟨rfl, rfl⟩
        · exact ⟨rfl, rfl⟩
    | cons c r ih =>
        by_cases hc : (c == '"') = true
        · simpa [hc] using ih
        · simp [hc]
  have htrail (t : Text) : Text.takeEndWhile isTrailing (t ++ p) =
      Text.takeEndWhile isTrailing t ++ p := by
    rw [Text.takeEndWhile, List.reverse_append, List.takeWhile_append_of_pos
      fun c hc => hp.trailing c (List.mem_reverse.mp hc), List.reverse_append,
      List.reverse_reverse]
    rfl
  rw [tagWord, tagWord, hpre.1, hpre.2, htrail, Text.dropEndWhile_append hp.trailing]
  obtain ⟨v, r, hparts⟩ := List.exists_cons_of_ne_nil
    (hyphenParts_ne_nil (Text.dropEndWhile isTrailing (w.dropWhile (· == '"'))))
  rw [hparts]
  cases r with
  | nil => exact ⟨[], _, rfl, rfl⟩
  | cons u r =>
      obtain ⟨ts, t, hts, hstop⟩ := exists_tagLaterParts_stop
        (Text.takeEndWhile isTrailing (w.dropWhile (· == '"'))) p q (List.cons_ne_nil u r)
      refine ⟨tagPart (w.takeWhile (· == '"')) v ['-'] f q false :: ts, t, ?_, ?_⟩
      · rw [tagParts, hts, List.cons_append]
      · rw [tagParts, hstop, List.cons_append]

theorem quoteCount_stop {p : Text} (hp : IsStop p) (w : Text) :
    quoteCount (w ++ p) = quoteCount w := by
  have hstop : ∀ c ∈ p, c ≠ '"' := by rcases hp with rfl | rfl <;> decide
  rw [quoteCount, countQuotes_append, countQuotes_of_forall hstop]
  rfl

/-- A stop behind the last word goes to its last term. -/
theorem exists_tagWords_stop {p : Text} (hp : IsStop p) (ws : List Text) (w : Text) :
    ∃ ts t, tagWords false false (ws ++ [w]) = ts ++ [t] ∧
      tagWords false false (ws ++ [w ++ p]) = ts ++ [t.stop p] := by
  obtain ⟨ts, t, hts, hstop⟩ :=
    exists_tagWord_stop hp false (inQuoteBehind false ws || quoteCount w > 0) w
  refine ⟨tagWords false false ws ++ ts, t, ?_, ?_⟩
  · rw [tagWords_append, tagWords, hts, tagWords, List.append_nil, List.append_assoc]
  · rw [tagWords_append, tagWords, quoteCount_stop hp, hstop, tagWords, List.append_nil,
      List.append_assoc]

/-! ## Verbatim texts -/

/-- The terms of a text outside quotes. -/
def termsOf (t : Text) : List Term := tagWords false false (Text.words t)

/-- The terms are not joined, and no instruction ends between them. -/
def Apart (t u : Term) : Prop :=
  joined? t u = none ∧ ¬ (t.role = .conjunction ∧ u.role = .verb)

instance (t u : Term) : Decidable (Apart t u) := inferInstanceAs (Decidable (_ ∧ _))

/-- Behind a connector the terms are taken as they stand. -/
structure Verbatim (ts : List Term) : Prop where
  role : ∀ t ∈ ts, t.role ≠ .connector ∧ t.role ≠ .negation
  apart : ts.IsChain Apart

instance (ts : List Term) : Decidable (Verbatim ts) :=
  decidable_of_iff ((∀ t ∈ ts, t.role ≠ .connector ∧ t.role ≠ .negation) ∧ ts.IsChain Apart)
    ⟨fun h => ⟨h.1, h.2⟩, fun h => ⟨h.1, h.2⟩⟩

theorem apart_stop {p : Text} (hp : IsStop p) (t u : Term) : Apart t (u.stop p) ↔ Apart t u := by
  have hquote : (u.stop p).hasQuote = u.hasQuote := by
    rw [Term.hasQuote, Term.raw_stop, quoteCount_stop hp]
    rfl
  rw [Apart, Apart, joined?, joined?, hquote]
  rfl

theorem verbatim_stop {p : Text} (hp : IsStop p) (ts : List Term) (t : Term) :
    Verbatim (ts ++ [t.stop p]) ↔ Verbatim (ts ++ [t]) := by
  have happart : (ts ++ [t.stop p]).IsChain Apart ↔ (ts ++ [t]).IsChain Apart := by
    simp [List.isChain_append, apart_stop hp]
  constructor
  · rintro ⟨hrole, hchain⟩
    exact ⟨by simpa [or_imp, forall_and] using hrole, happart.mp hchain⟩
  · rintro ⟨hrole, hchain⟩
    exact ⟨by simpa [or_imp, forall_and] using hrole, happart.mpr hchain⟩

end PlainSteps.Sentence
