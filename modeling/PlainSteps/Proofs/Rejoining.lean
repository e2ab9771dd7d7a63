import PlainSteps.Proofs.Silence

/-!
# Clauses cut again

The clauses of a sentence that leaves nothing open, put one behind the other with a space between,
are cut again into the same clauses. What was kept the first time is kept again: a full stop inside
a clause stands inside quotes or braces or directly before a letter or digit, and the character
behind it is still there (`intact_of_pieces`). Taking white space off the ends of a piece changes
nothing where no backslash shields it (`Intact.isClause`). The main statement is `clauses_unwords`.
-/

namespace PlainSteps.Sentence

/-! ## What characters leave open -/

namespace Nesting

theorem run_append (s : Nesting) (t u : Text) : s.run (t ++ u) = (s.run t).run u :=
  List.foldl_append

theorem escaped_run {s : Nesting} (hs : s.escaped = false) {t : Text} (ht : '\\' ∉ t) :
    (s.run t).escaped = false := by
  induction t generalizing s with
  | nil => exact hs
  | cons c r ih =>
      obtain ⟨hc, hr⟩ := not_or.mp (mt List.mem_cons.mpr ht)
      refine ih (s := s.step c) ?_ hr
      rw [escaped_step, beq_false_of_ne (Ne.symm hc), Bool.and_false]

/-- White space opens and closes nothing. -/
theorem run_of_isBlank {s : Nesting} (hs : s.escaped = false) {t : Text}
    (ht : ∀ c ∈ t, isBlank c) : s.run t = s := by
  induction t with
  | nil => rfl
  | cons c r ih =>
      obtain ⟨hc, hr⟩ := List.forall_mem_cons.mp ht
      rw [run, List.foldl_cons, step_of_isLoose hs (isLoose_of_isBlank hc)]
      exact ih hr

/-- A character that is kept in front of nothing is kept in front of any other. -/
theorem keep_of_keep {s : Nesting} {c : Char} (h : s.verdict c none = .keep) (next : Option Char) :
    s.verdict c next = .keep := by
  rw [verdict] at h ⊢
  split_ifs at h ⊢ <;> simp_all

theorem keep_of_isAlphanumeric (s : Nesting) {c : Char} (hc : isAlphanumeric c)
    (next : Option Char) : s.verdict c next = .keep := by
  have hplain : c ≠ '.' ∧ c ≠ ',' ∧ c ≠ '\n' ∧ c ≠ '\r' := by
    have hordinary := isOrdinary_of_isAlphanumeric hc
    simp only [isOrdinary] at hordinary
    simp_all
  simp [verdict, isSeparator, hplain]

/-- Where a piece is cut off, nothing is open. -/
theorem eq_of_cut {s : Nesting} {c : Char} {next : Option Char} (h : s.verdict c next = .cut) :
    s = {} ∧ s.step c = {} := by
  obtain ⟨hinQuote, hescaped, -, -⟩ := plain_of_verdict (by rw [h]; decide)
  obtain ⟨inQuote, escaped, depth⟩ := s
  obtain rfl : inQuote = false := hinQuote
  obtain rfl : escaped = false := hescaped
  simp only [verdict] at h
  split_ifs at h with _ _ hcut
  obtain ⟨hdepth, hseparator⟩ := Bool.and_eq_true_iff.mp hcut
  obtain rfl : depth = 0 := eq_of_beq hdepth
  refine ⟨rfl, step_of_isLoose rfl ?_⟩
  simp only [isSeparator, Bool.or_eq_true, beq_iff_eq] at hseparator
  obtain (rfl | rfl) | rfl := hseparator <;> decide

theorem step_of_drop {s : Nesting} {c : Char} {next : Option Char} (h : s.verdict c next = .drop) :
    s.step c = s := by
  obtain ⟨-, hescaped, -, -⟩ := plain_of_verdict (by rw [h]; decide)
  have hreturn : c = '\r' := by
    rw [verdict] at h
    split_ifs at h with _ _ _ hreturn
    exact eq_of_beq hreturn
  exact step_of_isLoose hescaped (by rw [hreturn]; decide)

/-- What follows a character in its piece keeps it there. -/
theorem keep_before_piece {s s' : Nesting} {c : Char} {r p : Text} {ps : List Text}
    (h : s.verdict c r.head? = .keep) (hr : pieces s' r = p :: ps) :
    s.verdict c p.head? = .keep := by
  cases r with
  | nil => exact keep_of_keep h _
  | cons d r =>
      by_cases hd : isAlphanumeric d
      · obtain ⟨q, qs, hq⟩ := List.exists_cons_of_ne_nil (pieces_ne_nil (s'.step d) r)
        rw [pieces, keep_of_isAlphanumeric s' hd, hq] at hr
        obtain ⟨rfl, -⟩ := List.cons.inj hr
        exact h
      · rw [List.head?_cons, verdict_before (by simpa using hd)] at h
        exact keep_of_keep h _

end Nesting

/-- The two ways of reading quotes stay in step. -/
theorem Quoting.Agrees.run {s : Nesting} {q : Quoting} (h : Agrees s q) (t : Text) :
    Agrees (s.run t) (q.run t) := by
  induction t generalizing s q with
  | nil => exact h
  | cons c r ih => exact ih (h.step c)

theorem quoteCount_eq_count {t : Text} (h : '\\' ∉ t) : quoteCount t = t.count '"' := by
  rw [quoteCount]
  induction t with
  | nil => rfl
  | cons c r ih =>
      obtain ⟨hc, hr⟩ := not_or.mp (mt List.mem_cons.mpr h)
      rw [countQuotes_cons, beq_false_of_ne (Ne.symm hc), Bool.and_false, ih hr, List.count_cons,
        Nat.add_comm]
      rfl

theorem run_eq_of_even {t : Text} (hslash : '\\' ∉ t) (hquotes : Even (t.count '"'))
    (hdepth : (Nesting.run {} t).depth = 0) : Nesting.run {} t = {} := by
  have hstart : Quoting.Agrees {} {} := ⟨rfl, rfl⟩
  have hspan := Quoting.span_run (t := t) (by rwa [quoteCount_eq_count hslash])
  have hinQuote := (hstart.run t).inQuote
  rw [hspan] at hinQuote
  have hescaped := Nesting.escaped_run (s := {}) rfl hslash
  cases hrun : Nesting.run {} t with
  | mk inQuote escaped depth =>
      rw [hrun] at hinQuote hescaped hdepth
      obtain rfl : inQuote = false := hinQuote.symm
      obtain rfl : escaped = false := hescaped
      obtain rfl : depth = 0 := hdepth
      rfl

/-! ## Whole texts -/

/-- Every character of the text stays in its piece, also if nothing comes behind the text. -/
def Whole (s : Nesting) : Text → Prop
  | [] => True
  | c :: r => s.verdict c r.head? = .keep ∧ Whole (s.step c) r

theorem Whole.seamless {s : Nesting} {t : Text} (h : Whole s t) : Seamless s t (s.run t) := by
  induction t generalizing s with
  | nil => exact .nil s
  | cons c r ih =>
      obtain ⟨hc, hr⟩ := h
      intro u
      have hkeep : s.verdict c (r ++ u).head? = .keep := by
        cases r with
        | nil => exact Nesting.keep_of_keep hc _
        | cons d r => exact hc
      rw [List.cons_append, pieces, hkeep, ih hr u]
      rfl

theorem Whole.right {s : Nesting} {t u : Text} (h : Whole s (t ++ u)) : Whole (s.run t) u := by
  induction t generalizing s with
  | nil => exact h
  | cons c r ih => exact ih h.2

theorem Whole.left {s : Nesting} {t u : Text} (h : Whole s (t ++ u))
    (hu : ∀ c ∈ u.head?, isAlphanumeric c = false) : Whole s t := by
  induction t generalizing s with
  | nil => trivial
  | cons c r ih =>
      obtain ⟨hc, hr⟩ := h
      refine ⟨?_, ih hr⟩
      cases r with
      | cons d r => exact hc
      | nil =>
          cases u with
          | nil => exact hc
          | cons d u => exact (Nesting.verdict_before (hu d rfl) s c).symm.trans hc

/-- The text stays in one piece and leaves nothing open. -/
structure Intact (s : Nesting) (t : Text) : Prop where
  whole : Whole s t
  run : s.run t = {}

theorem intact_of_pieces {s : Nesting} {t : Text} (ht : s.run t = {}) {p : Text}
    {ps : List Text} (h : pieces s t = p :: ps) : Intact s p ∧ ∀ p' ∈ ps, Intact {} p' := by
  induction t generalizing s p ps with
  | nil =>
      obtain ⟨rfl, rfl⟩ := List.cons.inj h
      exact ⟨⟨trivial, ht⟩, nofun⟩
  | cons c r ih =>
      obtain ⟨q, qs, hr⟩ := List.exists_cons_of_ne_nil (pieces_ne_nil (s.step c) r)
      obtain ⟨hfirst, hlater⟩ := ih ht hr
      rw [pieces, hr] at h
      cases hverdict : s.verdict c r.head? with
      | keep =>
          rw [hverdict] at h
          obtain ⟨rfl, rfl⟩ := List.cons.inj h
          have hkeep := Nesting.keep_before_piece hverdict hr
          exact ⟨⟨⟨hkeep, hfirst.whole⟩, hfirst.run⟩, hlater⟩
      | cut =>
          rw [hverdict] at h
          obtain ⟨rfl, rfl⟩ := List.cons.inj h
          obtain ⟨rfl, hstep⟩ := Nesting.eq_of_cut hverdict
          rw [hstep] at hfirst
          exact ⟨⟨trivial, rfl⟩, List.forall_mem_cons.mpr ⟨hfirst, hlater⟩⟩
      | drop =>
          rw [hverdict] at h
          obtain ⟨rfl, rfl⟩ := List.cons.inj h
          rw [Nesting.step_of_drop hverdict] at hfirst
          exact ⟨hfirst, hlater⟩

theorem mem_of_mem_pieces {s : Nesting} {t : Text} : ∀ p ∈ pieces s t, ∀ c ∈ p, c ∈ t := by
  induction t generalizing s with
  | nil => simp [pieces]
  | cons c r ih =>
      have hrest : ∀ p ∈ pieces (s.step c) r, ∀ d ∈ p, d ∈ c :: r :=
        fun p hp d hd => List.mem_cons_of_mem c (ih p hp d hd)
      obtain ⟨q, qs, hr⟩ := List.exists_cons_of_ne_nil (pieces_ne_nil (s.step c) r)
      rw [pieces, hr]
      rw [hr] at hrest
      obtain ⟨hq, hqs⟩ := List.forall_mem_cons.mp hrest
      cases s.verdict c r.head? with
      | keep =>
          have hfirst : ∀ d ∈ c :: q, d ∈ c :: r :=
            List.forall_mem_cons.mpr ⟨List.mem_cons_self, hq⟩
          exact List.forall_mem_cons.mpr ⟨hfirst, hqs⟩
      | cut => exact List.forall_mem_cons.mpr ⟨List.forall_mem_nil _, hrest⟩
      | drop => exact hrest

/-! ## Clauses -/

theorem head?_trim (t : Text) : ∀ c ∈ (Text.trim t).head?, isBlank c = false := by
  intro c hc
  obtain ⟨r, hr⟩ := List.head?_eq_some_iff.mp hc
  have hhead := List.head?_dropWhile_not isBlank t
  rw [← dropEndWhile_append_takeEndWhile isBlank (t.dropWhile isBlank), ← Text.trimMatches,
    ← Text.trim, hr] at hhead
  simpa using hhead

theorem getLast?_trim (t : Text) : ∀ c ∈ (Text.trim t).getLast?, isBlank c = false := by
  intro c hc
  rw [Text.trim, Text.trimMatches, Text.dropEndWhile, List.getLast?_reverse] at hc
  have hhead := List.head?_dropWhile_not isBlank (t.dropWhile isBlank).reverse
  rw [hc] at hhead
  simpa using hhead

/-- A piece that is not blank is a clause when white space is taken off its ends. -/
theorem Intact.isClause {p : Text} (hp : Intact {} p) (hslash : '\\' ∉ p)
    (hne : Text.trim p ≠ []) : IsClause (Text.trim p) := by
  obtain ⟨front, back, hfront, hback, hsplit⟩ := exists_trim p
  have hmid : '\\' ∉ Text.trim p := by
    rw [hsplit] at hslash
    exact fun hmem => hslash (List.mem_append_right _ (List.mem_append_left _ hmem))
  have hrest : Whole {} (Text.trim p ++ back) := by
    have hwhole := hp.whole
    rw [hsplit] at hwhole
    have hright := hwhole.right
    rwa [Nesting.run_of_isBlank rfl hfront] at hright
  have hwhole : Whole {} (Text.trim p) :=
    hrest.left fun c hc => isAlphanumeric_of_isBlank (hback c (List.mem_of_head? hc))
  have hrun : Nesting.run {} (Text.trim p) = {} := by
    have hescaped := Nesting.escaped_run (s := {}) rfl hmid
    have hall := hp.run
    rwa [hsplit, Nesting.run_append, Nesting.run_of_isBlank rfl hfront, Nesting.run_append,
      Nesting.run_of_isBlank hescaped hback] at hall
  have hseamless := hwhole.seamless
  rw [hrun] at hseamless
  exact ⟨hseamless, hne, head?_trim p, getLast?_trim p⟩

theorem isClause_of_mem_clauses {sentence : Text} (hslash : '\\' ∉ sentence)
    (hrun : Nesting.run {} sentence = {}) :
    ∀ clause ∈ clauses sentence, ∃ t, IsClause t ∧ clause = t ++ ['.'] := by
  intro clause hclause
  obtain ⟨p, hp, hclose⟩ := List.mem_filterMap.mp hclause
  obtain ⟨q, qs, hpieces⟩ := List.exists_cons_of_ne_nil (pieces_ne_nil {} sentence)
  have hintact : Intact {} p := by
    obtain ⟨hfirst, hlater⟩ := intact_of_pieces hrun hpieces
    rw [hpieces] at hp
    exact List.forall_mem_cons.mpr ⟨hfirst, hlater⟩ p hp
  obtain ⟨hne, rfl⟩ := closeClause_eq_some hclose
  have hslash' : '\\' ∉ p := fun hmem => hslash (mem_of_mem_pieces p hp _ hmem)
  exact ⟨Text.trim p, hintact.isClause hslash' hne, rfl⟩

theorem clauses_space (t : Text) : clauses (' ' :: t) = clauses t := by
  obtain ⟨p, ps, hpieces⟩ := List.exists_cons_of_ne_nil (pieces_ne_nil {} t)
  have hspace : pieces {} (' ' :: t) = (' ' :: p) :: ps := by
    have hrest : pieces {} (' ' :: t) = consFirst ' ' (pieces {} t) := rfl
    rw [hrest, hpieces]
    rfl
  have hclose : closeClause (' ' :: p) = closeClause p := rfl
  rw [clauses, clauses, hspace, hpieces, List.filterMap_cons, List.filterMap_cons, hclose]

theorem clauses_unwords_of_isClause {cs : List Text}
    (h : ∀ c ∈ cs, ∃ t, IsClause t ∧ c = t ++ ['.']) : clauses (Text.unwords cs) = cs := by
  induction cs with
  | nil => rfl
  | cons c cs ih =>
      obtain ⟨⟨t, ht, rfl⟩, hcs⟩ := List.forall_mem_cons.mp h
      cases cs with
      | nil => exact ht.clauses_stop
      | cons d ds =>
          have hspace : Separates '.' (' ' :: Text.unwords (d :: ds)) :=
            .inr (.inr ⟨rfl, by rintro _ ⟨⟩; decide⟩)
          rw [Text.unwords_cons (List.cons_ne_nil d ds), List.append_assoc, List.singleton_append,
            ht.clauses_append hspace, clauses_space, ih hcs]

/-- A sentence without backslashes that leaves neither quotes nor braces open has clauses that are
cut again into themselves when they are put together with single spaces. -/
theorem clauses_unwords {sentence : Text} (hslash : '\\' ∉ sentence)
    (hquotes : Even (sentence.count '"')) (hdepth : (Nesting.run {} sentence).depth = 0) :
    clauses (Text.unwords (clauses sentence)) = clauses sentence :=
  clauses_unwords_of_isClause
    (isClause_of_mem_clauses hslash (run_eq_of_even hslash hquotes hdepth))

/-- Separators in quotes and in braces, full stops before letters and digits, a superfluous closing
brace, carriage returns and a blank clause. -/
def ragged : Text :=
  "\r Click \"a. b,\r\n\" link\r 3.5\r\n ,. To \x7bc. , \x7bd.\x7d\n\x7d\x7d .e ,Fill \"\" at .\r5 "

theorem clauses_unwords_ragged :
    '\\' ∉ ragged ∧ Even (ragged.count '"') ∧ (Nesting.run {} ragged).depth = 0 ∧
      clauses ragged =
        ["Click \"a. b,\r\n\" link 3.5.".toList, "To \x7bc. , \x7bd.\x7d\n\x7d\x7d .e.".toList,
          "Fill \"\" at.".toList, "5.".toList] ∧
      clauses (Text.unwords (clauses ragged)) = clauses ragged := by
  have hslash : '\\' ∉ ragged := by decide +kernel
  have hquotes : Even (ragged.count '"') := by decide +kernel
  have hdepth : (Nesting.run {} ragged).depth = 0 := by decide +kernel
  exact ⟨hslash, hquotes, hdepth, by decide +kernel, clauses_unwords hslash hquotes hdepth⟩

end PlainSteps.Sentence
