import PlainSteps.Command
import PlainSteps.Proofs.Words
import PlainSteps.Sentence.Quoted

/-!
# Quotable texts

A text can be written between double quotes and read back if it is `Quotable`: its white space
survives being cut into words, and no run of backslashes in it turns a quote into something else.
`unquote?_quoted` reads the text back, `quoteCount_quoted` says that the span has no further quote
in it.
-/

namespace PlainSteps

/-- Every maximal run of backslashes that a double quote follows, or that ends the text, has even
length. -/
def EvenBackslashes (t : Text) : Prop :=
  ∀ before run after : Text, t = before ++ run ++ after → (∀ c ∈ run, c = '\\') →
    before.getLast? ≠ some '\\' → (after = [] ∨ after.head? = some '"') → Even run.length

/-- A text that keeps its meaning between double quotes. -/
def Quotable (t : Text) : Prop := Text.SingleSpaced t ∧ EvenBackslashes t

/-- Scans for runs of odd length; `odd` says that an odd number of backslashes stands directly
before the text. -/
def evenRuns (odd : Bool) : Text → Bool
  | [] => !odd
  | c :: r =>
    if c = '\\' then evenRuns (!odd) r
    else if c = '"' then !odd && evenRuns false r
    else evenRuns false r

/-- Behind a part that does not end in a backslash the scan starts afresh. -/
theorem evenRuns_behind {odd : Bool} {before t : Text} (h : evenRuns odd (before ++ t))
    (hlast : before.getLast? ≠ some '\\') (hodd : before = [] → odd = false) :
    evenRuns false t := by
  induction before generalizing odd with
  | nil => simpa [hodd rfl] using h
  | cons c r ih =>
      have hlast' : r.getLast? ≠ some '\\' := by
        cases r with
        | nil => simp
        | cons d r => simpa [List.getLast?_cons] using hlast
      by_cases hc : c = '\\'
      · subst hc
        refine @ih (!odd) (by simpa [evenRuns] using h) hlast' fun hr => ?_
        simp [hr] at hlast
      · have hrest : evenRuns false (r ++ t) := by
          by_cases hq : c = '"'
          · exact (show odd = false ∧ evenRuns false (r ++ t) by
              simpa [evenRuns, hc, hq] using h).2
          · simpa [evenRuns, hc, hq] using h
        exact ih hrest hlast' fun _ => rfl

theorem odd_succ (n : ℕ) : ((n + 1) % 2 == 1) = !(n % 2 == 1) := by
  rcases Nat.mod_two_eq_zero_or_one n with hn | hn <;> simp [Nat.add_mod, hn]

theorem evenRuns_run {n : ℕ} {run t : Text} (hrun : ∀ c ∈ run, c = '\\') :
    evenRuns (n % 2 == 1) (run ++ t) = evenRuns ((n + run.length) % 2 == 1) t := by
  induction run generalizing n with
  | nil => rfl
  | cons c r ih =>
      obtain rfl : c = '\\' := hrun c List.mem_cons_self
      rw [List.cons_append, evenRuns, if_pos rfl, ← odd_succ,
        ih fun d hd => hrun d (List.mem_cons_of_mem _ hd), List.length_cons,
        Nat.add_right_comm, Nat.add_assoc]

theorem EvenBackslashes.of_append {s t : Text} (h : EvenBackslashes (s ++ t))
    (hs : s.getLast? ≠ some '\\') : EvenBackslashes t := by
  rintro before run after rfl hrun hbefore hafter
  apply h (s ++ before) run after (by simp) hrun _ hafter
  cases before with
  | nil => simpa using hs
  | cons c r => simpa [List.getLast?_append] using hbefore

theorem EvenBackslashes.evenRuns {n : ℕ} {t : Text}
    (h : EvenBackslashes (List.replicate n '\\' ++ t)) : evenRuns (n % 2 == 1) t := by
  have hrun (after : Text) (ht : t = after) (hafter : after = [] ∨ after.head? = some '"') :
      (n % 2 == 1) = false := by
    have he := h [] (List.replicate n '\\') after (by simp [ht])
      (fun c hc => List.eq_of_mem_replicate hc) (by simp) hafter
    rw [List.length_replicate, Nat.even_iff] at he
    simp [he]
  induction t generalizing n with
  | nil => simpa [PlainSteps.evenRuns] using hrun [] rfl (.inl rfl)
  | cons c r ih =>
      by_cases hc : c = '\\'
      · subst hc
        have h' : EvenBackslashes (List.replicate (n + 1) '\\' ++ r) := by
          rw [List.replicate_succ', List.append_assoc]
          exact h
        rw [PlainSteps.evenRuns, if_pos rfl, ← odd_succ]
        refine ih h' fun after hr hafter => ?_
        have he := h' [] (List.replicate (n + 1) '\\') after (by simp [hr])
          (fun c hc => List.eq_of_mem_replicate hc) (by simp) hafter
        rw [List.length_replicate, Nat.even_iff] at he
        simp [he]
      · have hrest : EvenBackslashes r := by
          have h' : EvenBackslashes ((List.replicate n '\\' ++ [c]) ++ r) := by simpa using h
          exact h'.of_append (by simp [hc])
        have ih' : PlainSteps.evenRuns false r :=
          ih (n := 0) (by simpa using hrest) fun _ _ _ => rfl
        by_cases hq : c = '"'
        · subst hq
          simpa [PlainSteps.evenRuns, ih'] using hrun _ rfl (.inr rfl)
        · simpa [PlainSteps.evenRuns, hc, hq] using ih'

theorem evenBackslashes_iff (t : Text) : EvenBackslashes t ↔ evenRuns false t := by
  constructor
  · intro h
    exact EvenBackslashes.evenRuns (n := 0) h
  · rintro h before run after rfl hrun hbefore hafter
    rw [List.append_assoc] at h
    have hscan := evenRuns_behind h hbefore fun _ => rfl
    have hparity : evenRuns ((0 + run.length) % 2 == 1) after := by
      rw [← evenRuns_run hrun]
      exact hscan
    rw [Nat.zero_add] at hparity
    rw [Nat.even_iff]
    rcases after with _ | ⟨c, r⟩
    · simpa [evenRuns] using hparity
    · obtain rfl : c = '"' := by simpa using hafter
      have hboth : run.length % 2 ≠ 1 ∧ evenRuns false r := by simpa [evenRuns] using hparity
      omega

instance : DecidablePred EvenBackslashes := fun t =>
  decidable_of_iff (evenRuns false t = true) (evenBackslashes_iff t).symm

instance (t : Text) : Decidable (Quotable t) := inferInstanceAs (Decidable (_ ∧ _))

/-! ## Escaping -/

theorem escapeQuotes_cons (c : Char) (t : Text) :
    escapeQuotes (c :: t) = (if c = '"' then ['\\', '"'] else [c]) ++ escapeQuotes t := by
  by_cases hc : c = '"' <;> simp [escapeQuotes, hc]

theorem escapeQuotes_append (s t : Text) :
    escapeQuotes (s ++ t) = escapeQuotes s ++ escapeQuotes t := by
  induction s with
  | nil => rfl
  | cons c r ih =>
      rw [List.cons_append, escapeQuotes_cons, ih, escapeQuotes_cons, List.append_assoc]

/-- Without quotes in it there is nothing to escape. -/
theorem quoted_of_forall {t : Text} (h : ∀ c ∈ t, c ≠ '"') : quoted t = '"' :: t ++ ['"'] := by
  have hescape : escapeQuotes t = t := by
    induction t with
    | nil => rfl
    | cons c r ih =>
        obtain ⟨hc, hr⟩ := List.forall_mem_cons.mp h
        rw [escapeQuotes, if_neg hc, ih hr]
  rw [quoted, hescape]

theorem head?_escapeQuotes_ne (t : Text) : (escapeQuotes t).head? ≠ some '"' := by
  cases t with
  | nil => simp [escapeQuotes]
  | cons c r => by_cases hc : c = '"' <;> simp [escapeQuotes, hc]

namespace Sentence

theorem unescapeQuotes_cons {c : Char} {t : Text} (h : c = '\\' → t.head? ≠ some '"') :
    unescapeQuotes (c :: t) = c :: unescapeQuotes t := by
  cases t with
  | nil => simp [unescapeQuotes]
  | cons d r =>
      have hcd : ¬ (c = '\\' ∧ d = '"') := by
        rintro ⟨hc, rfl⟩
        exact h hc rfl
      rw [unescapeQuotes, if_neg hcd]

@[simp] theorem unescapeQuotes_escapeQuotes (t : Text) : unescapeQuotes (escapeQuotes t) = t := by
  induction t with
  | nil => rfl
  | cons c r ih =>
      by_cases hc : c = '"'
      · subst hc
        simp [escapeQuotes, unescapeQuotes, ih]
      · rw [escapeQuotes, if_neg hc, unescapeQuotes_cons fun _ => head?_escapeQuotes_ne r, ih]

/-! ## Counting quotes -/

/-- The text leaves a backslash that shields what comes behind it. -/
def escapedBehind (escaped : Bool) : Text → Bool
  | [] => escaped
  | c :: r => escapedBehind (!escaped && c == '\\') r

theorem escapedBehind_append (e : Bool) (s t : Text) :
    escapedBehind e (s ++ t) = escapedBehind (escapedBehind e s) t := by
  induction s generalizing e with
  | nil => rfl
  | cons c r ih => exact ih _

theorem countQuotes_cons (e : Bool) (c : Char) (t : Text) :
    countQuotes e (c :: t) =
      (if !e && c == '"' then 1 else 0) + countQuotes (!e && c == '\\') t := by
  rw [countQuotes]
  cases e with
  | true => simp
  | false =>
      by_cases hc : c = '\\'
      · simp [hc]
      · have hc' : (c == '\\') = false := by simpa using hc
        by_cases hq : c = '"'
        · simp [hq, Nat.add_comm]
        · simp [hc', hq]

theorem countQuotes_cons_eq_zero {e : Bool} {c : Char} {t : Text}
    (h : countQuotes e (c :: t) = 0) :
    (!e && c == '"') = false ∧ countQuotes (!e && c == '\\') t = 0 := by
  rw [countQuotes_cons] at h
  cases hc : !e && c == '"' with
  | false => exact ⟨rfl, by omega⟩
  | true => simp [hc] at h

theorem countQuotes_append (e : Bool) (s t : Text) :
    countQuotes e (s ++ t) = countQuotes e s + countQuotes (escapedBehind e s) t := by
  induction s generalizing e with
  | nil => simp [countQuotes, escapedBehind]
  | cons c r ih =>
      rw [List.cons_append, countQuotes_cons, ih, countQuotes_cons, escapedBehind, Nat.add_assoc]

/-- A text without quotes and backslashes. -/
theorem countQuotes_of_forall {t : Text} (h : ∀ c ∈ t, c ≠ '"') (e : Bool) :
    countQuotes e t = 0 := by
  induction t generalizing e with
  | nil => rfl
  | cons c r ih =>
      have hc : c ≠ '"' := h c List.mem_cons_self
      rw [countQuotes_cons, ih fun d hd => h d (List.mem_cons_of_mem c hd)]
      simp [hc]

theorem escapedBehind_of_forall {t : Text} (h : ∀ c ∈ t, c ≠ '\\') :
    escapedBehind false t = false := by
  induction t with
  | nil => rfl
  | cons c r ih =>
      have hc : c ≠ '\\' := h c List.mem_cons_self
      have hstep : (!false && c == '\\') = false := by simp [hc]
      rw [escapedBehind, hstep]
      exact ih fun d hd => h d (List.mem_cons_of_mem c hd)

/-- Inside a text whose runs of backslashes are even, an escaped quote is no quote, and the end is
not shielded. -/
theorem escapeQuotes_of_evenRuns {e : Bool} {t : Text} (h : evenRuns e t) :
    countQuotes e (escapeQuotes t) = 0 ∧ escapedBehind e (escapeQuotes t) = false := by
  induction t generalizing e with
  | nil => simpa [escapeQuotes, countQuotes, escapedBehind, evenRuns] using h
  | cons c r ih =>
      by_cases hc : c = '\\'
      · subst hc
        have h' := ih (e := !e) (by simpa [evenRuns] using h)
        simpa [escapeQuotes, countQuotes_cons, escapedBehind] using h'
      · by_cases hq : c = '"'
        · subst hq
          have h' : e = false ∧ evenRuns false r := by simpa [evenRuns] using h
          obtain ⟨rfl, hr⟩ := h'
          simpa [escapeQuotes, countQuotes_cons, escapedBehind] using ih hr
        · have h' := ih (e := false) (by simpa [evenRuns, hc, hq] using h)
          have hstep : (!e && c == '\\') = false := by simp [hc]
          rw [escapeQuotes, if_neg hq, countQuotes_cons, escapedBehind, hstep]
          simpa [hq] using h'

/-! ## Spans -/

theorem behindQuote_append {e : Bool} {s : Text} (t : Text) (h : countQuotes e s = 0)
    (hs : escapedBehind e s = false) : behindQuote e (s ++ '"' :: t) = some t := by
  induction s generalizing e with
  | nil => simp_all [behindQuote, escapedBehind]
  | cons c r ih =>
      obtain ⟨hc, hr⟩ := countQuotes_cons_eq_zero h
      rw [List.cons_append, behindQuote, hc]
      exact ih hr hs

theorem beforeLastQuote_eq_none {e : Bool} {t : Text} (h : countQuotes e t = 0) :
    beforeLastQuote e t = none := by
  induction t generalizing e with
  | nil => rfl
  | cons c r ih =>
      obtain ⟨hc, hr⟩ := countQuotes_cons_eq_zero h
      rw [beforeLastQuote, ih hr, hc]
      rfl

theorem beforeLastQuote_append {e : Bool} {s t : Text} (hs : escapedBehind e s = false)
    (ht : countQuotes false t = 0) : beforeLastQuote e (s ++ '"' :: t) = some s := by
  induction s generalizing e with
  | nil =>
      obtain rfl : e = false := hs
      rw [List.nil_append, beforeLastQuote, beforeLastQuote_eq_none (by simpa using ht)]
      rfl
  | cons c r ih =>
      rw [List.cons_append, beforeLastQuote, ih hs]

/-- A quoted text is read back from between texts without quotes. -/
theorem unquote?_quoted {s t u : Text} (ht : EvenBackslashes t) (hs : countQuotes false s = 0)
    (hs' : escapedBehind false s = false) (hu : countQuotes false u = 0) :
    unquote? (s ++ quoted t ++ u) = some t := by
  have hspan := escapeQuotes_of_evenRuns ((evenBackslashes_iff t).mp ht)
  have happend : s ++ quoted t ++ u = s ++ '"' :: (escapeQuotes t ++ '"' :: u) := by
    simp [quoted]
  rw [unquote?, happend, behindQuote_append _ hs hs']
  simp [beforeLastQuote_append hspan.2 hu]

theorem quoteCount_quoted {t : Text} (ht : EvenBackslashes t) : quoteCount (quoted t) = 2 := by
  have hspan := escapeQuotes_of_evenRuns ((evenBackslashes_iff t).mp ht)
  rw [quoteCount, quoted, List.cons_append, countQuotes_cons, countQuotes_append]
  simp [hspan, countQuotes]

theorem escapedBehind_quoted {t : Text} (ht : EvenBackslashes t) :
    escapedBehind false (quoted t) = false := by
  have hspan := escapeQuotes_of_evenRuns ((evenBackslashes_iff t).mp ht)
  rw [quoted, List.cons_append, escapedBehind, escapedBehind_append]
  simp [hspan, escapedBehind]

end Sentence

/-! ## White space -/

theorem isBlank_of_mem_escapeQuotes {t : Text} {c : Char} (hc : c ∈ escapeQuotes t)
    (hb : isBlank c) : c ∈ t := by
  induction t with
  | nil => simp [escapeQuotes] at hc
  | cons d r ih =>
      rw [escapeQuotes_cons, List.mem_append] at hc
      rcases hc with hc | hc
      · by_cases hd : d = '"'
        · have hcase : c = '\\' ∨ c = '"' := by simpa [hd] using hc
          rcases hcase with rfl | rfl <;> exact absurd hb (by decide)
        · simp_all
      · exact List.mem_cons_of_mem d (ih hc)

theorem isChain_escapeQuotes {t : Text} (h : t.IsChain fun a b => ¬ (a = ' ' ∧ b = ' ')) :
    (escapeQuotes t).IsChain fun a b => ¬ (a = ' ' ∧ b = ' ') := by
  induction t with
  | nil => exact h
  | cons c r ih =>
      have ih := ih h.tail
      by_cases hc : c = '"'
      · rw [escapeQuotes, if_pos hc]
        refine List.isChain_cons.mpr ⟨by simp, List.isChain_cons.mpr ⟨by simp, ih⟩⟩
      · rw [escapeQuotes, if_neg hc]
        refine List.isChain_cons.mpr ⟨?_, ih⟩
        rintro d hd ⟨rfl, rfl⟩
        -- A space at the head of an escaped text is a space at the head of the text.
        cases r with
        | nil => simp [escapeQuotes] at hd
        | cons e r =>
            rw [escapeQuotes_cons] at hd
            by_cases he : e = '"'
            · simp [he] at hd
            · have hesp : e = ' ' := by simpa [he] using hd
              exact (List.isChain_cons_cons.mp h).1 ⟨rfl, hesp⟩

@[simp] theorem getLast?_quoted (t : Text) : (quoted t).getLast? = some '"' := by
  rw [quoted, List.getLast?_concat]

theorem singleSpaced_quoted {t : Text} (ht : Text.SingleSpaced t) :
    Text.SingleSpaced (quoted t) := by
  have hquote : Text.SingleSpaced ['"'] := Text.singleSpaced_of_dense (by decide)
  have hesc : Text.SingleSpaced (escapeQuotes t) :=
    ⟨fun c hc hb => ht.1 c (isBlank_of_mem_escapeQuotes hc hb) hb, isChain_escapeQuotes ht.2⟩
  exact (hquote.append hesc (by simp)).append hquote (by simp)

/-- A quoted text is made of words, also with some punctuation behind it. -/
theorem unwords_words_quoted {t p : Text} (ht : Text.SingleSpaced t)
    (hp : ∀ c ∈ p, isBlank c = false) :
    Text.unwords (Text.words (quoted t ++ p)) = quoted t ++ p := by
  apply Text.unwords_words (by simp [quoted])
  · refine (singleSpaced_quoted ht).append (Text.singleSpaced_of_dense hp) ?_
    simp
  · have hquote : isBlank '"' = false := by decide
    simpa [quoted] using hquote
  · intro c hc
    rcases List.eq_nil_or_concat p with rfl | ⟨l, d, rfl⟩
    · obtain rfl : '"' = c := by simpa using hc
      rfl
    · have hcd : d = c := by simpa [← List.append_assoc] using hc
      exact hp c (by simp [hcd])

end PlainSteps
