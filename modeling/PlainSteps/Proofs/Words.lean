import Mathlib
import PlainSteps.Text

/-!
# Words and single spaces

`Text.words` cuts a text at white space and `Text.unwords` puts single spaces between words. The
two undo each other on lists of words (`words_unwords`) and on single-spaced texts that neither
begin nor end with white space (`unwords_words`).
-/

namespace PlainSteps.Text

section Decidable

variable (p : Char → Prop) [DecidablePred p]

-- A bound over a text is decided along the text, not over the characters there are.
instance (priority := 2000) (t : Text) : Decidable (∀ c ∈ t, p c) := List.decidableBAll p t

instance (priority := 2000) (o : Option Char) : Decidable (∀ c ∈ o, p c) :=
  Option.decidableForallMem o

end Decidable

/-- Not empty, and without white space. -/
def IsWord (w : Text) : Prop := w ≠ [] ∧ ∀ c ∈ w, isBlank c = false

instance (w : Text) : Decidable (IsWord w) := inferInstanceAs (Decidable (_ ∧ _))

/-- The only white space is single spaces, never two in a row. -/
def SingleSpaced (t : Text) : Prop :=
  (∀ c ∈ t, isBlank c → c = ' ') ∧ t.IsChain fun a b => ¬ (a = ' ' ∧ b = ' ')

instance (t : Text) : Decidable (SingleSpaced t) := inferInstanceAs (Decidable (_ ∧ _))

theorem singleSpaced_of_dense {t : Text} (h : ∀ c ∈ t, isBlank c = false) : SingleSpaced t := by
  refine ⟨fun c hc hb => by simp [h c hc] at hb, ?_⟩
  induction t with
  | nil => exact .nil
  | cons c r ih =>
      refine List.isChain_cons.mpr ⟨?_, ih fun d hd => h d (List.mem_cons_of_mem c hd)⟩
      rintro d - ⟨rfl, -⟩
      exact absurd (h ' ' List.mem_cons_self) (by decide)

theorem SingleSpaced.append {s t : Text} (hs : SingleSpaced s) (ht : SingleSpaced t)
    (h : s.getLast? = some ' ' → t.head? ≠ some ' ') : SingleSpaced (s ++ t) := by
  refine ⟨fun c hc => ?_, List.isChain_append.mpr ⟨hs.2, ht.2, ?_⟩⟩
  · rcases List.mem_append.mp hc with hc | hc
    · exact hs.1 c hc
    · exact ht.1 c hc
  · rintro a ha b hb ⟨rfl, rfl⟩
    exact h ha hb

theorem getLast?_append_space {t : Text} (ht : t ≠ []) (s : Text) :
    (s ++ ' ' :: t).getLast? = t.getLast? := by
  rw [← List.singleton_append, ← List.append_assoc, List.getLast?_append_of_ne_nil _ ht]

/-! ## Splitting -/

theorem splitWith_ne_nil (p : Char → Bool) (t : Text) : splitWith p t ≠ [] := by
  cases t with
  | nil => simp [splitWith]
  | cons c r =>
      by_cases hc : p c
      · simp [splitWith, hc]
      · rw [splitWith, if_neg hc]
        cases splitWith p r <;> simp

theorem splitWith_cons_of_neg {p : Char → Bool} {c : Char} (hc : p c = false) {r w : Text}
    {ws : List Text} (hr : splitWith p r = w :: ws) : splitWith p (c :: r) = (c :: w) :: ws := by
  rw [splitWith, if_neg (by simp [hc]), hr]

theorem splitWith_append {p : Char → Bool} {c : Char} (hc : p c) (t u : Text) :
    splitWith p (t ++ c :: u) = splitWith p t ++ splitWith p u := by
  induction t with
  | nil => simp [splitWith, hc]
  | cons d r ih =>
      by_cases hd : p d
      · rw [List.cons_append, splitWith, if_pos hd, ih, splitWith, if_pos hd, List.cons_append]
      · obtain ⟨w, ws, hr⟩ := List.exists_cons_of_ne_nil (splitWith_ne_nil p r)
        have hd' : p d = false := by simpa using hd
        rw [hr, List.cons_append] at ih
        rw [List.cons_append, splitWith_cons_of_neg hd' ih, splitWith_cons_of_neg hd' hr,
          List.cons_append]

theorem splitWith_of_forall {p : Char → Bool} {t : Text} (h : ∀ c ∈ t, p c = false) :
    splitWith p t = [t] := by
  induction t with
  | nil => rfl
  | cons c r ih =>
      have hr := ih fun d hd => h d (List.mem_cons_of_mem c hd)
      exact splitWith_cons_of_neg (h c List.mem_cons_self) hr

/-- A single-spaced text that neither begins nor ends with white space has no empty piece. -/
theorem splitWith_pieces_ne_nil : ∀ {t : Text}, t ≠ [] → SingleSpaced t →
    (∀ c ∈ t.head?, isBlank c = false) → (∀ c ∈ t.getLast?, isBlank c = false) →
    ∀ w ∈ splitWith isBlank t, w ≠ []
  | [], hne, _, _, _ => absurd rfl hne
  | [c], _, _, hhead, _ => by
      have hc : isBlank c = false := hhead c rfl
      simp [splitWith, hc]
  | c :: d :: r, _, ⟨hblank, hchain⟩, hhead, hlast => by
      have hc : isBlank c = false := hhead c rfl
      have htail : (d :: r).IsChain fun a b => ¬ (a = ' ' ∧ b = ' ') := hchain.tail
      have hlast' : ∀ e ∈ (d :: r).getLast?, isBlank e = false := by
        simpa [List.getLast?_cons] using hlast
      have hblank' : ∀ e ∈ d :: r, isBlank e → e = ' ' :=
        fun e he => hblank e (List.mem_cons_of_mem c he)
      by_cases hd : isBlank d = true
      · cases r with
        | nil => exact absurd (hlast' d rfl) (by simp [hd])
        | cons e r =>
            -- Behind a space comes no other white space.
            have hdsp : d = ' ' := hblank' d List.mem_cons_self hd
            have he : isBlank e = false := by
              by_contra hbe
              have hesp : e = ' ' := hblank' e (by simp) (by simpa using hbe)
              exact (List.isChain_cons_cons.mp htail).1 ⟨hdsp, hesp⟩
            have ih := splitWith_pieces_ne_nil (t := e :: r) (by simp)
              ⟨fun x hx => hblank' x (List.mem_cons_of_mem d hx), htail.tail⟩
              (by simpa using he) (by simpa [List.getLast?_cons] using hlast')
            have hsplit : splitWith isBlank (c :: d :: e :: r) =
                [c] :: splitWith isBlank (e :: r) := by
              apply splitWith_cons_of_neg hc
              rw [splitWith, if_pos hd]
            rw [hsplit]
            intro w hw
            rcases List.mem_cons.mp hw with rfl | hw
            · simp
            · exact ih w hw
      · have ih := splitWith_pieces_ne_nil (t := d :: r) (by simp) ⟨hblank', htail⟩
          (by simpa using hd) hlast'
        obtain ⟨w, ws, hr⟩ := List.exists_cons_of_ne_nil (splitWith_ne_nil isBlank (d :: r))
        rw [splitWith_cons_of_neg hc hr]
        rw [hr] at ih
        intro v hv
        rcases List.mem_cons.mp hv with rfl | hv
        · simp
        · exact ih v (List.mem_cons_of_mem w hv)

/-! ## Words -/

theorem words_append_blank {c : Char} (hc : isBlank c) (t u : Text) :
    words (t ++ c :: u) = words t ++ words u := by
  rw [words, splitWith_append hc, List.filter_append]
  rfl

theorem words_of_isWord {w : Text} (h : IsWord w) : words w = [w] := by
  rw [words, splitWith_of_forall h.2]
  simp [h.1]

theorem words_word_append {w : Text} (hw : IsWord w) (t : Text) :
    words (w ++ ' ' :: t) = w :: words t := by
  rw [words_append_blank rfl, words_of_isWord hw]
  rfl

theorem isWord_of_mem_words {t w : Text} (h : w ∈ words t) : IsWord w := by
  obtain ⟨hw, hne⟩ := List.mem_filter.mp h
  refine ⟨by simpa using hne, ?_⟩
  clear h hne
  induction t generalizing w with
  | nil => simp_all [splitWith]
  | cons c r ih =>
      obtain ⟨v, vs, hr⟩ := List.exists_cons_of_ne_nil (splitWith_ne_nil isBlank r)
      by_cases hc : isBlank c = true
      · rw [splitWith, if_pos hc] at hw
        rcases List.mem_cons.mp hw with rfl | hw
        · simp
        · exact ih hw
      · rw [splitWith_cons_of_neg (by simpa using hc) hr] at hw
        rw [hr] at ih
        rcases List.mem_cons.mp hw with rfl | hw
        · intro d hd
          rcases List.mem_cons.mp hd with rfl | hd
          · simpa using hc
          · exact ih List.mem_cons_self d hd
        · exact ih (List.mem_cons_of_mem v hw)

theorem mem_of_mem_words {t w : Text} (h : w ∈ words t) {c : Char} (hc : c ∈ w) : c ∈ t := by
  obtain ⟨hw, -⟩ := List.mem_filter.mp h
  clear h
  induction t generalizing w with
  | nil => simp_all [splitWith]
  | cons d r ih =>
      obtain ⟨v, vs, hr⟩ := List.exists_cons_of_ne_nil (splitWith_ne_nil isBlank r)
      by_cases hd : isBlank d = true
      · rw [splitWith, if_pos hd] at hw
        rcases List.mem_cons.mp hw with rfl | hw
        · simp at hc
        · exact List.mem_cons_of_mem d (ih hc hw)
      · rw [splitWith_cons_of_neg (by simpa using hd) hr] at hw
        rw [hr] at ih
        rcases List.mem_cons.mp hw with rfl | hw
        · rcases List.mem_cons.mp hc with rfl | hc
          · exact List.mem_cons_self
          · exact List.mem_cons_of_mem d (ih hc List.mem_cons_self)
        · exact List.mem_cons_of_mem d (ih hc (List.mem_cons_of_mem v hw))

/-! ## Joining -/

@[simp] theorem unwords_nil : unwords [] = [] := rfl

@[simp] theorem unwords_singleton (w : Text) : unwords [w] = w := rfl

theorem join_cons {ws : List Text} (h : ws ≠ []) (sep w : Text) :
    join sep (w :: ws) = w ++ sep ++ join sep ws := by
  obtain ⟨v, vs, rfl⟩ := List.exists_cons_of_ne_nil h
  rfl

theorem unwords_cons {ws : List Text} (h : ws ≠ []) (w : Text) :
    unwords (w :: ws) = w ++ ' ' :: unwords ws := by
  rw [unwords, join_cons h]
  simp [unwords]

theorem unwords_append {ws vs : List Text} (hw : ws ≠ []) (hv : vs ≠ []) :
    unwords (ws ++ vs) = unwords ws ++ ' ' :: unwords vs := by
  induction ws with
  | nil => exact absurd rfl hw
  | cons w ws ih =>
      cases ws with
      | nil => exact unwords_cons hv w
      | cons u us =>
          have hne : u :: us ≠ [] := List.cons_ne_nil u us
          rw [List.cons_append, unwords_cons (by simp), ih hne, unwords_cons hne,
            List.append_assoc, List.cons_append]

/-- A space stands before every word but the first. -/
theorem unwords_eq_flatMap (w : Text) (ws : List Text) :
    unwords (w :: ws) = w ++ ws.flatMap (' ' :: ·) := by
  induction ws generalizing w with
  | nil => exact (List.append_nil w).symm
  | cons v vs ih =>
      rw [unwords_cons (List.cons_ne_nil v vs), ih, List.flatMap_cons, List.cons_append]

/-- Appending to the last word appends to the text. -/
theorem unwords_append_last (ws : List Text) (w t : Text) :
    unwords (ws ++ [w ++ t]) = unwords (ws ++ [w]) ++ t := by
  cases ws with
  | nil => rfl
  | cons u us =>
      rw [unwords_append (by simp) (by simp), unwords_append (by simp) (by simp)]
      simp

theorem head?_unwords {w : Text} (hw : w ≠ []) (ws : List Text) :
    (unwords (w :: ws)).head? = w.head? := by
  obtain ⟨c, r, rfl⟩ := List.exists_cons_of_ne_nil hw
  cases ws with
  | nil => rfl
  | cons v vs => rw [unwords_cons (List.cons_ne_nil v vs)]; rfl

theorem getLast?_unwords {w : Text} (hw : w ≠ []) (ws : List Text) :
    (unwords (ws ++ [w])).getLast? = w.getLast? := by
  cases ws with
  | nil => rfl
  | cons v vs =>
      rw [unwords_append (List.cons_ne_nil v vs) (by simp)]
      exact getLast?_append_space hw _

theorem words_unwords {ws : List Text} (h : ∀ w ∈ ws, IsWord w) : words (unwords ws) = ws := by
  induction ws with
  | nil => rfl
  | cons w ws ih =>
      have hw := words_of_isWord (h w List.mem_cons_self)
      cases ws with
      | nil => exact hw
      | cons v vs =>
          rw [unwords_cons (by simp), words_append_blank rfl, hw,
            ih fun u hu => h u (List.mem_cons_of_mem w hu)]
          rfl

/-- Cutting at one character loses nothing. -/
theorem join_splitWith {p : Char → Bool} {c : Char} {t : Text} (h : ∀ d ∈ t, p d → d = c) :
    join [c] (splitWith p t) = t := by
  induction t with
  | nil => rfl
  | cons d r ih =>
      have ih := ih fun e he => h e (List.mem_cons_of_mem d he)
      by_cases hd : p d = true
      · rw [splitWith, if_pos hd, join_cons (splitWith_ne_nil p r), ih,
          h d List.mem_cons_self hd]
        rfl
      · obtain ⟨w, ws, hr⟩ := List.exists_cons_of_ne_nil (splitWith_ne_nil p r)
        rw [splitWith_cons_of_neg (by simpa using hd) hr]
        rw [hr] at ih
        rw [← ih]
        cases ws <;> simp [join]

theorem unwords_words {t : Text} (hne : t ≠ []) (h : SingleSpaced t)
    (hhead : ∀ c ∈ t.head?, isBlank c = false) (hlast : ∀ c ∈ t.getLast?, isBlank c = false) :
    unwords (words t) = t := by
  have hpieces := splitWith_pieces_ne_nil hne h hhead hlast
  rw [words, List.filter_eq_self.mpr fun w hw => by simpa using hpieces w hw]
  exact join_splitWith h.1

theorem mem_join {sep : Text} {ws : List Text} {c : Char} (h : c ∈ join sep ws) :
    c ∈ sep ∨ ∃ w ∈ ws, c ∈ w := by
  induction ws with
  | nil => simp [join] at h
  | cons w ws ih =>
      cases ws with
      | nil => exact .inr ⟨w, List.mem_cons_self, h⟩
      | cons v vs =>
          rw [join_cons (List.cons_ne_nil v vs), List.mem_append, List.mem_append] at h
          rcases h with (h | h) | h
          · exact .inr ⟨w, List.mem_cons_self, h⟩
          · exact .inl h
          · exact (ih h).imp_right fun ⟨u, hu, hc⟩ => ⟨u, List.mem_cons_of_mem w hu, hc⟩

theorem mem_unwords {ws : List Text} {c : Char} (h : c ∈ unwords ws) :
    c = ' ' ∨ ∃ w ∈ ws, c ∈ w :=
  (mem_join h).imp_left List.mem_singleton.mp

/-- What is glued to a text is glued to its last word. -/
theorem words_append_of_unwords {t : Text} {us : List Text} {u p : Text}
    (ht : unwords (words t) = t) (hus : words t = us ++ [u]) (hp : ∀ c ∈ p, isBlank c = false) :
    words (t ++ p) = us ++ [u ++ p] := by
  have hword : ∀ w ∈ us ++ [u ++ p], IsWord w := by
    intro w hw
    rcases List.mem_append.mp hw with hw | hw
    · exact isWord_of_mem_words (t := t) (by simp [hus, hw])
    · obtain rfl := List.mem_singleton.mp hw
      obtain ⟨hne, hdense⟩ := isWord_of_mem_words (t := t) (w := u) (by simp [hus])
      exact ⟨by simp [hne], fun c hc => (List.mem_append.mp hc).elim (hdense c) (hp c)⟩
  rw [← ht, hus, ← unwords_append_last, words_unwords hword]

/-! ## Trimming -/

theorem dropEndWhile_eq_self {p : Char → Bool} {t : Text} (h : ∀ c ∈ t.getLast?, p c = false) :
    dropEndWhile p t = t := by
  rcases List.eq_nil_or_concat t with rfl | ⟨l, c, rfl⟩
  · rfl
  · have hc : p c = false := h c (by simp)
    simp [dropEndWhile, hc]

theorem dropEndWhile_append {p : Char → Bool} {u : Text} (h : ∀ c ∈ u, p c) (t : Text) :
    dropEndWhile p (t ++ u) = dropEndWhile p t := by
  rw [dropEndWhile, List.reverse_append,
    List.dropWhile_append_of_pos fun c hc => h c (List.mem_reverse.mp hc)]
  rfl

theorem trimMatches_eq_self {p : Char → Bool} {t : Text} (hhead : ∀ c ∈ t.head?, p c = false)
    (hlast : ∀ c ∈ t.getLast?, p c = false) : trimMatches p t = t := by
  have hfront : t.dropWhile p = t := by
    cases t with
    | nil => rfl
    | cons c r =>
        have hc : p c = false := hhead c rfl
        simp [hc]
  rw [trimMatches, hfront, dropEndWhile_eq_self hlast]

theorem trim_eq_self {t : Text} (hhead : ∀ c ∈ t.head?, isBlank c = false)
    (hlast : ∀ c ∈ t.getLast?, isBlank c = false) : trim t = t :=
  trimMatches_eq_self hhead hlast

/-! ## Heads and tails -/

theorem dropHead?_eq_some {head t r : Text} (h : dropHead? head t = some r) : t = head ++ r := by
  induction head generalizing t with
  | nil => simpa [dropHead?] using h
  | cons c cs ih =>
      cases t with
      | nil => simp [dropHead?] at h
      | cons d ds =>
          rw [dropHead?] at h
          split at h
          · next hcd => rw [hcd, ih h, List.cons_append]
          · simp at h

theorem dropTail?_eq_some {tail t r : Text} (h : dropTail? tail t = some r) : t = r ++ tail := by
  obtain ⟨v, hv, rfl⟩ := Option.map_eq_some_iff.mp h
  have hrev := congrArg List.reverse (dropHead?_eq_some hv)
  simpa using hrev

end PlainSteps.Text
