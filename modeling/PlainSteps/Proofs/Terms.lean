import PlainSteps.Proofs.Quotation
import PlainSteps.Sentence.Lexicon
import PlainSteps.Sentence.Segment

/-!
# Terms spell words

The lexicon cuts a word at its hyphens and loses nothing: the terms spell the word
(`spells_tagWord`), have its quotes (`Spells.quotes`), and a segment that takes all of them takes
the word whole (`Spells.pushAll`). The terms of a quoted span begin with its opening quote, end
with its closing quote, and are nouns (`isSpan_tagWords`).
-/

namespace PlainSteps.Sentence

/-! ## Closing quotes -/

theorem escapedBehind_concat {c : Char} (hc : c ≠ '\\') (e : Bool) (s : Text) :
    escapedBehind e (s ++ [c]) = false := by
  rw [escapedBehind_append]
  simp [escapedBehind, hc]

theorem quoteCount_append {s : Text} (hs : escapedBehind false s = false) (t : Text) :
    quoteCount (s ++ t) = quoteCount s + quoteCount t := by
  rw [quoteCount, countQuotes_append, hs]
  rfl

theorem quoteCount_cons_quote (t : Text) : 0 < quoteCount ('"' :: t) := by
  rw [quoteCount, countQuotes_cons]
  exact Nat.add_pos_left (by simp) _

theorem quoteCount_pos_of_head {t : Text} (h : t.head? = some '"') : 0 < quoteCount t := by
  cases t with
  | nil => simp at h
  | cons c r =>
      obtain rfl : c = '"' := by simpa using h
      exact quoteCount_cons_quote r

/-- The text ends in a double quote and `p`, and no backslash shields the quote. -/
def Closes (p t : Text) : Prop := ∃ s, t = s ++ '"' :: p ∧ escapedBehind false s = false

theorem Closes.quotes {p t : Text} (h : Closes p t) : 0 < quoteCount t := by
  obtain ⟨s, rfl, hs⟩ := h
  rw [quoteCount_append hs]
  exact Nat.add_pos_right _ (quoteCount_cons_quote p)

/-- What stands in front can be taken away, unless the cut falls into the ending. -/
theorem Closes.of_append {p t u : Text} {c : Char} (h : Closes p ((t ++ [c]) ++ u))
    (hc : c ≠ '\\') (hp : c ∉ '"' :: p) : Closes p u := by
  obtain ⟨s, hs, hesc⟩ := h
  rcases List.append_eq_append_iff.mp hs with ⟨v, rfl, hu⟩ | ⟨v, htc, hq⟩
  · refine ⟨v, hu, ?_⟩
    rwa [escapedBehind_append, escapedBehind_concat hc] at hesc
  · rcases List.eq_nil_or_concat' v with rfl | ⟨v, d, rfl⟩
    · exact ⟨[], by simpa using hq.symm, rfl⟩
    · -- Otherwise the last character of the cut is one of the ending.
      rw [← List.append_assoc] at htc
      obtain ⟨-, hcd⟩ := List.append_inj' htc rfl
      obtain rfl : c = d := by simpa using hcd
      exact absurd (by rw [hq]; simp) hp

/-! ## Parts of a word -/

/-- The terms spell the word, all but the last ending in a hyphen; all but the first, and the
first as well if `later`, are later parts of a hyphenated word. -/
inductive Spells : (later : Bool) → Text → List Term → Prop
  | last {later : Bool} {t : Term} (hlater : t.hyphenated = later) : Spells later t.raw [t]
  | cons {later : Bool} {t : Term} {w : Text} {ts : List Term} (hlater : t.hyphenated = later)
      (hhyphen : t.raw.getLast? = some '-') (h : Spells true w ts) :
      Spells later (t.raw ++ w) (t :: ts)

theorem spells_tagLaterParts (post : Text) (q : Bool) {parts : List Text} (h : parts ≠ []) :
    Spells true (Text.join ['-'] parts ++ post) (tagLaterParts post q parts) := by
  induction parts with
  | nil => exact absurd rfl h
  | cons p r ih =>
      cases r with
      | nil => exact .last (t := tagPart [] p post false q true) rfl
      | cons u r =>
          have htail := ih (List.cons_ne_nil u r)
          have hraw : (tagPart [] p ['-'] false q true).raw = p ++ ['-'] := rfl
          have h := Spells.cons (t := tagPart [] p ['-'] false q true) rfl (by simp [hraw]) htail
          rw [hraw] at h
          rw [Text.join_cons (List.cons_ne_nil u r), List.append_assoc]
          exact h

theorem spells_tagParts (pre post : Text) (f q : Bool) {parts : List Text} (h : parts ≠ []) :
    Spells false (pre ++ Text.join ['-'] parts ++ post) (tagParts pre post f q parts) := by
  cases parts with
  | nil => exact absurd rfl h
  | cons p r =>
      cases r with
      | nil => exact .last (t := tagPart pre p post f q false) rfl
      | cons u r =>
          have htail := spells_tagLaterParts post q (List.cons_ne_nil u r)
          have hraw : (tagPart pre p ['-'] f q false).raw = pre ++ p ++ ['-'] := rfl
          have h := Spells.cons (t := tagPart pre p ['-'] f q false) rfl (by simp [hraw]) htail
          rw [hraw] at h
          rw [Text.join_cons (List.cons_ne_nil u r), ← List.append_assoc, ← List.append_assoc,
            List.append_assoc]
          exact h

theorem join_hyphenParts (w : Text) : Text.join ['-'] (hyphenParts w) = w := by
  have hsplit : Text.join ['-'] (Text.splitWith (· == '-') w) = w :=
    Text.join_splitWith fun d _ hd => by simpa using hd
  rw [hyphenParts]
  split
  · exact hsplit
  · rfl

/-- A word with another character than letters, digits and hyphens is no hyphenated word. -/
theorem hyphenParts_of_mem {w : Text} {c : Char} (hc : c ∈ w) (halnum : isAlphanumeric c = false)
    (hhyphen : c ≠ '-') : hyphenParts w = [w] := by
  have hjoin : Text.join ['-'] (Text.splitWith (· == '-') w) = w :=
    Text.join_splitWith fun d _ hd => by simpa using hd
  rw [hyphenParts]
  refine if_neg fun hall => ?_
  rw [← hjoin] at hc
  rcases Text.mem_join hc with hc | ⟨v, hv, hc⟩
  · exact hhyphen (List.mem_singleton.mp hc)
  · have hpart := List.all_eq_true.mp hall v hv
    rw [Bool.and_eq_true, List.all_eq_true] at hpart
    rw [hpart.2 c hc] at halnum
    exact absurd halnum (by decide)

theorem hyphenParts_ne_nil (w : Text) : hyphenParts w ≠ [] := by
  rw [hyphenParts]
  split
  · exact Text.splitWith_ne_nil _ w
  · simp

theorem dropEndWhile_append_takeEndWhile (p : Char → Bool) (t : Text) :
    Text.dropEndWhile p t ++ Text.takeEndWhile p t = t := by
  rw [Text.dropEndWhile, Text.takeEndWhile, ← List.reverse_append,
    List.takeWhile_append_dropWhile, List.reverse_reverse]

theorem spells_tagWord (f q : Bool) (w : Text) : Spells false w (tagWord f q w) := by
  have h := spells_tagParts (w.takeWhile (· == '"'))
    (Text.takeEndWhile isTrailing (w.dropWhile (· == '"'))) f q
    (hyphenParts_ne_nil (Text.dropEndWhile isTrailing (w.dropWhile (· == '"'))))
  rw [join_hyphenParts, List.append_assoc, dropEndWhile_append_takeEndWhile,
    List.takeWhile_append_dropWhile] at h
  exact h

/-! ## What the terms of a word have in common with it -/

theorem escapedBehind_of_hyphen {t : Text} (h : t.getLast? = some '-') :
    escapedBehind false t = false := by
  obtain ⟨s, rfl⟩ := List.getLast?_eq_some_iff.mp h
  exact escapedBehind_concat (by decide) false s

def Term.quotes (t : Term) : ℕ := quoteCount t.raw

theorem Term.togglesQuote_of_quotes {t : Term} (h : t.quotes = 0) : t.togglesQuote = false := by
  rw [togglesQuote, ← quotes, h]
  rfl

theorem Spells.quotes {later : Bool} {w : Text} {ts : List Term} (h : Spells later w ts) :
    (ts.map Term.quotes).sum = quoteCount w := by
  induction h with
  | last => simp [Term.quotes]
  | cons _ hhyphen _ ih =>
      rw [quoteCount_append (escapedBehind_of_hyphen hhyphen), List.map_cons, List.sum_cons, ih]
      rfl

theorem Spells.exists_head {later : Bool} {w : Text} {ts : List Term} (h : Spells later w ts) :
    ∃ t r, ts = t :: r ∧ t.raw.head? = w.head? := by
  cases h with
  | last => exact ⟨_, [], rfl, rfl⟩
  | @cons _ t w ts _ hhyphen _ =>
      refine ⟨t, ts, rfl, ?_⟩
      cases hraw : t.raw with
      | nil => simp [hraw] at hhyphen
      | cons c r => rfl

theorem Spells.exists_last {later : Bool} {w p : Text} {ts : List Term} (h : Spells later w ts)
    (hp : ∀ c ∈ p, isTrailing c) (hw : Closes p w) : ∃ r t, ts = r ++ [t] ∧ Closes p t.raw := by
  induction h with
  | @last later t hlater => exact ⟨[], t, rfl, hw⟩
  | @cons _ t w ts _ hhyphen _ ih =>
      obtain ⟨s, hs⟩ := List.getLast?_eq_some_iff.mp hhyphen
      have hnot : '-' ∉ '"' :: p := by
        intro hmem
        rcases List.mem_cons.mp hmem with hq | hmem
        · exact absurd hq (by decide)
        · exact absurd (hp _ hmem) (by decide)
      rw [hs] at hw
      obtain ⟨r, u, rfl, hu⟩ := ih (hw.of_append (by decide) hnot)
      exact ⟨t :: r, u, rfl, hu⟩

/-! ## Taking terms -/

/-- A segment takes terms. -/
def Segment.pushAll (s : Segment) (ts : List Term) : Segment :=
  ts.foldl (fun s t => s.push t.raw t.hyphenated) s

theorem Segment.push_new (k : SegmentKind) (ws : List Text) (w : Text) :
    Segment.push ⟨k, ws⟩ w false = ⟨k, ws ++ [w]⟩ := by
  rw [Segment.push]
  split <;> simp

theorem Segment.push_later (k : SegmentKind) (ws : List Text) {v : Text}
    (hv : v.getLast? = some '-') (w : Text) :
    Segment.push ⟨k, ws ++ [v]⟩ w true = ⟨k, ws ++ [v ++ w]⟩ := by
  simp [Segment.push, hv]

theorem Spells.pushAll_later {w : Text} {ts : List Term} (h : Spells true w ts)
    (k : SegmentKind) (ws : List Text) {v : Text} (hv : v.getLast? = some '-') :
    Segment.pushAll ⟨k, ws ++ [v]⟩ ts = ⟨k, ws ++ [v ++ w]⟩ := by
  generalize hl : true = later at h
  induction h generalizing v with
  | last hlater =>
      rw [Segment.pushAll, List.foldl_cons, hlater, ← hl, Segment.push_later k ws hv]
      rfl
  | @cons later t w ts hlater hhyphen _ ih =>
      have hlast : (v ++ t.raw).getLast? = some '-' := by
        rw [List.getLast?_append, hhyphen]
        rfl
      have ih := ih hlast rfl
      rw [Segment.pushAll, List.foldl_cons, hlater, ← hl, Segment.push_later k ws hv]
      rw [List.append_assoc] at ih
      exact ih

/-- The parts of a word are put together again. -/
theorem Spells.pushAll {w : Text} {ts : List Term} (h : Spells false w ts) (k : SegmentKind)
    (ws : List Text) : Segment.pushAll ⟨k, ws⟩ ts = ⟨k, ws ++ [w]⟩ := by
  cases h with
  | last hlater =>
      rw [Segment.pushAll, List.foldl_cons, hlater, Segment.push_new]
      rfl
  | cons hlater hhyphen htail =>
      rw [Segment.pushAll, List.foldl_cons, hlater, Segment.push_new]
      exact htail.pushAll_later k ws hhyphen

/-! ## Terms of several words -/

/-- A quoted span is open behind the words. -/
def inQuoteBehind (inQuote : Bool) (ws : List Text) : Bool :=
  ws.foldl (fun b w => b != (quoteCount w % 2 == 1)) inQuote

theorem tagWords_append (q : Bool) (ws vs : List Text) :
    tagWords false q (ws ++ vs) =
      tagWords false q ws ++ tagWords false (inQuoteBehind q ws) vs := by
  induction ws generalizing q with
  | nil => rfl
  | cons w ws ih => rw [List.cons_append, tagWords, ih, tagWords, List.append_assoc]; rfl

theorem inQuoteBehind_of_sum {n : ℕ} (ws : List Text) :
    inQuoteBehind (n % 2 == 1) ws = ((n + (ws.map quoteCount).sum) % 2 == 1) := by
  induction ws generalizing n with
  | nil => rfl
  | cons w ws ih =>
      have hstep : ((n % 2 == 1) != (quoteCount w % 2 == 1)) = ((n + quoteCount w) % 2 == 1) := by
        rcases Nat.mod_two_eq_zero_or_one n with hn | hn <;>
          rcases Nat.mod_two_eq_zero_or_one (quoteCount w) with hw | hw <;>
          simp [Nat.add_mod, hn, hw]
      rw [inQuoteBehind, List.foldl_cons, hstep, List.map_cons, List.sum_cons, ← Nat.add_assoc]
      exact ih

theorem quotes_tagWords (first q : Bool) (ws : List Text) :
    ((tagWords first q ws).map Term.quotes).sum = (ws.map quoteCount).sum := by
  induction ws generalizing first q with
  | nil => rfl
  | cons w ws ih =>
      rw [tagWords, List.map_append, List.sum_append, ih, (spells_tagWord _ _ w).quotes,
        List.map_cons, List.sum_cons]

theorem pushAll_tagWords (q : Bool) (ws : List Text) (k : SegmentKind) (vs : List Text) :
    Segment.pushAll ⟨k, vs⟩ (tagWords false q ws) = ⟨k, vs ++ ws⟩ := by
  induction ws generalizing q vs with
  | nil => simp [tagWords, Segment.pushAll]
  | cons w ws ih =>
      have hw := (spells_tagWord false (q || quoteCount w > 0) w).pushAll k vs
      have hws := ih (q != (quoteCount w % 2 == 1)) (vs ++ [w])
      rw [Segment.pushAll] at hw hws
      rw [tagWords, Segment.pushAll, List.foldl_append, hw, hws]
      simp

/-! ## Quoted spans -/

/-- What may stand directly behind a phrase: nothing, or the full stop of its sentence. -/
def IsStop (p : Text) : Prop := p = [] ∨ p = ['.']

theorem IsStop.trailing {p : Text} (hp : IsStop p) : ∀ c ∈ p, isTrailing c := by
  rcases hp with rfl | rfl <;> decide

theorem IsStop.dense {p : Text} (hp : IsStop p) : ∀ c ∈ p, isBlank c = false := by
  rcases hp with rfl | rfl <;> decide

theorem IsStop.quoteCount {p : Text} (hp : IsStop p) : quoteCount p = 0 := by
  rcases hp with rfl | rfl <;> rfl

theorem IsStop.isWord {w p : Text} (hp : IsStop p) (hw : Text.IsWord w) : Text.IsWord (w ++ p) := by
  refine ⟨by simp [hw.1], fun c hc => ?_⟩
  rcases List.mem_append.mp hc with hc | hc
  · exact hw.2 c hc
  · exact hp.dense c hc

/-- One item has both quotes of a span, or the first and the last have one each and the items
between them none. -/
inductive IsSpan {α : Type} (f : α → ℕ) : List α → Prop
  | whole {x : α} (hx : f x = 2) : IsSpan f [x]
  | split {x y : α} {mid : List α} (hx : f x = 1) (hmid : ∀ m ∈ mid, f m = 0) (hy : f y = 1) :
      IsSpan f (x :: (mid ++ [y]))

theorem IsSpan.exists_head {α : Type} {f : α → ℕ} {xs : List α} (h : IsSpan f xs) :
    ∃ x r, xs = x :: r ∧ 0 < f x := by
  cases h with
  | whole hx => exact ⟨_, [], rfl, by omega⟩
  | split hx => exact ⟨_, _, rfl, by omega⟩

theorem isSpan_of_sum {α : Type} {f : α → ℕ} {xs : List α} (hsum : (xs.map f).sum = 2)
    (hhead : ∃ x r, xs = x :: r ∧ 0 < f x) (hlast : ∃ r y, xs = r ++ [y] ∧ 0 < f y) :
    IsSpan f xs := by
  obtain ⟨x, r, rfl, hx⟩ := hhead
  obtain ⟨r', y, hxs, hy⟩ := hlast
  rcases List.eq_nil_or_concat' r with rfl | ⟨mid, z, rfl⟩
  · exact .whole (by simpa using hsum)
  · obtain ⟨-, hzy⟩ := List.append_inj' (show (x :: mid) ++ [z] = r' ++ [y] from hxs) rfl
    obtain rfl : z = y := by simpa using hzy
    have hsum' : f x + ((mid.map f).sum + f z) = 2 := by simpa using hsum
    have hmid : (mid.map f).sum = 0 := by omega
    refine .split (by omega) (fun m hm => ?_) (by omega)
    exact List.sum_eq_zero_iff_forall_eq_nat.mp hmid _ (List.mem_map_of_mem hm)

theorem quoteCount_unwords (ws : List Text) :
    quoteCount (Text.unwords ws) = (ws.map quoteCount).sum := by
  induction ws with
  | nil => rfl
  | cons w ws ih =>
      cases ws with
      | nil => simp
      | cons v vs =>
          have hsplit : Text.unwords (w :: v :: vs) = (w ++ [' ']) ++ Text.unwords (v :: vs) := by
            rw [Text.unwords_cons (List.cons_ne_nil v vs), List.append_assoc]
            rfl
          have hspace : quoteCount (w ++ [' ']) = quoteCount w := by
            have hblank : ∀ c ∈ [' '], c ≠ '"' := by decide
            rw [quoteCount, countQuotes_append, countQuotes_of_forall hblank]
            rfl
          rw [hsplit, quoteCount_append (escapedBehind_concat (by decide) false w), hspace, ih]
          rfl

theorem exists_last_of_closes {p : Text} (hp : IsStop p) {ws : List Text}
    (h : Closes p (Text.unwords ws)) : ∃ r w, ws = r ++ [w] ∧ Closes p w := by
  induction ws with
  | nil =>
      obtain ⟨s, hs, -⟩ := h
      simp at hs
  | cons w ws ih =>
      cases ws with
      | nil => exact ⟨[], w, rfl, h⟩
      | cons v vs =>
          have hnot : ' ' ∉ '"' :: p := by rcases hp with rfl | rfl <;> decide
          have hsplit : Text.unwords (w :: v :: vs) = (w ++ [' ']) ++ Text.unwords (v :: vs) := by
            rw [Text.unwords_cons (List.cons_ne_nil v vs), List.append_assoc]
            rfl
          rw [hsplit] at h
          obtain ⟨r, u, hr, hu⟩ := ih (h.of_append (by decide) hnot)
          exact ⟨w :: r, u, by rw [hr]; rfl, hu⟩

theorem closes_quoted {t : Text} (ht : EvenBackslashes t) (p : Text) :
    Closes p (quoted t ++ p) := by
  have hspan := escapeQuotes_of_evenRuns ((evenBackslashes_iff t).mp ht)
  refine ⟨'"' :: escapeQuotes t, by simp [quoted], ?_⟩
  simp [escapedBehind, hspan]

section Quoted

variable {t p : Text} (ht : Quotable t) (hp : IsStop p)
include ht hp

theorem sum_words_quoted : ((Text.words (quoted t ++ p)).map quoteCount).sum = 2 := by
  rw [← quoteCount_unwords, unwords_words_quoted ht.1 hp.dense,
    quoteCount_append (escapedBehind_quoted ht.2), quoteCount_quoted ht.2, hp.quoteCount]

theorem exists_head_words_quoted :
    ∃ w r, Text.words (quoted t ++ p) = w :: r ∧ w.head? = some '"' := by
  have hjoin := unwords_words_quoted ht.1 hp.dense
  cases hws : Text.words (quoted t ++ p) with
  | nil =>
      rw [hws] at hjoin
      simp [quoted] at hjoin
  | cons w r =>
      refine ⟨w, r, rfl, ?_⟩
      obtain ⟨hne, -⟩ := Text.isWord_of_mem_words (t := quoted t ++ p) (w := w) (by simp [hws])
      rw [hws] at hjoin
      rw [← Text.head?_unwords hne r, hjoin]
      rfl

theorem exists_last_words_quoted :
    ∃ r w, Text.words (quoted t ++ p) = r ++ [w] ∧ Closes p w := by
  apply exists_last_of_closes hp
  rw [unwords_words_quoted ht.1 hp.dense]
  exact closes_quoted ht.2 p

theorem isSpan_words : IsSpan quoteCount (Text.words (quoted t ++ p)) := by
  obtain ⟨w, r, hwr, hw⟩ := exists_head_words_quoted ht hp
  obtain ⟨r', v, hrv, hv⟩ := exists_last_words_quoted ht hp
  exact isSpan_of_sum (sum_words_quoted ht hp) ⟨w, r, hwr, quoteCount_pos_of_head hw⟩
    ⟨r', v, hrv, hv.quotes⟩

theorem isSpan_tagWords :
    IsSpan Term.quotes (tagWords false false (Text.words (quoted t ++ p))) := by
  apply isSpan_of_sum
  · rw [quotes_tagWords, sum_words_quoted ht hp]
  · obtain ⟨w, r, hwr, hw⟩ := exists_head_words_quoted ht hp
    obtain ⟨u, us, hus, hu⟩ := (spells_tagWord false (false || quoteCount w > 0) w).exists_head
    rw [hwr, tagWords, hus]
    exact ⟨u, _, rfl, quoteCount_pos_of_head (hu.trans hw)⟩
  · obtain ⟨r, w, hrw, hw⟩ := exists_last_words_quoted ht hp
    obtain ⟨us, u, hus, hu⟩ := (spells_tagWord false
      (inQuoteBehind false r || quoteCount w > 0) w).exists_last hp.trailing hw
    rw [hrw, tagWords_append, tagWords, hus]
    refine ⟨tagWords false false r ++ us, u, ?_, hu.quotes⟩
    simp [tagWords]

theorem inQuoteBehind_quoted : inQuoteBehind false (Text.words (quoted t ++ p)) = false := by
  have h := inQuoteBehind_of_sum (n := 0) (Text.words (quoted t ++ p))
  rw [sum_words_quoted ht hp] at h
  exact h

end Quoted

/-! ## Roles -/

theorem exists_of_mem_tagLaterParts {post : Text} {q : Bool} {parts : List Text} {t : Term}
    (h : t ∈ tagLaterParts post q parts) :
    ∃ part post, t = tagPart [] part post false q true := by
  induction parts with
  | nil => simp [tagLaterParts] at h
  | cons p r ih =>
      cases r with
      | nil => exact ⟨p, post, by simpa [tagLaterParts] using h⟩
      | cons u r =>
          rcases List.mem_cons.mp h with rfl | h
          · exact ⟨p, ['-'], rfl⟩
          · exact ih h

theorem exists_of_mem_tagWord {f q : Bool} {w : Text} {t : Term} (h : t ∈ tagWord f q w) :
    ∃ pre part post f later, t = tagPart pre part post f q later := by
  rw [tagWord] at h
  generalize hyphenParts (Text.dropEndWhile isTrailing (w.dropWhile (· == '"'))) = parts at h
  cases parts with
  | nil => simp [tagParts] at h
  | cons p r =>
      cases r with
      | nil => exact ⟨_, p, _, f, false, by simpa [tagParts] using h⟩
      | cons u r =>
          rcases List.mem_cons.mp h with rfl | h
          · exact ⟨_, p, ['-'], f, false, rfl⟩
          · obtain ⟨part, post, rfl⟩ := exists_of_mem_tagLaterParts h
            exact ⟨[], part, post, false, true, rfl⟩

/-- A word inside or next to quotes is a noun, whatever it is. -/
theorem role_of_mem_tagWord {f : Bool} {w : Text} {t : Term} (h : t ∈ tagWord f true w) :
    t.role = .noun := by
  obtain ⟨_, _, _, _, _, rfl⟩ := exists_of_mem_tagWord h
  rfl

theorem role_of_mem_tagWords_inQuote {ws : List Text} (h : ∀ w ∈ ws, quoteCount w = 0) (v : Text)
    {t : Term} (ht : t ∈ tagWords false true (ws ++ [v])) : t.role = .noun := by
  induction ws with
  | nil =>
      have hv : t ∈ tagWord false true v := by simpa [tagWords] using ht
      exact role_of_mem_tagWord hv
  | cons w ws ih =>
      rw [List.cons_append, tagWords, h w List.mem_cons_self] at ht
      rcases List.mem_append.mp ht with ht | ht
      · exact role_of_mem_tagWord ht
      · exact ih (fun u hu => h u (List.mem_cons_of_mem w hu)) ht

theorem IsSpan.role_of_mem {ws : List Text} (h : IsSpan quoteCount ws) {t : Term}
    (ht : t ∈ tagWords false false ws) : t.role = .noun := by
  cases h with
  | @whole w hw =>
      have hmem : t ∈ tagWord false true w := by simpa [tagWords, hw] using ht
      exact role_of_mem_tagWord hmem
  | @split w v mid hw hmid hv =>
      rw [tagWords, hw] at ht
      rcases List.mem_append.mp ht with ht | ht
      · exact role_of_mem_tagWord ht
      · exact role_of_mem_tagWords_inQuote hmid v ht

end PlainSteps.Sentence
