import PlainSteps.Proofs.Phrases

/-!
# Pieces of phrases

What stands behind a connector word is put together from pieces: keywords, quoted texts and names
in braces. `Phrase.ofPiece` puts a connector in front.
-/

namespace PlainSteps.Sentence

/-! ## Keywords and names -/

/-- A word that lies in one clause and is no part of a pair. -/
structure IsKeyword (w : Text) : Prop extends Plain w where
  word : Text.IsWord w
  seamless : Seamless {} w {}
  unpaired : Unpaired w

/-- The keywords of canonical sentences, and the verbs of assertions. -/
def keywords : List Text :=
  (["the", "section", "value", "text", "pattern", "variable", "accessible", "description", "error",
    "message"] : List Text) ++ assertionVerbs.map (·.1)

theorem isKeyword_of_mem {w : Text} (hw : w ∈ keywords) : IsKeyword w := by
  have hword : ∀ w ∈ keywords, Text.IsWord w := by decide
  have halnum : ∀ w ∈ keywords, ∀ c ∈ w, isAlphanumeric c := by decide
  have hrole : ∀ w ∈ keywords, Text.toLower w ∉ connectors ++ negations ++ conjunctions := by
    decide
  have hpair : ∀ w ∈ keywords, ∀ e ∈ wordPairs, e.2.1 ≠ Text.toLower w := by decide
  exact ⟨plain_of_alphanumeric (halnum w hw) (hrole w hw), hword w hw,
    seamless_ordinary (List.all_eq_true.mpr fun c hc =>
      isOrdinary_of_isAlphanumeric (halnum w hw c hc)) 0,
    unpaired_of_forall (hpair w hw)⟩

/-- A name that can stand in braces. -/
def IsName (name : Text) : Prop :=
  name ≠ [] ∧ ∀ c ∈ name, isBlank c = false ∧ c ≠ '"' ∧ c ≠ '\\' ∧ c ≠ '{' ∧ c ≠ '}'

instance (name : Text) : Decidable (IsName name) := inferInstanceAs (Decidable (_ ∧ _))

theorem IsName.seamless {name : Text} (h : IsName name) (d : ℕ) :
    Seamless { depth := d + 1 } name { depth := d + 1 } := by
  refine seamless_inBraces (fun c hc => ?_) d
  obtain ⟨hblank, hquote, hslash, hopen, hclose⟩ := h.2 c hc
  refine ⟨hslash, hquote, hopen, hclose, ?_⟩
  rintro rfl
  exact absurd hblank (by decide)

theorem isKeyword_inBraces {t : Text} (h : ∀ c ∈ t, isBlank c = false ∧ c ≠ '"')
    (hseamless : Seamless { depth := 1 } t { depth := 1 }) : IsKeyword ('{' :: t ++ ['}']) where
  toPlain := by
    refine plain_of_brace (v := '{' :: t) fun c hc => ?_
    rcases List.mem_cons.mp hc with rfl | hc
    · decide
    · exact (h c hc).2
  word := by
    refine ⟨by simp, fun c hc => ?_⟩
    rcases List.mem_append.mp hc with hc | hc
    · rcases List.mem_cons.mp hc with rfl | hc
      · rfl
      · exact (h c hc).1
    · obtain rfl := List.mem_singleton.mp hc
      rfl
  seamless := seamless_nested hseamless
  unpaired := unpaired_of_brace (t ++ ['}'])

theorem isKeyword_braced {name : Text} (h : IsName name) : IsKeyword ('{' :: name ++ ['}']) :=
  isKeyword_inBraces (fun c hc => ⟨(h.2 c hc).1, (h.2 c hc).2.1⟩) (h.seamless 0)

/-! ## Pieces -/

/-- A text that can stand behind a connector word, anywhere in its phrase. -/
structure Piece where
  text : Text
  /-- The words that the piece leaves in its segment, if a stop `p` ends the piece. -/
  out : (p : Text) → List Text
  nonempty : text ≠ []
  last : ∀ c ∈ text.getLast?, isBlank c = false
  seamless : Seamless {} text {}
  ends : ∀ {p : Text}, IsStop p → ∀ t ∈ (termsOf (text ++ p)).getLast?, t.role ≠ .conjunction
  reads : ∀ {p : Text}, IsStop p → ∀ (k : Connector) (ws : List Text) (closed : List Segment)
    (n : Bool), Reads (.behind k ws closed n) (Text.words (text ++ p))
      (.behind k (ws ++ out p) closed n)

namespace Piece

theorem termsOf_append (x : Piece) (u : Text) :
    termsOf (x.text ++ ' ' :: u) = termsOf x.text ++ termsOf u := by
  have h := (x.reads (p := []) (.inl rfl) .on_ [] [] false).balanced
  rw [List.append_nil] at h
  rw [termsOf, Text.words_append_blank rfl, tagWords_append_of_balanced h]
  rfl

theorem ends_self (x : Piece) : ∀ t ∈ (termsOf x.text).getLast?, t.role ≠ .conjunction := by
  have h := x.ends (p := []) (.inl rfl)
  rwa [List.append_nil] at h

/-- Two pieces with a space between them. -/
def append (x y : Piece) : Piece where
  text := x.text ++ ' ' :: y.text
  out p := x.out [] ++ y.out p
  nonempty := by simp
  last := by
    rw [Text.getLast?_append_space y.nonempty]
    exact y.last
  seamless := by
    have hspace : Seamless {} [' '] {} := seamless_ordinary (by decide) 0
    exact x.seamless.append (hspace.append y.seamless)
  ends {p} hp t ht := by
    rw [List.append_assoc, List.cons_append, x.termsOf_append, List.getLast?_append] at ht
    cases hlast : (termsOf (y.text ++ p)).getLast? with
    | some u =>
        rw [hlast] at ht
        obtain rfl : u = t := Option.some.inj ht
        exact y.ends hp u hlast
    | none =>
        rw [hlast] at ht
        exact x.ends_self t ht
  reads {p} hp k ws closed n := by
    have hx := x.reads (.inl rfl) k ws closed n
    have hy := y.reads hp k (ws ++ x.out []) closed n
    rw [List.append_nil] at hx
    rw [List.append_assoc, List.cons_append, Text.words_append_blank rfl, ← List.append_assoc]
    exact hx.append hy fun t ht _ _ hcut => x.ends_self t ht hcut.1

/-- A keyword or a name in braces. -/
def word (w : Text) (hw : IsKeyword w) : Piece where
  text := w
  out p := [w ++ p]
  nonempty := hw.word.1
  last c hc := hw.word.2 c (List.mem_of_getLast? hc)
  seamless := hw.seamless
  ends {p} hp t ht := by
    rw [termsOf, Text.words_of_isWord (hp.isWord hw.word), hw.tagWords hp] at ht
    obtain rfl : tagPart [] w p false false false = t := Option.some.inj ht
    exact hw.conjunction
  reads {p} hp k ws closed n := by
    have hplain : ∀ v ∈ [w], Plain v := fun v hv => List.mem_singleton.mp hv ▸ hw.toPlain
    have hterms := tagWords_of_solid fun v hv => (hplain v hv).toSolid
    rw [Text.words_of_isWord (hp.isWord hw.word)]
    refine @reads_verbatim [] w p (fun v hv => (hplain v hv).quotes) hp
      (verbatim_plain hplain (.singleton _)) ?_ k ws closed n
    rw [List.nil_append, hterms]
    rintro t ht
    obtain rfl : tagPart [] w [] false false false = t := Option.some.inj ht
    exact hw.unpaired

/-- A quoted text. -/
def quote (t : Text) (ht : Quotable t) : Piece where
  text := quoted t
  out p := Text.words (quoted t ++ p)
  nonempty := by simp [quoted]
  last c hc := by
    rw [getLast?_quoted] at hc
    obtain rfl : '"' = c := Option.some.inj hc
    rfl
  seamless := seamless_quoted ht.2 0
  ends {p} hp u hu := by
    rw [(isSpan_words ht hp).role_of_mem (List.mem_of_getLast? hu)]
    decide
  reads hp k ws closed n := reads_quoted ht hp k ws closed n

end Piece

/-! ## Phrases of pieces -/

/-- A connector word, and a negation if `n`. -/
def leadWords (k : Connector) (n : Bool) : List Text :=
  k.word :: if n then ["not".toList] else []

theorem role_of_mem_leadWords (k : Connector) (n : Bool) :
    ∀ t ∈ tagWords false false (leadWords k n), t.role ≠ .conjunction := by
  cases k <;> cases n <;> decide

theorem reads_leadWords {r : Reading} (hr : r.IsIdle) (k : Connector) (n : Bool) :
    Reads r (leadWords k n) (.behind k [k.word] r.segments (r.negated || n)) := by
  have hk := reads_connector hr k
  cases n with
  | false =>
      rw [Bool.or_false]
      exact hk
  | true =>
      rw [Bool.or_true]
      refine hk.append (reads_not k [k.word] r.segments r.negated) fun t ht _ _ hcut => ?_
      exact role_of_mem_leadWords k false t (List.mem_of_getLast? ht) hcut.1

theorem words_leadWords (k : Connector) (n : Bool) (t : Text) :
    Text.words (k.word ++ (if n then " not ".toList else [' ']) ++ t) =
      leadWords k n ++ Text.words t := by
  cases n with
  | false =>
      rw [List.append_assoc]
      exact Text.words_word_append k.isWord_word t
  | true =>
      rw [List.append_assoc]
      refine (Text.words_word_append k.isWord_word _).trans ?_
      exact congrArg (k.word :: ·) (Text.words_word_append (w := "not") (by decide) t)

/-- A connector word, a negation if `n`, and a piece behind it. -/
def Phrase.ofPiece (k : Connector) (n : Bool) (x : Piece) : Phrase where
  connector := k
  text := k.word ++ (if n then " not ".toList else [' ']) ++ x.text
  operand := x.out
  negates := n
  led := by
    cases n with
    | false => exact ⟨x.text, List.append_assoc k.word [' '] x.text⟩
    | true => exact ⟨"not ".toList ++ x.text, List.append_assoc k.word " not ".toList x.text⟩
  last := by
    rw [List.getLast?_append_of_ne_nil _ x.nonempty]
    exact x.last
  seamless := by
    have hword : Seamless {} (k.word ++ (if n then " not ".toList else [' '])) {} :=
      seamless_ordinary (by cases k <;> cases n <;> decide) 0
    exact hword.append x.seamless
  reads {p} hp {r} hr := by
    rw [List.append_assoc _ x.text, words_leadWords]
    refine (reads_leadWords hr k n).append (x.reads hp k [k.word] _ _) fun t ht _ _ hcut => ?_
    exact role_of_mem_leadWords k n t (List.mem_of_getLast? ht) hcut.1

theorem Phrase.ends_ofPiece (k : Connector) (n : Bool) (x : Piece) : (ofPiece k n x).Ends := by
  have hlead := reads_leadWords (r := {}) (fun s => by simp) k n
  have hterms : termsOf ((ofPiece k n x).text ++ ['.']) =
      tagWords false false (leadWords k n) ++ termsOf (x.text ++ ['.']) := by
    rw [termsOf, ofPiece, List.append_assoc _ x.text, words_leadWords,
      tagWords_append_of_balanced hlead.balanced]
    rfl
  intro t ht
  rw [hterms, List.getLast?_append] at ht
  cases hlast : (termsOf (x.text ++ ['.'])).getLast? with
  | some u =>
      rw [hlast] at ht
      obtain rfl : u = t := Option.some.inj ht
      exact x.ends (.inr rfl) u hlast
  | none =>
      rw [hlast] at ht
      exact role_of_mem_leadWords k n t (List.mem_of_getLast? ht)

end PlainSteps.Sentence
