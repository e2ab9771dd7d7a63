import PlainSteps.Proofs.Pieces

/-!
# Scopes

The phrase of an unquoted scope can be read if the words of the scope stand for themselves
(`IsScope`), and gives back the scope (`addScope_scope`). Names of alphanumeric words that are no
keywords are such scopes.
-/

namespace PlainSteps.Sentence

theorem exists_last_words {s : Text} (hspaced : Text.unwords (Text.words s) = s) (hne : s ≠ []) :
    ∃ us u, Text.words s = us ++ [u] := by
  refine (List.eq_nil_or_concat' (Text.words s)).resolve_left fun hnil => hne ?_
  rw [← hspaced, hnil]
  rfl

/-- The words of the text stand for themselves behind `the`. -/
structure IsScope (s : Text) : Prop where
  spaced : Text.unwords (Text.words s) = s
  nonempty : s ≠ []
  unquoted : ∀ c ∈ s, c ≠ '"'
  seamless : Seamless {} s {}
  verbatim : Verbatim (termsOf s)
  article : ∀ w ∈ (Text.words s).head?, Text.toLower w ∉ articles
  head : ∀ c ∈ s.head?, isInner c
  last : ∀ c ∈ s.getLast?, isInner c
  region : ∀ c ∈ s.head?, isLowercase c → (regionNamed? s).getD s = s

theorem quoteCount_of_mem_words {s : Text} (h : ∀ c ∈ s, c ≠ '"') :
    ∀ w ∈ Text.words s, quoteCount w = 0 :=
  fun _ hw => countQuotes_of_forall (fun c hc => h c (Text.mem_of_mem_words hw hc)) false

theorem solid_the : Solid "the" := solid_of_alphanumeric (by decide)

theorem tagWords_the (ws : List Text) : tagWords false false ("the".toList :: ws) =
    tagPart [] "the" [] false false false :: tagWords false false ws := by
  have h := solid_the.tagWords (.inl rfl) false ws
  rwa [List.append_nil] at h

theorem joined?_the (t : Term) : joined? (tagPart [] "the" [] false false false) t = none := by
  have hfirst : ∀ e ∈ wordPairs, e.1 ≠ Text.toLower "the" := by decide
  rw [joined?]
  split
  · rfl
  · exact pairWord?_eq_none fun e he hpair => hfirst e he hpair.1

theorem verbatim_the {ws : List Text} (h : Verbatim (tagWords false false ws)) :
    Verbatim (tagWords false false ("the".toList :: ws)) := by
  have hrole : (tagPart [] "the" [] false false false).role = .determiner := by decide
  rw [tagWords_the]
  refine ⟨fun t ht => ?_, List.isChain_cons.mpr ⟨fun t _ => ⟨joined?_the t, fun hcut => ?_⟩,
    h.apart⟩⟩
  · rcases List.mem_cons.mp ht with rfl | ht
    · rw [hrole]
      decide
    · exact h.role t ht
  · rw [hrole] at hcut
    exact nomatch hcut.1

section Scope

variable {s : Text} (hs : IsScope s)
include hs

theorem words_scope {p : Text} (hp : IsStop p) : ∃ us u, Text.words s = us ++ [u] ∧
    Text.words ("the ".toList ++ s ++ p) = ("the".toList :: us) ++ [u ++ p] := by
  obtain ⟨us, u, hus⟩ := exists_last_words hs.spaced hs.nonempty
  have hthe : "the ".toList ++ s ++ p = "the".toList ++ ' ' :: (s ++ p) := rfl
  refine ⟨us, u, hus, ?_⟩
  rw [hthe, Text.words_word_append (by decide),
    Text.words_append_of_unwords hs.spaced hus hp.dense]
  rfl

theorem reads_scope {p : Text} (hp : IsStop p) (k : Connector) (ws : List Text)
    (closed : List Segment) (n : Bool) :
    Reads (.behind k ws closed n) (Text.words ("the ".toList ++ s ++ p))
      (.behind k (ws ++ Text.words ("the ".toList ++ s ++ p)) closed n) := by
  obtain ⟨us, u, hus, hwords⟩ := words_scope hs hp
  have hcount : ∀ v ∈ ("the".toList :: us) ++ [u], quoteCount v = 0 := by
    intro v hv
    rw [List.cons_append, ← hus] at hv
    rcases List.mem_cons.mp hv with rfl | hv
    · exact solid_the.quotes
    · exact quoteCount_of_mem_words hs.unquoted v hv
  have hverbatim : Verbatim (tagWords false false (("the".toList :: us) ++ [u])) := by
    rw [List.cons_append, ← hus]
    exact verbatim_the hs.verbatim
  rw [hwords]
  refine reads_verbatim hcount hp hverbatim (fun t ht => ?_) k ws closed n
  rw [List.cons_append, tagWords_the] at ht
  obtain rfl : tagPart [] "the" [] false false false = t := Option.some.inj ht
  exact unpaired_of_forall (by decide)

end Scope

/-- `on the` and a scope without quotes. -/
def Phrase.scope (s : Text) (hs : IsScope s) : Phrase where
  connector := .on_
  text := "on the ".toList ++ s
  operand p := Text.words ("the ".toList ++ s ++ p)
  negates := false
  led := ⟨"the ".toList ++ s, rfl⟩
  last := by
    rw [List.getLast?_append_of_ne_nil _ hs.nonempty]
    exact fun c hc => (isInner_iff (hs.last c hc)).1
  seamless := by
    have hthe : Seamless {} "on the ".toList {} := seamless_ordinary (by decide) 0
    exact hthe.append hs.seamless
  reads {p} hp {r} hr := by
    have hwords : Text.words ("on the ".toList ++ s ++ p) =
        leadWords .on_ false ++ Text.words ("the ".toList ++ s ++ p) :=
      words_leadWords .on_ false ("the ".toList ++ s ++ p)
    rw [hwords]
    refine (reads_leadWords hr .on_ false).append (reads_scope hs hp .on_ _ _ _)
      fun t ht _ _ hcut => ?_
    exact role_of_mem_leadWords .on_ false t (List.mem_of_getLast? ht) hcut.1

theorem Phrase.ends_scope {s : Text} (hs : IsScope s)
    (hlast : ∀ t ∈ (termsOf s).getLast?, t.role ≠ .conjunction) : (scope s hs).Ends := by
  obtain ⟨us, u, hus, hwords⟩ := words_scope hs (p := ['.']) (.inr rfl)
  obtain ⟨ts, t, hts, hstop⟩ := exists_tagWords_stop (p := ['.']) (.inr rfl) us u
  have hlead := reads_leadWords (r := {}) (fun s => by simp) .on_ false
  have hterms : termsOf ((scope s hs).text ++ ['.']) =
      tagWords false false (leadWords .on_ false) ++
        tagPart [] "the" [] false false false :: (ts ++ [t.stop ['.']]) := by
    have hsplit : Text.words ((scope s hs).text ++ ['.']) =
        leadWords .on_ false ++ Text.words ("the ".toList ++ s ++ ['.']) :=
      words_leadWords .on_ false ("the ".toList ++ s ++ ['.'])
    rw [termsOf, hsplit, tagWords_append_of_balanced hlead.balanced, hwords, List.cons_append,
      tagWords_the, hstop]
  intro v hv
  rw [hterms, ← List.cons_append, ← List.append_assoc, List.getLast?_concat] at hv
  obtain rfl : t.stop ['.'] = v := Option.some.inj hv
  rw [Term.role_stop]
  refine hlast t ?_
  rw [termsOf, hus, hts, List.getLast?_concat]
  rfl

theorem skipArticles_the {ws : List Text} (h : ∀ w ∈ ws.head?, Text.toLower w ∉ articles) :
    skipArticles ("the".toList :: ws) = ws := by
  have hthe : articles.contains (Text.toLower "the") = true := by decide
  rw [skipArticles,
    List.dropWhile_cons_of_pos (p := fun w => articles.contains (Text.toLower w)) hthe]
  cases ws with
  | nil => rfl
  | cons w ws =>
      have hw : ¬ articles.contains (Text.toLower w) := by simpa using h w rfl
      exact List.dropWhile_cons_of_neg (p := fun w => articles.contains (Text.toLower w)) hw

theorem addScope_scope {s p : Text} (hs : IsScope s) (hp : IsStop p) (c : Command) :
    addScope c (Text.words ("the ".toList ++ s ++ p)) = .ok (c.withSpecifier s) := by
  obtain ⟨us, u, hus, hwords⟩ := words_scope hs hp
  have hjoin : Text.unwords (us ++ [u ++ p]) = s ++ p := by
    rw [Text.unwords_append_last, ← hus, hs.spaced]
  have harticle : ∀ w ∈ (us ++ [u ++ p]).head?, Text.toLower w ∉ articles := by
    have hfirst := hs.article
    rw [hus] at hfirst
    cases us with
    | cons w us => exact hfirst
    | nil =>
        rintro w hw
        obtain rfl : u ++ p = w := Option.some.inj hw
        rcases hp with rfl | rfl
        · rw [List.append_nil]
          exact hfirst u rfl
        · -- A full stop ends no article.
          intro hmem
          have hlast : ∀ v ∈ articles, v.getLast? ≠ some '.' := by decide
          exact hlast _ hmem (Text.getLast?_toLower (by decide) u)
  have hname : stripPunctuation (s ++ p) = s :=
    stripPunctuation_append hp hs.nonempty hs.head hs.last
  have htrim : Text.trim (s ++ p) = s ++ p := trim_append hp hs.nonempty hs.head hs.last
  have hregion := hs.region
  obtain ⟨d, r, rfl⟩ := List.exists_cons_of_ne_nil hs.nonempty
  have hquote : ((d :: r ++ p).head? == some '"') = false := by
    have hne : d ≠ '"' := hs.unquoted d List.mem_cons_self
    simpa using hne
  have hname' : (if isLowercase d then (regionNamed? (d :: r)).getD (d :: r) else d :: r) =
      d :: r := by
    split
    · next hcase => exact hregion d rfl hcase
    · rfl
  rw [hwords, List.cons_append, addScope, skipArticles_the harticle, hjoin, htrim, hquote]
  simp only [Bool.false_eq_true, if_false, hname, hname']

/-! ## Names of alphanumeric words -/

/-- The words of the name stand for themselves behind `the`. -/
structure IsScopeName (s : Text) : Prop where
  nonempty : s ≠ []
  spaced : Text.unwords (Text.words s) = s
  alphanumeric : ∀ w ∈ Text.words s, ∀ c ∈ w, isAlphanumeric c
  article : ∀ w ∈ (Text.words s).head?, Text.toLower w ∉ articles
  keyword : ∀ w ∈ Text.words s, Text.toLower w ∉ connectors ++ negations ++ conjunctions
  unjoined : Unjoined (Text.words s)

theorem isScopeName_of_mem_regions {s : Text} (hs : s ∈ regions) : IsScopeName s := by
  have hnonempty : ∀ s ∈ regions, s ≠ [] := by decide
  have hspaced : ∀ s ∈ regions, Text.unwords (Text.words s) = s := by decide
  have halnum : ∀ s ∈ regions, ∀ w ∈ Text.words s, ∀ c ∈ w, isAlphanumeric c := by decide
  have harticle : ∀ s ∈ regions, ∀ w ∈ (Text.words s).head?, Text.toLower w ∉ articles := by
    decide
  have hkeyword : ∀ s ∈ regions, ∀ w ∈ Text.words s,
      Text.toLower w ∉ connectors ++ negations ++ conjunctions := by decide
  have hunjoined : ∀ s ∈ regions, (Text.words s).IsChain fun v w => pairWord? v w = none := by
    decide
  exact ⟨hnonempty s hs, hspaced s hs, halnum s hs, harticle s hs, hkeyword s hs, hunjoined s hs⟩

namespace IsScopeName

variable {s : Text} (hs : IsScopeName s)
include hs

theorem char {c : Char} (hc : c ∈ s) : c = ' ' ∨ isAlphanumeric c := by
  rw [← hs.spaced] at hc
  exact (Text.mem_unwords hc).imp_right fun ⟨w, hw, hcw⟩ => hs.alphanumeric w hw c hcw

theorem plain {w : Text} (hw : w ∈ Text.words s) : Plain w :=
  plain_of_alphanumeric (hs.alphanumeric w hw) (hs.keyword w hw)

theorem head : ∀ c ∈ s.head?, isAlphanumeric c ∧ isBlank c = false := by
  rintro c hc
  cases hws : Text.words s with
  | nil => exact absurd (by rw [← hs.spaced, hws]; rfl) hs.nonempty
  | cons w ws =>
      have hw : w ∈ Text.words s := by simp [hws]
      have hword := Text.isWord_of_mem_words hw
      rw [← hs.spaced, hws, Text.head?_unwords hword.1] at hc
      have hmem := List.mem_of_head? hc
      exact ⟨hs.alphanumeric w hw c hmem, hword.2 c hmem⟩

theorem last : ∀ c ∈ s.getLast?, isAlphanumeric c ∧ isBlank c = false := by
  rintro c hc
  obtain ⟨us, u, hus⟩ := exists_last_words hs.spaced hs.nonempty
  have hu : u ∈ Text.words s := by simp [hus]
  have hword := Text.isWord_of_mem_words hu
  rw [← hs.spaced, hus, Text.getLast?_unwords hword.1] at hc
  have hmem := List.mem_of_getLast? hc
  exact ⟨hs.alphanumeric u hu c hmem, hword.2 c hmem⟩

/-- Behind `the` the name stands for itself, unless it could name a region. -/
theorem isScope (hlower : ∀ d ∈ s.head?, isLowercase d → s ∈ regions) : IsScope s where
  spaced := hs.spaced
  nonempty := hs.nonempty
  unquoted := by
    rintro c hc rfl
    rcases hs.char hc with h | h
    · exact absurd h (by decide)
    · exact absurd h (by decide)
  seamless := by
    refine seamless_ordinary (List.all_eq_true.mpr fun c hc => ?_) 0
    rcases hs.char hc with rfl | hc
    · decide
    · exact isOrdinary_of_isAlphanumeric hc
  verbatim := verbatim_plain (fun w hw => hs.plain hw) hs.unjoined
  article := hs.article
  head c hc := isInner_of_isAlphanumeric (hs.head c hc).1 (hs.head c hc).2
  last c hc := isInner_of_isAlphanumeric (hs.last c hc).1 (hs.last c hc).2
  region d hd hcase := by
    have hall : ∀ s ∈ regions, (regionNamed? s).getD s = s := by decide
    exact hall s (hlower d hd hcase)

theorem role_getLast? : ∀ t ∈ (termsOf s).getLast?, t.role ≠ .conjunction := by
  intro t ht
  rw [termsOf, tagWords_of_solid fun w hw => (hs.plain hw).toSolid] at ht
  obtain ⟨w, hw, rfl⟩ := List.mem_map.mp (List.mem_of_getLast? ht)
  exact (hs.plain hw).conjunction

end IsScopeName

end PlainSteps.Sentence
