import PlainSteps.Proofs.Applying

/-!
# References

An assertion may compare with a variable, whose name stands in braces and may have spaces. A name
that is read as it stands (`IsReference`) is given back by the assertion (`addExpected_reference`).
-/

namespace PlainSteps.Sentence

/-- A name in braces. -/
abbrev braced (name : Text) : Text := '{' :: name ++ ['}']

/-- The words of the name stand for themselves in braces. -/
structure IsReference (name : Text) : Prop where
  nonempty : name ≠ []
  spaced : Text.SingleSpaced name
  head : ∀ c ∈ name.head?, isBlank c = false
  last : ∀ c ∈ name.getLast?, isBlank c = false
  plain : ∀ c ∈ name, c ≠ '"' ∧ c ≠ '\\' ∧ c ≠ '{' ∧ c ≠ '}'
  verbatim : Verbatim (termsOf (braced name))

theorem unquoted_braced {name : Text} (h : ∀ c ∈ name, c ≠ '"') : ∀ c ∈ braced name, c ≠ '"' := by
  rintro c hc rfl
  have hmem : '"' ∈ name := by simpa using hc
  exact h '"' hmem rfl

theorem unwords_words_braced {name p : Text} (h : Text.SingleSpaced name)
    (hp : ∀ c ∈ p, isBlank c = false) :
    Text.unwords (Text.words (braced name ++ p)) = braced name ++ p := by
  have hopen : Text.SingleSpaced ['{'] := Text.singleSpaced_of_dense (by decide)
  have hclose : Text.SingleSpaced ('}' :: p) := by
    refine Text.singleSpaced_of_dense fun c hc => ?_
    rcases List.mem_cons.mp hc with rfl | hc
    · rfl
    · exact hp c hc
  have hspaced : Text.SingleSpaced (braced name ++ p) := by
    have hall := (hopen.append h (by simp)).append hclose (by simp)
    simpa [braced] using hall
  refine Text.unwords_words (by simp) hspaced (fun c hc => ?_) fun c hc => ?_
  · obtain rfl : '{' = c := Option.some.inj hc
    rfl
  · rcases List.eq_nil_or_concat' p with rfl | ⟨q, d, rfl⟩
    · rw [List.append_nil, List.getLast?_concat] at hc
      obtain rfl : '}' = c := Option.some.inj hc
      rfl
    · rw [← List.append_assoc, List.getLast?_concat] at hc
      obtain rfl : d = c := Option.some.inj hc
      exact hp d (by simp)

/-- The first term of a word that begins with a brace begins with it too. -/
theorem tagWord_of_brace (q : Bool) (v : Text) :
    ∃ r post, tagWord false q ('{' :: v) = [tagPart [] ('{' :: r) post false q false] := by
  have htrail : isTrailing '{' = false := by decide
  have hdrop : Text.dropEndWhile isTrailing ('{' :: v) =
      '{' :: Text.dropEndWhile isTrailing v := by
    rw [Text.dropEndWhile, List.reverse_cons, List.dropWhile_append]
    split
    · next hnil =>
        rw [List.dropWhile_cons_of_neg (by simp [htrail]), Text.dropEndWhile,
          List.isEmpty_iff.mp hnil]
        rfl
    · rw [List.reverse_append]
      rfl
  have hfront : ('{' :: v).takeWhile (· == '"') = [] ∧
      ('{' :: v).dropWhile (· == '"') = '{' :: v := ⟨rfl, rfl⟩
  rw [tagWord, hfront.1, hfront.2, hdrop,
    hyphenParts_of_mem (c := '{') (by simp) (by decide) (by decide)]
  exact ⟨_, _, rfl⟩

theorem head_termsOf_braced {name : Text} (h : Text.SingleSpaced name) :
    ∀ t ∈ (termsOf (braced name)).head?, Unpaired t.text := by
  have hjoin := unwords_words_braced (p := []) h (by simp)
  rw [List.append_nil] at hjoin
  intro t ht
  cases hws : Text.words (braced name) with
  | nil =>
      rw [hws] at hjoin
      exact nomatch hjoin
  | cons w ws =>
      have hword : Text.IsWord w := Text.isWord_of_mem_words (hws ▸ List.mem_cons_self)
      rw [hws] at hjoin
      have hhead : w.head? = some '{' := by
        rw [← Text.head?_unwords hword.1 ws, hjoin]
        rfl
      obtain ⟨v, rfl⟩ : ∃ v, w = '{' :: v := by
        cases w with
        | nil => exact nomatch hhead
        | cons c v => exact ⟨v, by rw [Option.some.inj hhead]⟩
      obtain ⟨r, post, htag⟩ := tagWord_of_brace (false || quoteCount ('{' :: v) > 0) v
      rw [termsOf, hws, tagWords, htag] at ht
      obtain rfl : tagPart [] ('{' :: r) post false _ false = t := Option.some.inj ht
      exact unpaired_of_brace r

/-- The last word of a name in braces ends in the brace. -/
theorem exists_last_braced {name : Text} (h : Text.SingleSpaced name) :
    ∃ us v, Text.words (braced name) = us ++ [v ++ ['}']] := by
  have hjoin := unwords_words_braced (p := []) h (by simp)
  rw [List.append_nil] at hjoin
  obtain ⟨us, u, hus⟩ := exists_last_words hjoin (by simp)
  have hword : Text.IsWord u :=
    Text.isWord_of_mem_words (hus ▸ List.mem_append_right us (List.mem_singleton_self u))
  have hlast : u.getLast? = some '}' := by
    rw [← Text.getLast?_unwords hword.1 us, ← hus, hjoin, List.getLast?_concat]
  obtain ⟨v, rfl⟩ := List.getLast?_eq_some_iff.mp hlast
  exact ⟨us, v, hus⟩

theorem ends_braced {name p : Text} (h : Text.SingleSpaced name) (hquote : ∀ c ∈ name, c ≠ '"')
    (hp : IsStop p) : ∀ t ∈ (termsOf (braced name ++ p)).getLast?, t.role ≠ .conjunction := by
  obtain ⟨us, v, hus⟩ := exists_last_braced h
  have hmem (w : Text) (hw : w ∈ us ++ [v ++ ['}']]) : ∀ c ∈ w, c ≠ '"' := fun c hc =>
    unquoted_braced hquote c (Text.mem_of_mem_words (t := braced name) (hus ▸ hw) hc)
  have hplain : Plain (v ++ ['}']) :=
    plain_of_brace fun c hc => hmem (v ++ ['}']) (by simp) c (by simp [hc])
  have hbalanced : inQuoteBehind false us = false := by
    have hsum : (us.map quoteCount).sum = 0 := by
      refine List.sum_eq_zero_iff_forall_eq_nat.mpr fun m hm => ?_
      obtain ⟨w, hw, rfl⟩ := List.mem_map.mp hm
      exact countQuotes_of_forall (hmem w (by simp [hw])) false
    have hcount := inQuoteBehind_of_sum (n := 0) us
    rw [hsum] at hcount
    exact hcount
  have hjoin := unwords_words_braced (p := []) h (by simp)
  rw [List.append_nil] at hjoin
  intro t ht
  rw [termsOf, Text.words_append_of_unwords hjoin hus hp.dense,
    tagWords_append_of_balanced hbalanced, hplain.tagWords hp, tagWords,
    List.getLast?_concat] at ht
  obtain rfl : tagPart [] (v ++ ['}']) p false false false = t := Option.some.inj ht
  exact hplain.conjunction

/-- A name in braces that is read as it stands. -/
def Piece.reference (name : Text) (h : IsReference name) : Piece where
  text := braced name
  out p := Text.words (braced name ++ p)
  nonempty := by simp
  last c hc := by
    rw [List.getLast?_concat] at hc
    obtain rfl : '}' = c := Option.some.inj hc
    rfl
  seamless := by
    refine seamless_braced fun c hc => ?_
    obtain ⟨hquote, hslash, hopen, hclose⟩ := h.plain c hc
    refine ⟨hslash, hquote, hopen, hclose, ?_⟩
    rintro rfl
    exact absurd (h.spaced.1 _ hc (by decide)) (by decide)
  ends hp := ends_braced h.spaced (fun c hc => (h.plain c hc).1) hp
  reads {p} hp k ws closed n := by
    have hquote := unquoted_braced fun c hc => (h.plain c hc).1
    have hjoin := unwords_words_braced (p := []) h.spaced (by simp)
    rw [List.append_nil] at hjoin
    obtain ⟨us, u, hus⟩ := exists_last_words hjoin (by simp)
    rw [Text.words_append_of_unwords hjoin hus hp.dense]
    refine reads_verbatim (fun v hv => ?_) hp ?_ ?_ k ws closed n
    · exact quoteCount_of_mem_words hquote v (hus ▸ hv)
    · rw [← hus]
      exact h.verbatim
    · rw [← hus]
      exact head_termsOf_braced h.spaced

theorem IsReference.trim {name : Text} (h : IsReference name) : Text.trim name = name :=
  Text.trim_eq_self h.head h.last

theorem addExpected_reference [Regex.Engine] {name p : Text} (hname : IsReference name)
    (hp : IsStop p) (c : Command) (a : Assertion) :
    addExpected c a (braced name ++ p) = .ok (c.withVariable name) := by
  have hnone : unquote? (braced name ++ p) = none :=
    unquote?_eq_none (mem_braced_ne_quote (fun c hc => (hname.plain c hc).1) hp)
  have hstop : stripFullStop (braced name ++ p) = braced name :=
    stripFullStop_append hp (by simp) (isInner_head_braced name) (isInner_last_braced name)
  have href : variableReference? (braced name) = some name := by
    have hnot : ∀ c ∈ name, ¬ c = '{' ∧ ¬ c = '}' := fun c hc => (hname.plain c hc).2.2
    have hempty : name.isEmpty = false := by simpa using hname.nonempty
    simp [variableReference?, Text.dropTail?, Text.dropHead?, hempty]
    exact hnot
  have hslash : slashPattern? (braced name) = .ok none := rfl
  simp only [addExpected, hnone, hstop, Option.getD_none, hslash, href, hname.trim]
  cases a <;> rfl

/-- A name without spaces is read as it stands. -/
theorem IsName.isReference {name : Text} (h : IsName name) : IsReference name where
  nonempty := h.1
  spaced := Text.singleSpaced_of_dense fun c hc => (h.2 c hc).1
  head c hc := (h.2 c (List.mem_of_head? hc)).1
  last c hc := (h.2 c (List.mem_of_getLast? hc)).1
  plain c hc := (h.2 c hc).2
  verbatim := by
    have hkeyword := isKeyword_braced h
    rw [termsOf, Text.words_of_isWord hkeyword.word]
    refine verbatim_plain (fun w hw => ?_) (.singleton _)
    obtain rfl := List.mem_singleton.mp hw
    exact hkeyword.toPlain

end PlainSteps.Sentence
