import PlainSteps.Proofs.Scopes

/-!
# Applying phrases to a command

What each canonical phrase does to the command of its sentence. `Applies c ps c'` says that the
phrases `ps` turn `c` into `c'`; `parse_of_applies` reads a whole sentence from that.
-/

namespace PlainSteps.Sentence

section Phrases

variable [Regex.Engine]

/-- Applied in order, the phrases turn the first command into the second, wherever the full stop
stands. -/
inductive Applies : Command → List Phrase → Command → Prop
  | nil (c : Command) : Applies c [] c
  | cons {c c' c'' : Command} {q : Phrase} {qs : List Phrase}
      (hq : ∀ p, IsStop p → addConnected c q.connector (q.operand p) = .ok c')
      (hqs : Applies c' qs c'') : Applies c (q :: qs) c''

theorem Applies.append {c c' c'' : Command} {ps qs : List Phrase} (h : Applies c ps c')
    (h' : Applies c' qs c'') : Applies c (ps ++ qs) c'' := by
  induction h with
  | nil => exact h'
  | cons hq _ ih => exact .cons hq (ih h')

theorem Applies.foldlM {c c' : Command} {ps : List Phrase} (h : Applies c ps c') :
    (operands ps).foldlM (fun c (k, rest) => addConnected c k rest) c = .ok c' := by
  induction h with
  | nil => rfl
  | @cons c c' c'' q qs hq hqs ih =>
      cases qs with
      | nil =>
          cases hqs
          simp only [operands, List.foldlM_cons, hq ['.'] (.inr rfl)]
          rfl
      | cons q' qs =>
          simp only [operands, List.foldlM_cons, hq [] (.inl rfl)]
          exact ih

/-- Phrases in front of another one do not see how the sentence goes on. -/
theorem Applies.foldlM_concat {c c' : Command} {ps : List Phrase} (h : Applies c ps c')
    (q : Phrase) : (operands (ps ++ [q])).foldlM (fun c (k, rest) => addConnected c k rest) c =
      addConnected c' q.connector (q.operand ['.']) := by
  induction h with
  | nil c =>
      simp only [List.nil_append, operands, List.foldlM_cons, List.foldlM_nil, bind_pure]
  | @cons c c' c'' p ps hp hps ih =>
      obtain ⟨r, rs, hrs⟩ : ∃ r rs, ps ++ [q] = r :: rs :=
        List.exists_cons_of_ne_nil (by simp)
      have hoperands : operands (p :: ps ++ [q]) =
          (p.connector, p.operand []) :: operands (ps ++ [q]) := by
        rw [List.cons_append, hrs, operands]
      rw [hoperands, List.foldlM_cons]
      simp only [hp [] (.inl rfl)]
      exact ih

theorem parse_of_applies {a : Action} {object w e : Text} (hobject : Quotable object)
    (hw : Names w e) {ps : List Phrase} (hends : ∀ q ∈ ps.getLast?, q.Ends) {c : Command}
    (h : Applies { action := a, object, elementType := e,
                   isNegativeAssertion := ps.any (·.negates) } ps c)
    (hassertion : (decide (c.action = .ensure) && c.assertion.isNone) = false)
    (hfault : c.fault? = none) : parse (sentenceOf a object w (phraseText ps)) = .ok [c] := by
  have hcommand : commandOf (lexicon (sentenceOf a object w (phraseText ps))) = .ok c := by
    rw [commandOf_phrases a hobject hw ps, h.foldlM]
    change checked c = .ok c
    rw [checked, hassertion, hfault]
    rfl
  rw [parse_phrases a hobject hw hends, readInstruction, hcommand]
  rfl

end Phrases

/-! ## Titles -/

theorem unwords_append_words_quoted {t p : Text} (ht : Quotable t) (hp : IsStop p)
    {ws : List Text} (hws : ws ≠ []) :
    Text.unwords (ws ++ Text.words (quoted t ++ p)) =
      Text.unwords ws ++ ' ' :: (quoted t ++ p) := by
  have hne : Text.words (quoted t ++ p) ≠ [] := by
    obtain ⟨w, r, hwr, -⟩ := exists_head_words_quoted ht hp
    simp [hwr]
  rw [Text.unwords_append hws hne, unwords_words_quoted ht.1 hp.dense]

theorem article_of_mem_words_quoted {t p : Text} (ht : Quotable t) (hp : IsStop p)
    (ws : List Text) :
    ∀ w ∈ (Text.words (quoted t ++ p) ++ ws).head?, Text.toLower w ∉ articles := by
  obtain ⟨v, r, hvr, hv⟩ := exists_head_words_quoted ht hp
  rw [hvr]
  rintro w hw hmem
  obtain rfl : v = w := Option.some.inj hw
  obtain ⟨c, r, rfl⟩ : ∃ c r, v = c :: r := by
    cases v with
    | nil => simp at hv
    | cons c r => exact ⟨c, r, rfl⟩
  obtain rfl : c = '"' := Option.some.inj hv
  have hhead : ∀ u ∈ articles, u.head? ≠ some '"' := by decide
  exact hhead _ hmem (Text.head?_toLower (by decide) r)

theorem addScope_title {t p : Text} (ht : Quotable t) (hp : IsStop p) (c : Command) :
    addScope c ("the".toList :: (Text.words (quoted t) ++ ["section".toList ++ p])) =
      .ok (c.withSection t) := by
  have harticle := article_of_mem_words_quoted ht (p := []) (.inl rfl) ["section".toList ++ p]
  have hne : Text.words (quoted t) ≠ [] := by
    obtain ⟨w, r, hwr, -⟩ := exists_head_words_quoted ht (p := []) (.inl rfl)
    rw [List.append_nil] at hwr
    simp [hwr]
  have hjoin : Text.unwords (Text.words (quoted t) ++ ["section".toList ++ p]) =
      quoted t ++ (" section".toList ++ p) := by
    have h := unwords_words_quoted ht.1 (p := []) (by simp)
    rw [List.append_nil] at h
    rw [Text.unwords_append hne (by simp), h]
    rfl
  have htrim : Text.trim (quoted t ++ (" section".toList ++ p)) =
      quoted t ++ (" section".toList ++ p) := by
    refine Text.trim_eq_self (fun c hc => ?_) fun c hc => ?_
    · obtain rfl : '"' = c := Option.some.inj hc
      rfl
    · have hlast : ∀ c ∈ (" section".toList ++ p).getLast?, isBlank c = false := by
        rcases hp with rfl | rfl <;> decide
      rw [List.getLast?_append_of_ne_nil _ (by simp)] at hc
      exact hlast c hc
  have hunquote : unquote? (quoted t ++ (" section".toList ++ p)) = some t := by
    refine unquote?_quoted (s := []) ht.2 rfl rfl ?_
    rcases hp with rfl | rfl <;> rfl
  rw [List.append_nil] at harticle
  rw [addScope, skipArticles_the harticle, hjoin, htrim, hunquote]
  rfl

/-! ## Values and names -/

theorem unquote?_words_quoted {t p : Text} (ht : Quotable t) (hp : IsStop p) {w : Text}
    (hw : ∀ c ∈ w, c ≠ '"' ∧ c ≠ '\\') :
    unquote? (Text.unwords (w :: Text.words (quoted t ++ p))) = some t := by
  have hjoin := unwords_append_words_quoted ht hp (List.cons_ne_nil w [])
  have hlist : w ++ ' ' :: (quoted t ++ p) = (w ++ [' ']) ++ quoted t ++ p := by simp
  have hfront : ∀ c ∈ w ++ [' '], c ≠ '"' ∧ c ≠ '\\' := by
    intro c hc
    rcases List.mem_append.mp hc with hc | hc
    · exact hw c hc
    · obtain rfl := List.mem_singleton.mp hc
      decide
  rw [List.singleton_append] at hjoin
  rw [hjoin, Text.unwords_singleton, hlist]
  exact unquote?_quoted ht.2 (countQuotes_of_forall (fun c hc => (hfront c hc).1) false)
    (escapedBehind_of_forall fun c hc => (hfront c hc).2) hp.quoteCount

theorem addValue_quoted {v p : Text} (hv : Quotable v) (hp : IsStop p) (c : Command) :
    addValue c ("value".toList :: Text.words (quoted v ++ p)) = .ok (c.withValue v) := by
  rw [addValue, unquote?_words_quoted hv hp (by decide)]

theorem addPosition_quoted {v p : Text} (hv : Quotable v) (hne : v ≠ []) (hp : IsStop p)
    (c : Command) :
    addPosition c ("value".toList :: Text.words (quoted v ++ p)) = .ok (c.withValue v) := by
  rw [addPosition, unquote?_words_quoted hv hp (by decide)]
  simp [hne]

theorem behindQuote_eq_none {e : Bool} {t : Text} (h : countQuotes e t = 0) :
    behindQuote e t = none := by
  induction t generalizing e with
  | nil => rfl
  | cons c r ih =>
      obtain ⟨hc, hr⟩ := countQuotes_cons_eq_zero h
      rw [behindQuote, hc]
      exact ih hr

theorem unquote?_eq_none {t : Text} (h : ∀ c ∈ t, c ≠ '"') : unquote? t = none := by
  rw [unquote?, behindQuote_eq_none (countQuotes_of_forall h false)]
  rfl

theorem unquote?_unwords_eq_none {ws : List Text} (h : ∀ w ∈ ws, ∀ c ∈ w, c ≠ '"') :
    unquote? (Text.unwords ws) = none := by
  refine unquote?_eq_none fun c hc => ?_
  rcases Text.mem_unwords hc with rfl | ⟨w, hw, hcw⟩
  · decide
  · exact h w hw c hcw

theorem isInner_head_braced (t : Text) : ∀ c ∈ ('{' :: t ++ ['}']).head?, isInner c := by
  rintro c hc
  obtain rfl : '{' = c := Option.some.inj hc
  rfl

theorem isInner_last_braced (t : Text) : ∀ c ∈ ('{' :: t ++ ['}']).getLast?, isInner c := by
  rintro c hc
  rw [List.getLast?_concat] at hc
  obtain rfl : '}' = c := Option.some.inj hc
  rfl

theorem stripPunctuation_braced (name : Text) {p : Text} (hp : IsStop p) :
    stripPunctuation ('{' :: name ++ ['}'] ++ p) = '{' :: name ++ ['}'] :=
  stripPunctuation_append hp (by simp) (isInner_head_braced name) (isInner_last_braced name)

theorem mem_braced_ne_quote {name p : Text} (hname : ∀ c ∈ name, c ≠ '"') (hp : IsStop p) :
    ∀ c ∈ '{' :: name ++ ['}'] ++ p, c ≠ '"' := by
  rintro c hc rfl
  have hmem : '"' ∈ name ∨ '"' ∈ p := by simpa using hc
  rcases hmem with hmem | hmem
  · exact hname _ hmem rfl
  · rcases hp with rfl | rfl <;> exact absurd hmem (by decide)

theorem addStoreName_braced {name p : Text} (hname : IsName name) (hp : IsStop p) (c : Command) :
    addStoreName c ["variable".toList, '{' :: name ++ ['}'] ++ p] = .ok (c.withVariable name) := by
  have hnone : unquote? (Text.unwords ["variable".toList, '{' :: name ++ ['}'] ++ p]) = none := by
    refine unquote?_unwords_eq_none (List.forall_mem_cons.mpr ⟨by decide, ?_⟩)
    exact List.forall_mem_singleton.mpr (mem_braced_ne_quote (fun c hc => (hname.2 c hc).2.1) hp)
  have htrim : Text.trimMatches (['{', '}'].contains ·) ('{' :: name ++ ['}']) = name := by
    have hnot : ∀ c ∈ name, ['{', '}'].contains c = false := by
      intro c hc
      obtain ⟨-, -, -, hopen, hclose⟩ := hname.2 c hc
      simp [hopen, hclose]
    have hfront : ('{' :: name ++ ['}']).dropWhile (['{', '}'].contains ·) = name ++ ['}'] := by
      obtain ⟨d, r, rfl⟩ := List.exists_cons_of_ne_nil hname.1
      have hd := hnot d List.mem_cons_self
      rw [List.cons_append, List.dropWhile_cons_of_pos (by decide), List.cons_append,
        List.dropWhile_cons_of_neg (by simpa using hd)]
    rw [Text.trimMatches, hfront, Text.dropEndWhile_append (by decide),
      Text.dropEndWhile_eq_self fun c hc => hnot c (List.mem_of_getLast? hc)]
  have hblank : Text.blank name = false := by
    obtain ⟨d, r, rfl⟩ := List.exists_cons_of_ne_nil hname.1
    simp [Text.blank, (hname.2 d List.mem_cons_self).1]
  rw [addStoreName, hnone]
  simp only [List.getLast?_cons_cons, List.getLast?_singleton, Option.map_some, Option.none_or,
    stripPunctuation_braced name hp, htrim, hblank]
  rfl

/-! ## Assertions -/

theorem assertionHead_verb {w p : Text} {a : Assertion} (hw : (w, a) ∈ assertionVerbs)
    (hp : IsStop p) (tail : List Text)
    (hbe : (decide (w = "be") &&
      tail.head?.any fun v => Text.toLower (stripPunctuation v) = "visible") = false)
    (c : Command) : assertionHead c ((w ++ p) :: tail) = .ok (a, tail) := by
  have hverb : ∀ e ∈ assertionVerbs, Assertion.ofVerb? e.1 = some e.2 ∧ Text.toLower e.1 = e.1 := by
    decide
  have hinner : ∀ e ∈ assertionVerbs, e.1 ≠ [] ∧ ∀ c ∈ e.1, isInner c := by decide
  have hstrip : stripPunctuation (w ++ p) = w :=
    stripPunctuation_append hp (hinner _ hw).1
      (fun c hc => (hinner _ hw).2 c (List.mem_of_head? hc))
      fun c hc => (hinner _ hw).2 c (List.mem_of_getLast? hc)
  obtain ⟨hof, hlower⟩ := hverb _ hw
  simp only [assertionHead, hstrip, hlower, hof, hbe, Bool.false_eq_true, if_false]

/-- The words of a canonical descriptor. -/
def descriptorWords : Aspect → Assertion → List Text
  | .accessible, _ => ["accessible", "description"]
  | .error, _ => ["error", "message"]
  | .plain, .fits => ["pattern"]
  | .plain, .contain => ["text"]
  | .plain, _ => ["value"]

theorem assertionAspect_descriptorWords (aspect : Aspect) (a : Assertion) {rest : List Text}
    (h : rest ≠ []) : assertionAspect (descriptorWords aspect a ++ rest) = (aspect, rest) := by
  obtain ⟨w, ws, rfl⟩ := List.exists_cons_of_ne_nil h
  cases aspect with
  | accessible => rfl
  | error => rfl
  | plain =>
      have hword : ∀ v ∈ (["pattern", "text", "value"] : List Text),
          Text.toLower (stripPunctuation v) ≠ "accessible" ∧
            Text.toLower (stripPunctuation v) ≠ "error" ∧ beginsOperand v = false := by decide
      have hplain (v : Text) (hv : v ∈ (["pattern", "text", "value"] : List Text)) :
          assertionAspect (v :: w :: ws) = (.plain, w :: ws) := by
        obtain ⟨haccessible, herror, hoperand⟩ := hword v hv
        simp only [assertionAspect, decide_eq_false haccessible, decide_eq_false herror,
          Bool.false_and, Bool.false_eq_true, if_false, hoperand]
      cases a <;> exact hplain _ (by decide)

theorem unquote?_quoted_append {v p : Text} (hv : Quotable v) (hp : IsStop p) :
    unquote? (quoted v ++ p) = some v :=
  unquote?_quoted (s := []) hv.2 rfl rfl hp.quoteCount

variable [Regex.Engine]

theorem addExpected_quoted {v p : Text} (hv : Quotable v) (hp : IsStop p) (c : Command)
    {a : Assertion} (ha : a ≠ .fits) : addExpected c a (quoted v ++ p) = .ok (c.withValue v) := by
  simp only [addExpected, unquote?_quoted_append hv hp, if_neg ha]
  rfl

/-- Between slashes without flags stands the regular expression itself. -/
theorem slashPattern?_slashed (v : Text) :
    slashPattern? ('/' :: v ++ ['/']) = (checkRegex v).map fun _ => some v := by
  have hsplit : Text.splitAtLast? '/' (v ++ ['/']) = some (v, []) := by
    simp [Text.splitAtLast?, Text.takeEndWhile]
  rw [List.cons_append, slashPattern?, hsplit]
  simp only [inlineFlags, withFlags, List.isEmpty_nil, if_true]
  cases checkRegex v <;> rfl

theorem addExpected_pattern {v p : Text} (hv : Quotable ('/' :: v ++ ['/'])) (hp : IsStop p)
    (hregex : checkRegex v = .ok ()) (c : Command) :
    addExpected c .fits (quoted ('/' :: v ++ ['/']) ++ p) = .ok (c.withValue v) := by
  simp only [addExpected, unquote?_quoted_append hv hp, if_true, Option.getD_some,
    slashPattern?_slashed, hregex]
  rfl

theorem addAssertion_exist {p : Text} (hp : IsStop p) (c : Command) :
    addAssertion c ["exist".toList ++ p] =
      .ok ({ c with assertion := some .exist }.withAspect .plain) := by
  rw [addAssertion, assertionHead_verb (a := .exist) (by decide) hp [] (by decide)]
  rfl

theorem addAssertion_of_head {c : Command} {a : Assertion} {rest tail : List Text}
    (ha : a ≠ .exist) (h : assertionHead c rest = .ok (a, tail)) :
    addAssertion c rest =
      addExpected ({ c with assertion := some a }.withAspect (assertionAspect tail).1) a
        (Text.trim (Text.unwords (assertionAspect tail).2)) := by
  rw [addAssertion, h]
  exact if_neg ha

theorem addAssertion_canonical {a : Assertion} (ha : a ≠ .exist) (aspect : Aspect)
    {rest : List Text} (hrest : rest ≠ []) (c : Command) :
    addAssertion c (a.verb :: (descriptorWords aspect a ++ rest)) =
      addExpected ({ c with assertion := some a }.withAspect aspect) a
        (Text.trim (Text.unwords rest)) := by
  have hverb : (a.verb, a) ∈ assertionVerbs := by cases a <;> decide
  have hbe : decide (a.verb = "be") = false := by cases a <;> decide
  have hhead : assertionHead c ((a.verb ++ []) :: (descriptorWords aspect a ++ rest)) =
      .ok (a, descriptorWords aspect a ++ rest) :=
    assertionHead_verb hverb (.inl rfl) _ (by rw [hbe]; rfl) c
  rw [List.append_nil] at hhead
  rw [addAssertion_of_head ha hhead, assertionAspect_descriptorWords aspect a hrest]

end PlainSteps.Sentence
