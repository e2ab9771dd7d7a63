import PlainSteps.Proofs.Target

/-!
# Sentences of phrases

Behind its target a sentence goes on with phrases that connector words open. What is left of
reading such a sentence is applying the phrases to the target one after the other
(`commandOf_phrases`).
-/

namespace PlainSteps.Sentence

/-- A connector word is a term of its own, whatever stands behind it. -/
theorem termsOf_connector (k : Connector) (t : Text) :
    termsOf (k.word ++ ' ' :: t) = tagPart [] k.word [] false false false :: termsOf t := by
  have hterms := k.solid_word.tagWords (p := []) (.inl rfl) false (Text.words t)
  rw [List.append_nil] at hterms
  rw [termsOf, Text.words_word_append k.isWord_word, hterms]
  rfl

/-- A phrase that a connector word opens. It can be read wherever no quoted span is open. -/
structure Phrase where
  connector : Connector
  text : Text
  /-- The words behind the connector, if a stop `p` ends the phrase. -/
  operand : (p : Text) → List Text
  /-- The phrase negates its assertion. -/
  negates : Bool
  led : ∃ t, text = connector.word ++ ' ' :: t
  last : ∀ c ∈ text.getLast?, isBlank c = false
  seamless : Seamless {} text {}
  reads : ∀ {p : Text}, IsStop p → ∀ {r : Reading}, r.IsIdle → Reads r (Text.words (text ++ p))
    (.behind connector (connector.word :: operand p) r.segments (r.negated || negates))

namespace Phrase

/-- The phrase may end its sentence. -/
def Ends (q : Phrase) : Prop :=
  ∀ t ∈ (termsOf (q.text ++ ['.'])).getLast?, t.role ≠ .conjunction

theorem nonempty (q : Phrase) : q.text ≠ [] := by
  obtain ⟨t, ht⟩ := q.led
  simp [ht]

theorem head_termsOf (q : Phrase) (u : Text) :
    (termsOf (q.text ++ u)).head? = some (tagPart [] q.connector.word [] false false false) := by
  obtain ⟨t, ht⟩ := q.led
  have hsplit : q.text ++ u = q.connector.word ++ ' ' :: (t ++ u) := by simp [ht]
  rw [hsplit, termsOf_connector]
  rfl

theorem termsOf_append (q : Phrase) (u : Text) :
    termsOf (q.text ++ ' ' :: u) = termsOf q.text ++ termsOf u := by
  have h := (q.reads (p := []) (.inl rfl) (r := {}) (fun s => by simp)).balanced
  rw [List.append_nil] at h
  rw [termsOf, Text.words_append_blank rfl, tagWords_append_of_balanced h]
  rfl

end Phrase

/-- The phrases as they stand in a sentence, each behind a space. -/
def phraseText (ps : List Phrase) : Text := ps.flatMap fun p => ' ' :: p.text

theorem phraseText_cons (q : Phrase) (ps : List Phrase) :
    phraseText (q :: ps) = ' ' :: (q.text ++ phraseText ps) := by
  simp [phraseText]

/-- The connectors and the words behind them; a full stop ends the last phrase. -/
def operands : List Phrase → List (Connector × List Text)
  | [] => []
  | [p] => [(p.connector, p.operand ['.'])]
  | p :: q :: ps => (p.connector, p.operand []) :: operands (q :: ps)

theorem positional_concat (segments : List Segment) (k : Connector) (ws : List Text) :
    positional (segments ++ [⟨.connector k, ws⟩]) = positional segments := by
  simp [positional, SegmentKind.isPositional]

theorem connected_concat (segments : List Segment) (k : Connector) (ws : List Text) :
    connected (segments ++ [⟨.connector k, ws⟩]) = connected segments ++ [(k, ws.drop 1)] := by
  simp [connected]

theorem Reading.extends_behind (r : Reading) (k : Connector) (ws : List Text) (n : Bool) :
    r.Extends [(k, ws)] n (behind k (k.word :: ws) r.segments (r.negated || n)) :=
  ⟨fun s => by simp, positional_concat .., connected_concat .., rfl⟩

theorem reads_phrases {r : Reading} (hr : r.IsIdle) (q : Phrase) (ps : List Phrase) :
    ∃ r', Reads r (Text.words (q.text ++ phraseText ps ++ ['.'])) r' ∧
      r.Extends (operands (q :: ps)) ((q :: ps).any (·.negates)) r' := by
  induction ps generalizing r q with
  | nil =>
      have hext := r.extends_behind q.connector (q.operand ['.']) q.negates
      have hreads := q.reads (p := ['.']) (.inr rfl) hr
      refine ⟨_, ?_, by simpa [operands] using hext⟩
      simpa [phraseText] using hreads
  | cons q' ps ih =>
      have hext := r.extends_behind q.connector (q.operand []) q.negates
      have hreads := q.reads (p := []) (.inl rfl) hr
      obtain ⟨r', hrest, hext'⟩ := ih hext.idle q'
      have hwords : Text.words (q.text ++ phraseText (q' :: ps) ++ ['.']) =
          Text.words (q.text ++ []) ++ Text.words (q'.text ++ phraseText ps ++ ['.']) := by
        rw [← Text.words_append_blank (c := ' ') rfl]
        simp [phraseText]
      have hall := hext.trans hext'
      refine ⟨r', hwords ▸ hreads.append hrest fun t _ u hu hcut => ?_,
        by simpa [operands] using hall⟩
      -- The next phrase begins with its connector.
      have hhead := q'.head_termsOf (phraseText ps ++ ['.'])
      rw [← List.append_assoc, termsOf] at hhead
      rw [hhead] at hu
      obtain rfl : tagPart [] q'.connector.word [] false false false = u := Option.some.inj hu
      have hconn : ∀ k : Connector, (tagPart [] k.word [] false false false).role ≠ .verb := by
        intro k
        cases k <;> decide
      exact hconn _ hcut.2

theorem ends_phrases {q : Phrase} {ps : List Phrase} (h : ∀ x ∈ (q :: ps).getLast?, x.Ends) :
    ∀ t ∈ (termsOf (q.text ++ phraseText ps ++ ['.'])).getLast?, t.role ≠ .conjunction := by
  induction ps generalizing q with
  | nil =>
      have hq : q.Ends := h q rfl
      simpa [phraseText, Phrase.Ends] using hq
  | cons q' ps ih =>
      have ih := ih (q := q') (by simpa [List.getLast?_cons] using h)
      have hsplit : q.text ++ phraseText (q' :: ps) ++ ['.'] =
          q.text ++ ' ' :: (q'.text ++ phraseText ps ++ ['.']) := by
        simp [phraseText]
      have hne : termsOf (q'.text ++ phraseText ps ++ ['.']) ≠ [] := by
        have hhead := q'.head_termsOf (phraseText ps ++ ['.'])
        rw [← List.append_assoc] at hhead
        intro hnil
        rw [hnil] at hhead
        exact nomatch hhead
      rw [hsplit, q.termsOf_append, List.getLast?_append_of_ne_nil _ hne]
      exact ih

theorem seamless_phraseText (ps : List Phrase) : Seamless {} (phraseText ps) {} := by
  induction ps with
  | nil => exact .nil _
  | cons q qs ih =>
      have hspace : Seamless {} [' '] {} := seamless_ordinary (by decide) 0
      exact (hspace.append q.seamless).append ih

theorem getLast?_phraseText (ps : List Phrase) :
    ∀ c ∈ (phraseText ps).getLast?, isBlank c = false := by
  induction ps with
  | nil => simp [phraseText]
  | cons q qs ih =>
      rintro c hc
      obtain ⟨d, hd⟩ : ∃ d, (q.text ++ phraseText qs).getLast? = some d := by
        rw [← Option.isSome_iff_exists]
        simp [q.nonempty]
      rw [phraseText_cons, List.getLast?_cons, hd] at hc
      obtain rfl : d = c := Option.some.inj hc
      rw [List.getLast?_append] at hd
      cases hlast : (phraseText qs).getLast? with
      | none =>
          rw [hlast] at hd
          exact q.last d hd
      | some e =>
          rw [hlast] at hd
          obtain rfl : e = d := Option.some.inj hd
          exact ih e hlast

section Sentence

variable (a : Action) {object : Text} (hobject : Quotable object) {w e : Text} (hw : Names w e)
include hobject hw

/-- What is left of reading a sentence: its phrases apply to its target in order. -/
theorem commandOf_phrases [Regex.Engine] (ps : List Phrase) :
    commandOf (lexicon (sentenceOf a object w (phraseText ps))) =
      (operands ps).foldlM (fun c (k, rest) => addConnected c k rest)
        { action := a, object, elementType := e, isNegativeAssertion := ps.any (·.negates) } >>=
        checked := by
  cases ps with
  | nil =>
      have hidle := isIdle_targetReading a object (w ++ ['.'])
      have hext : (targetReading a object (w ++ ['.'])).Extends [] false
          ((targetReading a object (w ++ ['.'])).read []) := ⟨hidle, rfl, rfl, rfl⟩
      have h := commandOf_target a hobject hw (.inr rfl) (by simp [Fresh]) hext
      rw [List.append_nil] at h
      exact (congrArg commandOf (lexicon_sentenceOf_nil a hobject hw)).trans h
  | cons q qs =>
      obtain ⟨r, hreads, hext⟩ := reads_phrases (isIdle_targetReading a object (w ++ [])) q qs
      have hread : (targetReading a object (w ++ [])).read
          (termsOf (q.text ++ phraseText qs ++ ['.'])) = r := by
        have h := hreads.read [] (by simp [Fresh])
        rwa [List.append_nil (tagWords false false _)] at h
      rw [phraseText_cons, lexicon_sentenceOf_cons a hobject hw]
      refine commandOf_target a hobject hw (.inl rfl) hreads.fresh ?_
      exact hread.symm ▸ hext

theorem role_of_mem_targetTerms (p : Text) :
    ∀ t ∈ targetTerms a object w p, t.role ≠ .conjunction := by
  have hspan := isSpan_words hobject (p := []) (.inl rfl)
  rw [List.append_nil] at hspan
  intro t ht
  rcases List.mem_cons.mp ht with rfl | ht
  · cases a <;> decide
  rcases List.mem_append.mp ht with ht | ht
  · rw [hspan.role_of_mem ht]
    decide
  · obtain rfl := List.mem_singleton.mp ht
    exact hw.plain.conjunction

theorem parse_phrases [Regex.Engine] {ps : List Phrase} (hends : ∀ q ∈ ps.getLast?, q.Ends) :
    parse (sentenceOf a object w (phraseText ps)) =
      (readInstruction (lexicon (sentenceOf a object w (phraseText ps)))).map fun c => [c] := by
  have htarget := role_of_mem_targetTerms a hobject hw
  have hone : instructions (lexicon (sentenceOf a object w (phraseText ps))) =
      [lexicon (sentenceOf a object w (phraseText ps))] := by
    cases ps with
    | nil =>
        rw [show phraseText [] = [] from rfl, lexicon_sentenceOf_nil a hobject hw]
        exact instructions_of_calm (by simp [targetTerms]) (calm_of_forall (htarget _))
          fun t ht => htarget _ t (List.mem_of_getLast? ht)
    | cons q qs =>
        obtain ⟨r, hreads, -⟩ := reads_phrases (isIdle_targetReading a object (w ++ [])) q qs
        have hlast := ends_phrases hends
        rw [phraseText_cons, lexicon_sentenceOf_cons a hobject hw]
        refine instructions_of_calm (by simp [targetTerms]) ?_ fun t ht => ?_
        · exact List.isChain_append.mpr ⟨calm_of_forall (htarget _), hreads.calm,
            fun t ht u _ hcut => htarget _ t (List.mem_of_getLast? ht) hcut.1⟩
        · rw [List.getLast?_append] at ht
          cases hend : (termsOf (q.text ++ phraseText qs ++ ['.'])).getLast? with
          | some u =>
              rw [hend] at ht
              obtain rfl : u = t := Option.some.inj ht
              exact hlast u hend
          | none =>
              rw [hend] at ht
              exact htarget _ t (List.mem_of_getLast? ht)
  rw [parse_sentenceOf a hobject hw (seamless_phraseText ps) (getLast?_phraseText ps), hone,
    List.mapM_cons, List.mapM_nil]
  cases readInstruction (lexicon (sentenceOf a object w (phraseText ps))) <;> rfl

end Sentence

end PlainSteps.Sentence
