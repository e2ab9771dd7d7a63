import PlainSteps.Proofs.RoundTrip
import PlainSteps.Regex.Builtin

/-!
# Literal operands

An operand in quotes is literal behind a descriptor, whatever it says. Without one, an assertion
looks at the first words of the operand, quoted or not, and some operands are taken for a part of
the assertion: `parse_operandSentence_iff` says which.
-/

namespace PlainSteps.Sentence

/-- `Ensure "object" element to verb "operand".`, with the descriptor `value` in front of the
operand if `described`. -/
def operandSentence (object verb operand : Text) (described : Bool) : Text :=
  Action.ensure.headword ++ ' ' :: quoted object ++ ' ' :: "element".toList ++
    ' ' :: Connector.to_.word ++ ' ' :: verb ++
    (if described then ' ' :: "value".toList else []) ++ ' ' :: quoted operand ++ ['.']

/-- The command that takes the operand literally. -/
def literalCommand (object : Text) (a : Assertion) (operand : Text) : Command :=
  { action := .ensure, object, elementType := "generic", assertion := some a,
    aspect := some .plain, value := some operand }

/-- What an assertion sees of the words of a quoted operand. -/
def lookahead (operand : Text) : List Text :=
  (Text.words (quoted operand ++ ['.'])).map fun w => Text.toLower (stripPunctuation w)

/-- The words name an aspect other than the plain one. -/
def NamesAspect (words : List Text) : Prop :=
  ["accessible".toList, "description"] <+: words ∨ ["error".toList, "message"] <+: words

/-- The operand begins like a part of the assertion. -/
def IsMisread (verb operand : Text) : Prop :=
  (verb = "be" ∧ (lookahead operand).head? = some "visible".toList) ∨
    NamesAspect (lookahead operand)

instance (words : List Text) : Decidable (NamesAspect words) := inferInstanceAs (Decidable (_ ∨ _))

instance (verb operand : Text) : Decidable (IsMisread verb operand) :=
  inferInstanceAs (Decidable (_ ∨ _))

theorem names_element : Names "element" "generic" :=
  ⟨by decide, by decide, by decide, by decide⟩

theorem parse_phrases_iff [Regex.Engine] (a : Action) {object : Text} (hobject : Quotable object)
    {w e : Text} (hw : Names w e) {ps : List Phrase} (hends : ∀ q ∈ ps.getLast?, q.Ends)
    (c : Command) : parse (sentenceOf a object w (phraseText ps)) = .ok [c] ↔
      commandOf (lexicon (sentenceOf a object w (phraseText ps))) = .ok c := by
  rw [parse_phrases a hobject hw hends, readInstruction]
  cases commandOf (lexicon (sentenceOf a object w (phraseText ps))) with
  | error cause => exact iff_of_false (by simp [Except.map, Except.mapError]) (by simp)
  | ok c' =>
      constructor
      · intro h
        exact congrArg Except.ok (List.head_eq_of_cons_eq (Except.ok.inj h))
      · intro h
        rw [Except.ok.inj h]
        rfl

/-- The phrase of a quoted operand behind its verb. -/
def operandPhrase (verb : Text) (hverb : verb ∈ keywords) (operand : Text)
    (hoperand : Quotable operand) : Phrase :=
  .ofPiece .to_ false ((keywordPiece verb hverb).append (.quote operand hoperand))

/-- The phrase of a quoted operand behind its verb and the descriptor. -/
def describedPhrase (verb : Text) (hverb : verb ∈ keywords) (operand : Text)
    (hoperand : Quotable operand) : Phrase :=
  .ofPiece .to_ false ((keywordPiece verb hverb).append (valuePiece operand hoperand))

theorem operandSentence_eq (object : Text) {verb operand : Text} (hverb : verb ∈ keywords)
    (hoperand : Quotable operand) :
    operandSentence object verb operand false = sentenceOf .ensure object "element"
        (phraseText [operandPhrase verb hverb operand hoperand]) ∧
      operandSentence object verb operand true = sentenceOf .ensure object "element"
        (phraseText [describedPhrase verb hverb operand hoperand]) := by
  constructor
  · rw [sentenceOf, operandPhrase, phraseText_ofPiece, operandSentence]
    simp only [Piece.append, keywordPiece, Piece.word, Piece.quote, List.append_assoc,
      List.cons_append, List.nil_append, Bool.false_eq_true, if_false]
  · rw [sentenceOf, describedPhrase, phraseText_ofPiece, operandSentence]
    simp only [valuePiece, Piece.append, keywordPiece, Piece.word, Piece.quote, List.append_assoc,
      List.cons_append, List.nil_append, Bool.false_eq_true, if_false, if_true]

theorem mem_keywords_of_mem_assertionVerbs {verb : Text} {a : Assertion}
    (h : (verb, a) ∈ assertionVerbs) : verb ∈ keywords :=
  List.mem_append_right _ (List.mem_map_of_mem h)

/-- What an assertion compares with does not change what it reads. -/
theorem addExpected_aspect [Regex.Engine] {c c' : Command} {a : Assertion} (ha : a ≠ .fits)
    {operand : Text} (h : addExpected c a operand = .ok c') : c'.aspect = c.aspect := by
  cases hempty : operand.isEmpty with
  | true =>
      simp only [addExpected, hempty] at h
      cases h
  | false =>
      cases hq : unquote? operand with
      | some v =>
          simp only [addExpected, hempty, hq, if_neg ha] at h
          cases h
          rfl
      | none =>
          cases hv : variableReference? (stripFullStop operand) <;>
            simp only [addExpected, hempty, hq, hv, if_neg ha] at h <;> cases h <;> rfl

theorem assertionAspect_quoted {w : Text} (hw : w.head? = some '"') (r : List Text) :
    let named := NamesAspect ((w :: r).map fun v => Text.toLower (stripPunctuation v))
    (named → (assertionAspect (w :: r)).1 ≠ .plain) ∧
      (¬ named → assertionAspect (w :: r) = (.plain, w :: r)) := by
  intro named
  cases r with
  | nil =>
      refine ⟨fun h => ?_, fun _ => rfl⟩
      rcases h with h | h <;> simp [List.cons_prefix_cons] at h
  | cons v r =>
      have hbegins : beginsOperand w = true := by
        rw [beginsOperand, hw]
        rfl
      have hnamed : named ↔
          (decide (Text.toLower (stripPunctuation w) = "accessible") &&
              decide (Text.toLower (stripPunctuation v) = "description")) = true ∨
            (decide (Text.toLower (stripPunctuation w) = "error") &&
              decide (Text.toLower (stripPunctuation v) = "message")) = true := by
        simp only [named, NamesAspect, List.map_cons, List.cons_prefix_cons, List.nil_prefix,
          and_true, Bool.and_eq_true, decide_eq_true_eq,
          @eq_comm Text (Text.toLower (stripPunctuation w)),
          @eq_comm Text (Text.toLower (stripPunctuation v))]
      rw [hnamed]
      simp only [assertionAspect, hbegins, if_true]
      refine ⟨fun h => ?_, fun h => ?_⟩
      · split
        · simp
        · next hfirst =>
            rw [if_pos (h.resolve_left hfirst)]
            simp
      · rw [not_or] at h
        rw [if_neg h.1, if_neg h.2]

theorem assertionHead_visible {w : Text} (hw : Text.toLower (stripPunctuation w) = "visible")
    (c : Command) (r : List Text) : assertionHead c ("be".toList :: w :: r) = .ok (.exist, r) := by
  have hbe : Text.toLower (stripPunctuation "be") = "be" := by decide
  simp only [assertionHead, hbe, List.head?_cons, Option.any_some, decide_eq_true hw, decide_true,
    Bool.and_true, if_true]
  rfl

theorem addAssertion_visible [Regex.Engine] {w : Text}
    (hw : Text.toLower (stripPunctuation w) = "visible") (c : Command) (r : List Text) :
    addAssertion c ("be".toList :: w :: r) =
      .ok ({ c with assertion := some .exist }.withAspect .plain) := by
  rw [addAssertion, assertionHead_visible hw]
  rfl

theorem checked_literalCommand {object operand : Text} {a : Assertion}
    (hnamed : Text.blank object = false) (ha : a = .exact ∨ a = .contain) :
    checked (literalCommand object a operand) = .ok (literalCommand object a operand) := by
  have hfault : (literalCommand object a operand).fault? = none := by
    rcases ha with rfl | rfl <;>
      simp [Command.fault?, Command.operandFault?, literalCommand, hnamed]
  rw [checked, hfault]
  rfl

section Operand

variable {object verb operand : Text} {a : Assertion} (hobject : Quotable object)
  (hoperand : Quotable operand) (hverb : (verb, a) ∈ assertionVerbs)
include hobject hoperand hverb

/-- What is left of reading an operand without a descriptor. -/
theorem commandOf_operandSentence [Regex.Engine] :
    commandOf (lexicon (operandSentence object verb operand false)) =
      addAssertion { action := .ensure, object, elementType := "generic" }
        (verb :: Text.words (quoted operand ++ ['.'])) >>= checked := by
  have hkeyword := mem_keywords_of_mem_assertionVerbs hverb
  rw [(operandSentence_eq object hkeyword hoperand).1,
    commandOf_phrases .ensure hobject names_element]
  have hout : ((keywordPiece verb hkeyword).append (.quote operand hoperand)).out ['.'] =
      verb :: Text.words (quoted operand ++ ['.']) :=
    congrArg (· :: Text.words (quoted operand ++ ['.'])) (List.append_nil verb)
  simp only [operands, operandPhrase, Phrase.ofPiece, hout, List.foldlM_cons, List.foldlM_nil,
    List.any_cons, List.any_nil, Bool.or_false, addConnected]
  rw [bind_pure]

theorem parse_operandSentence_described [Regex.Engine] (hnamed : Text.blank object = false)
    (ha : a = .exact ∨ a = .contain) :
    parse (operandSentence object verb operand true) = .ok [literalCommand object a operand] := by
  have hkeyword := mem_keywords_of_mem_assertionVerbs hverb
  have hexist : a ≠ .exist := by rcases ha with rfl | rfl <;> decide
  have hfits : a ≠ .fits := by rcases ha with rfl | rfl <;> decide
  rw [(operandSentence_eq object hkeyword hoperand).2]
  refine parse_of_applies hobject names_element ?_ (applies_ofPiece false fun p hp => ?_) rfl ?_
  · rintro q ⟨⟩
    exact Phrase.ends_ofPiece _ _ _
  · have hout : ((keywordPiece verb hkeyword).append (valuePiece operand hoperand)).out p =
        verb :: (descriptorWords .plain .exact ++ Text.words (quoted operand ++ p)) :=
      congrArg (· :: "value".toList :: Text.words (quoted operand ++ p)) (List.append_nil verb)
    have hvisible : Text.toLower (stripPunctuation "value") ≠ "visible" := by decide
    have hhead : assertionHead { action := .ensure, object, elementType := "generic" }
        ((verb ++ []) :: (descriptorWords .plain .exact ++ Text.words (quoted operand ++ p))) =
        .ok (a, descriptorWords .plain .exact ++ Text.words (quoted operand ++ p)) :=
      assertionHead_verb hverb (.inl rfl) ("value".toList :: Text.words (quoted operand ++ p))
        (Bool.and_eq_false_iff.mpr (.inr (decide_eq_false hvisible))) _
    obtain ⟨hne, hjoin⟩ : Text.words (quoted operand ++ p) ≠ [] ∧
        Text.trim (Text.unwords (Text.words (quoted operand ++ p))) = quoted operand ++ p :=
      quote_operand hoperand hp
    rw [List.append_nil] at hhead
    rw [hout, addConnected_ensure rfl]
    change addAssertion { action := .ensure, object, elementType := "generic" } _ = _
    rw [addAssertion_of_head hexist hhead, assertionAspect_descriptorWords .plain .exact hne,
      hjoin, addExpected_quoted hoperand hp _ hfits]
    rfl
  · rcases ha with rfl | rfl <;>
      simp [Command.fault?, Command.operandFault?, literalCommand, hnamed]

/-- Without a descriptor the operand is literal unless it begins like a part of the assertion. -/
theorem parse_operandSentence_iff [Regex.Engine] (hnamed : Text.blank object = false)
    (ha : a = .exact ∨ a = .contain) :
    parse (operandSentence object verb operand false) = .ok [literalCommand object a operand] ↔
      ¬ IsMisread verb operand := by
  have hkeyword := mem_keywords_of_mem_assertionVerbs hverb
  have hexist : a ≠ .exist := by rcases ha with rfl | rfl <;> decide
  have hfits : a ≠ .fits := by rcases ha with rfl | rfl <;> decide
  have hends : ∀ q ∈ [operandPhrase verb hkeyword operand hoperand].getLast?, q.Ends := by
    rintro q ⟨⟩
    exact Phrase.ends_ofPiece _ _ _
  rw [(operandSentence_eq object hkeyword hoperand).1,
    parse_phrases_iff .ensure hobject names_element hends,
    ← (operandSentence_eq object hkeyword hoperand).1,
    commandOf_operandSentence hobject hoperand hverb]
  have hstop : IsStop ['.'] := .inr rfl
  obtain ⟨hne, hjoin⟩ : Text.words (quoted operand ++ ['.']) ≠ [] ∧
      Text.trim (Text.unwords (Text.words (quoted operand ++ ['.']))) = quoted operand ++ ['.'] :=
    quote_operand hoperand hstop
  obtain ⟨w, r, hwr, hw⟩ := exists_head_words_quoted hoperand hstop
  obtain ⟨haspect, hplain⟩ := assertionAspect_quoted hw r
  have hmisread : IsMisread verb operand ↔
      (verb = "be" ∧ Text.toLower (stripPunctuation w) = "visible") ∨
        NamesAspect ((w :: r).map fun v => Text.toLower (stripPunctuation v)) := by
    rw [IsMisread, lookahead, hwr, List.map_cons, List.head?_cons, Option.some.injEq]
  rw [hmisread, hwr]
  rw [hwr] at hjoin
  by_cases hvisible : verb = "be" ∧ Text.toLower (stripPunctuation w) = "visible"
  · -- The assertion is read as one that compares with nothing.
    refine iff_of_false (fun h => ?_) fun h => h (.inl hvisible)
    rw [hvisible.1, addAssertion_visible hvisible.2] at h
    obtain ⟨c, hc, hchecked⟩ := bind_eq_ok h
    rw [checked_eq_ok hchecked] at hc
    have hvalue := congrArg Command.value (Except.ok.inj hc)
    exact nomatch hvalue
  · have hbe : (decide (verb = "be") && decide (Text.toLower (stripPunctuation w) = "visible")) =
        false := by
      rw [← Bool.decide_and]
      exact decide_eq_false hvisible
    have hhead : assertionHead { action := .ensure, object, elementType := "generic" }
        ((verb ++ []) :: w :: r) = .ok (a, w :: r) :=
      assertionHead_verb hverb (.inl rfl) (w :: r) hbe _
    rw [List.append_nil] at hhead
    rw [addAssertion_of_head hexist hhead]
    by_cases hother : NamesAspect ((w :: r).map fun v => Text.toLower (stripPunctuation v))
    · refine iff_of_false (fun h => ?_) fun h => h (.inr hother)
      obtain ⟨c, hc, hchecked⟩ := bind_eq_ok h
      have hread := addExpected_aspect hfits hc
      rw [checked_eq_ok hchecked] at hread
      exact haspect hother (Option.some.inj hread).symm
    · refine iff_of_true ?_ (not_or.mpr ⟨hvisible, hother⟩)
      rw [hplain hother, hjoin, addExpected_quoted hoperand hstop _ hfits]
      exact checked_literalCommand hnamed ha

end Operand

/-- Behind a descriptor a quoted operand is literal. Without one it is read the same way exactly
if its first words name no part of an assertion. -/
theorem parse_operandSentence [Regex.Engine] {object verb operand : Text} {a : Assertion}
    (hobject : Quotable object) (hnamed : Text.blank object = false) (hoperand : Quotable operand)
    (hverb : (verb, a) ∈ assertionVerbs) (ha : a = .exact ∨ a = .contain) :
    parse (operandSentence object verb operand true) = .ok [literalCommand object a operand] ∧
      (parse (operandSentence object verb operand false) =
          parse (operandSentence object verb operand true) ↔ ¬ IsMisread verb operand) := by
  have hdescribed := parse_operandSentence_described hobject hoperand hverb hnamed ha
  refine ⟨hdescribed, ?_⟩
  rw [hdescribed]
  exact parse_operandSentence_iff hobject hoperand hverb hnamed ha

open Regex.Builtin

theorem parse_operandSentence_descriptive :
    let operand : Text := "Accessible \"description, visible"
    ¬ IsMisread "contains" operand ∧
      parse (operandSentence "X" "contains" operand false) =
        .ok [literalCommand "X" .contain operand] := by
  intro operand
  have h := @parse_operandSentence _ "X" "contains" operand .contain (by decide) (by decide)
    (by decide) (by decide) (.inr rfl)
  have hliteral : ¬ IsMisread "contains" operand := by decide
  exact ⟨hliteral, (h.2.mpr hliteral).trans h.1⟩

/-- A quoted operand that is taken for a part of the assertion. -/
theorem parse_operandSentence_visible_ne :
    Quotable "visible" ∧ ("be".toList, Assertion.exact) ∈ assertionVerbs ∧
      parse (operandSentence "X" "be" "visible" false) ≠
        parse (operandSentence "X" "be" "visible" true) := by
  have hquotable : Quotable "visible" := by decide
  have hverb : ("be".toList, Assertion.exact) ∈ assertionVerbs := by decide
  have hmisread : IsMisread "be" "visible" := .inl ⟨rfl, by decide⟩
  refine ⟨hquotable, hverb, ?_⟩
  rw [parse_operandSentence_described (by decide) hquotable hverb (by decide) (.inl rfl)]
  exact fun h => (parse_operandSentence_iff (by decide) hquotable hverb (by decide) (.inl rfl)).mp h
    hmisread

end PlainSteps.Sentence
