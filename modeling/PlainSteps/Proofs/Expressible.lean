import PlainSteps.Proofs.References

/-!
# Expressible commands

The canonical sentence of an expressible command is read as that command and nothing else
(`parse_render_of_expressible`). A command is expressible if its quoted texts are quotable and its
other texts are read as they stand.
-/

namespace PlainSteps

open Sentence

namespace Command

/-- No scope, a section with a quotable title, or a scope that is read as it stands. A scope that
ends its sentence ends in no conjunction. -/
def ScopeExpressible (c : Command) : Prop :=
  match c.specifier with
  | none => c.isSection = false
  | some s =>
    if c.isSection then Quotable s
    else IsScope s ∧ (c.action = .click ∨ c.action = .hover →
      ∀ t ∈ (termsOf s).getLast?, t.role ≠ .conjunction)

/-- Nothing is asserted. -/
def Unasserted (c : Command) : Prop :=
  c.isNegativeAssertion = false ∧ c.assertion = none ∧ c.aspect = none

/-- What an assertion compares with: nothing, a value that stays in its quotes, or a name. -/
def ExpectationExpressible [Regex.Engine] (c : Command) (a : Assertion) : Prop :=
  match a with
  | .exist => c.aspect = some .plain ∧ c.value = none ∧ c.variableName = none
  | a => c.aspect.isSome ∧
    ((c.variableName = none ∧ ∃ v, c.value = some v ∧
        if a = .fits then Quotable ('/' :: v ++ ['/']) ∧ checkRegex v = .ok () else Quotable v) ∨
      (c.value = none ∧ ∃ name, c.variableName = some name ∧ IsReference name))

/-- The operands that the action takes, and nothing else. -/
def OperandsExpressible [Regex.Engine] (c : Command) : Prop :=
  match c.action with
  | .click | .hover => c.Unasserted ∧ c.variableName = none ∧ c.value = none
  | .fill => c.Unasserted ∧ c.variableName = none ∧ ∃ v, c.value = some v ∧ Quotable v
  | .slide => c.Unasserted ∧ c.variableName = none ∧ ∃ v, c.value = some v ∧ Quotable v ∧ v ≠ []
  | .store => c.Unasserted ∧ c.value = none ∧ ∃ name, c.variableName = some name ∧ IsName name
  | .ensure => ∃ a, c.assertion = some a ∧ c.ExpectationExpressible a

/-- A command that is read back from its canonical sentence. -/
structure Expressible [Regex.Engine] (c : Command) : Prop where
  valid : c.fault? = none
  object : Quotable c.object
  elementType : c.elementType ∈ standardRoles
  scope : c.ScopeExpressible
  operands : c.OperandsExpressible

/-- The command without its operands. -/
def bare (c : Command) : Command :=
  { c with assertion := none, aspect := none, variableName := none, value := none }

end Command

theorem names_of_standardRole {e : Text} (he : e ∈ standardRoles) : Names e e := by
  have hword : ∀ e ∈ standardRoles, Text.IsWord e := by decide +kernel
  have halnum : ∀ e ∈ standardRoles, ∀ c ∈ e, isAlphanumeric c := by decide +kernel
  have hnoun : ∀ e ∈ standardRoles, roleOf (Text.toLower e) false = .noun := by decide +kernel
  have hrole : ∀ e ∈ standardRoles, roleNamed? e = some e := by decide +kernel
  exact ⟨hword e he, halnum e he, hnoun e he, hrole e he⟩

/-! ## The phrases of a canonical sentence -/

theorem applies_ofPiece [Regex.Engine] {c c' : Command} {k : Connector} {x : Piece} (n : Bool)
    (h : ∀ p, IsStop p → addConnected c k (x.out p) = .ok c') :
    Applies c [Phrase.ofPiece k n x] c' :=
  .cons h (.nil c')

theorem phraseText_ofPiece (k : Connector) (n : Bool) (x : Piece) :
    phraseText [Phrase.ofPiece k n x] =
      ' ' :: (k.word ++ (if n then " not ".toList else [' ']) ++ x.text) :=
  List.append_nil _

/-- A keyword as a piece. -/
def keywordPiece (w : Text) (hw : w ∈ keywords) : Piece := .word w (isKeyword_of_mem hw)

/-- A name in braces as a piece. -/
def bracedPiece (name : Text) (h : IsName name) : Piece := .word _ (isKeyword_braced h)

def titlePiece (t : Text) (ht : Quotable t) : Piece :=
  ((keywordPiece "the" (by decide)).append (.quote t ht)).append
    (keywordPiece "section" (by decide))

def valuePiece (v : Text) (hv : Quotable v) : Piece :=
  (keywordPiece "value" (by decide)).append (.quote v hv)

def variablePiece (name : Text) (h : IsName name) : Piece :=
  (keywordPiece "variable" (by decide)).append (bracedPiece name h)

theorem titlePiece_out {t : Text} (ht : Quotable t) (p : Text) : (titlePiece t ht).out p =
    "the".toList :: (Text.words (quoted t) ++ ["section".toList ++ p]) := by
  have hquote : (Piece.quote t ht).out [] = Text.words (quoted t) :=
    congrArg Text.words (List.append_nil _)
  change (["the".toList ++ []] ++ (Piece.quote t ht).out []) ++ ["section".toList ++ p] = _
  rw [hquote, List.append_nil, List.append_assoc]
  rfl

theorem applies_title [Regex.Engine] {t : Text} (ht : Quotable t) (c : Command) :
    Applies c [.ofPiece .on_ false (titlePiece t ht)] (c.withSection t) := by
  refine applies_ofPiece false fun p hp => ?_
  rw [titlePiece_out]
  exact addScope_title ht hp c

theorem applies_scope [Regex.Engine] {s : Text} (hs : IsScope s) (c : Command) :
    Applies c [.scope s hs] (c.withSpecifier s) :=
  .cons (fun _ hp => addScope_scope hs hp c) (.nil _)

/-- A scope is at most one phrase, behind `on`. -/
theorem exists_scopePhrases [Regex.Engine] {c : Command} (h : c.ScopeExpressible) :
    ∃ ps, (ps = [] ∨ ∃ q : Phrase, ps = [q] ∧ q.connector = .on_) ∧
      phraseText ps = c.renderScope ∧ ps.any (·.negates) = false ∧
      (c.action = .click ∨ c.action = .hover → ∀ q ∈ ps.getLast?, q.Ends) ∧
      Applies { c.bare with specifier := none, isSection := false } ps c.bare := by
  obtain ⟨action, object, elementType, specifier, isSection, n, assertion, aspect, name, value⟩ := c
  cases specifier with
  | none =>
      obtain rfl : isSection = false := h
      exact ⟨[], .inl rfl, rfl, rfl, fun _ q hq => absurd hq (by simp), .nil _⟩
  | some s =>
      cases isSection with
      | true =>
          have hs : Quotable s := h
          refine ⟨[.ofPiece .on_ false (titlePiece s hs)], .inr ⟨_, rfl, rfl⟩, ?_, rfl,
            fun _ q hq => ?_, applies_title hs _⟩
          · rw [phraseText_ofPiece]
            rfl
          · obtain rfl := Option.some.inj hq
            exact Phrase.ends_ofPiece _ _ _
      | false =>
          obtain ⟨hs, hlast⟩ := h
          refine ⟨[.scope s hs], .inr ⟨_, rfl, rfl⟩, List.append_nil _, rfl, fun hend q hq => ?_,
            applies_scope hs _⟩
          obtain rfl := Option.some.inj hq
          exact Phrase.ends_scope hs (hlast hend)

/-- What an assertion compares with, behind its verb and descriptor. -/
def comparisonPiece (a : Assertion) (aspect : Aspect) (operand : Piece) : Piece :=
  (keywordPiece a.verb (by cases a <;> decide)).append <|
    match aspect, a with
    | .accessible, _ => (keywordPiece "accessible" (by decide)).append
        ((keywordPiece "description" (by decide)).append operand)
    | .error, _ => (keywordPiece "error" (by decide)).append
        ((keywordPiece "message" (by decide)).append operand)
    | .plain, .fits => (keywordPiece "pattern" (by decide)).append operand
    | .plain, .contain => (keywordPiece "text" (by decide)).append operand
    | .plain, _ => (keywordPiece "value" (by decide)).append operand

theorem comparisonPiece_text (a : Assertion) (aspect : Aspect) (operand : Piece) :
    (comparisonPiece a aspect operand).text =
      a.verb ++ ' ' :: (Command.descriptor aspect a ++ ' ' :: operand.text) := by
  cases aspect <;> cases a <;> rfl

theorem comparisonPiece_out (a : Assertion) (aspect : Aspect) (operand : Piece) (p : Text) :
    (comparisonPiece a aspect operand).out p =
      a.verb :: (descriptorWords aspect a ++ operand.out p) := by
  cases aspect <;> cases a <;> rfl

theorem addConnected_ensure [Regex.Engine] {c : Command} (hc : c.action = .ensure)
    (rest : List Text) :
    addConnected c .to_ rest = addAssertion c rest := by
  simp only [addConnected, hc]

theorem applies_exist [Regex.Engine] (n : Bool) {c c' : Command} (hc : c.action = .ensure)
    (h : { c with assertion := some .exist }.withAspect .plain = c') :
    Applies c [.ofPiece .to_ n (keywordPiece "exist" (by decide))] c' := by
  refine applies_ofPiece n fun p hp => ?_
  rw [addConnected_ensure hc, ← h]
  exact addAssertion_exist hp c

theorem applies_comparison [Regex.Engine] (n : Bool) {a : Assertion} (ha : a ≠ .exist)
    (aspect : Aspect) {operand : Piece} {c c' : Command} (hc : c.action = .ensure)
    (h : ∀ p, IsStop p → operand.out p ≠ [] ∧
      addExpected ({ c with assertion := some a }.withAspect aspect) a
        (Text.trim (Text.unwords (operand.out p))) = .ok c') :
    Applies c [.ofPiece .to_ n (comparisonPiece a aspect operand)] c' := by
  refine applies_ofPiece n fun p hp => ?_
  obtain ⟨hout, hexpected⟩ := h p hp
  rw [addConnected_ensure hc, comparisonPiece_out, addAssertion_canonical ha aspect hout, hexpected]

theorem trim_quoted_append {t p : Text} (hp : IsStop p) :
    Text.trim (quoted t ++ p) = quoted t ++ p := by
  refine Text.trim_eq_self (fun c hc => ?_) fun c hc => ?_
  · obtain rfl : '"' = c := Option.some.inj hc
    rfl
  · rcases hp with rfl | rfl
    · rw [List.append_nil, getLast?_quoted] at hc
      obtain rfl : '"' = c := Option.some.inj hc
      rfl
    · rw [List.getLast?_concat] at hc
      obtain rfl : '.' = c := Option.some.inj hc
      rfl

theorem trim_braced_append {name p : Text} (hp : IsStop p) :
    Text.trim ('{' :: name ++ ['}'] ++ p) = '{' :: name ++ ['}'] ++ p :=
  trim_append hp (by simp) (isInner_head_braced name) (isInner_last_braced name)

theorem quote_operand {t : Text} (ht : Quotable t) {p : Text} (hp : IsStop p) :
    (Piece.quote t ht).out p ≠ [] ∧
      Text.trim (Text.unwords ((Piece.quote t ht).out p)) = quoted t ++ p := by
  obtain ⟨w, r, hwr, -⟩ := exists_head_words_quoted ht hp
  have hjoin : Text.unwords ((Piece.quote t ht).out p) = quoted t ++ p :=
    unwords_words_quoted ht.1 hp.dense
  refine ⟨fun hnil => ?_, by rw [hjoin, trim_quoted_append hp]⟩
  rw [show (Piece.quote t ht).out p = w :: r from hwr] at hnil
  exact List.cons_ne_nil w r hnil

theorem reference_operand {name : Text} (h : IsReference name) {p : Text} (hp : IsStop p) :
    (Piece.reference name h).out p ≠ [] ∧
      Text.trim (Text.unwords ((Piece.reference name h).out p)) = braced name ++ p := by
  have hjoin : Text.unwords ((Piece.reference name h).out p) = braced name ++ p :=
    unwords_words_braced h.spaced hp.dense
  refine ⟨fun hnil => ?_, by rw [hjoin, trim_braced_append hp]⟩
  rw [hnil] at hjoin
  exact nomatch hjoin

/-- The phrase stands for the operand of the command. -/
structure Completes [Regex.Engine] (q : Phrase) (c : Command) : Prop where
  ends : q.Ends
  text : phraseText [q] = c.renderOperand
  negates : q.negates = c.isNegativeAssertion
  applies : Applies c.bare [q] c

section Comparison

variable {c : Command} {a : Assertion} {aspect : Aspect} (operand : Piece)
  (haction : c.action = .ensure) (ha : a ≠ .exist) (hassertion : c.assertion = some a)
  (haspect : c.aspect = some aspect) (htext : c.renderExpected a = ' ' :: operand.text)
include haction ha hassertion haspect htext

theorem phraseText_comparison :
    phraseText [.ofPiece .to_ c.isNegativeAssertion (comparisonPiece a aspect operand)] =
      c.renderOperand := by
  rw [phraseText_ofPiece, comparisonPiece_text, Command.renderOperand, haction]
  simp only [Command.renderAssertion, hassertion, haspect, Option.getD_some, if_neg ha, htext]
  cases c.isNegativeAssertion <;> simp [Connector.word]

theorem exists_comparison [Regex.Engine]
    (h : ∀ p, IsStop p → operand.out p ≠ [] ∧
      addExpected ({ c.bare with assertion := some a }.withAspect aspect) a
        (Text.trim (Text.unwords (operand.out p))) = .ok c) : ∃ q, Completes q c :=
  ⟨.ofPiece .to_ c.isNegativeAssertion (comparisonPiece a aspect operand),
    Phrase.ends_ofPiece _ _ _, phraseText_comparison operand haction ha hassertion haspect htext,
    rfl, applies_comparison _ ha aspect haction h⟩

end Comparison

/-- A command is its bare command with its operands. -/
theorem Command.eq_bare (c : Command) {assertion : Option Assertion} {aspect : Option Aspect}
    {name value : Option Text} (hassertion : c.assertion = assertion) (haspect : c.aspect = aspect)
    (hname : c.variableName = name) (hvalue : c.value = value) :
    { c.bare with assertion, aspect, variableName := name, value } = c := by
  subst hassertion haspect hname hvalue
  rfl

theorem quoted_slashed (v : Text) :
    " \"/".toList ++ escapeQuotes v ++ "/\"".toList = ' ' :: quoted ('/' :: v ++ ['/']) := by
  rw [quoted, escapeQuotes_append, escapeQuotes, if_neg (by decide)]
  simp [escapeQuotes]

theorem exists_assertionPhrase [Regex.Engine] {c : Command} {a : Assertion}
    (haction : c.action = .ensure) (hassertion : c.assertion = some a)
    (h : c.ExpectationExpressible a) :
    ∃ q, Completes q c := by
  by_cases ha : a = .exist
  · subst ha
    obtain ⟨haspect, hvalue, hname⟩ := h
    have hc := c.eq_bare hassertion haspect hname hvalue
    refine ⟨.ofPiece .to_ c.isNegativeAssertion (keywordPiece "exist" (by decide)),
      Phrase.ends_ofPiece _ _ _, ?_, rfl, applies_exist _ haction hc⟩
    rw [phraseText_ofPiece, Command.renderOperand, haction]
    simp only [Command.renderAssertion, hassertion, Option.getD_some, if_true]
    cases c.isNegativeAssertion <;> rfl
  · rw [Command.ExpectationExpressible.eq_2 _ _ ha] at h
    obtain ⟨hsome, hcases⟩ := h
    obtain ⟨aspect, haspect⟩ := Option.isSome_iff_exists.mp hsome
    rcases hcases with ⟨hname, v, hvalue, hv⟩ | ⟨hvalue, name, hname, href⟩
    · have hc := c.eq_bare hassertion haspect hname hvalue
      by_cases hfits : a = .fits
      · subst hfits
        obtain ⟨hslashed, hregex⟩ := hv
        refine exists_comparison (.quote _ hslashed) haction ha hassertion haspect ?_
          fun p hp => ?_
        · simp only [Command.renderExpected, hname, hvalue, if_true]
          exact quoted_slashed v
        · obtain ⟨hne, hjoin⟩ := quote_operand hslashed hp
          refine ⟨hne, ?_⟩
          rw [hjoin, addExpected_pattern hslashed hp hregex]
          exact congrArg Except.ok hc
      · rw [if_neg hfits] at hv
        refine exists_comparison (.quote v hv) haction ha hassertion haspect ?_
          fun p hp => ?_
        · simp only [Command.renderExpected, hname, hvalue, if_neg hfits]
          rfl
        · obtain ⟨hne, hjoin⟩ := quote_operand hv hp
          refine ⟨hne, ?_⟩
          rw [hjoin, addExpected_quoted hv hp _ hfits]
          exact congrArg Except.ok hc
    · have hc := c.eq_bare hassertion haspect hname hvalue
      refine exists_comparison (.reference name href) haction ha hassertion haspect ?_
        fun p hp => ?_
      · simp only [Command.renderExpected, hname]
        rfl
      · obtain ⟨hne, hjoin⟩ := reference_operand href hp
        refine ⟨hne, ?_⟩
        rw [hjoin, addExpected_reference href hp]
        exact congrArg Except.ok hc

theorem exists_operandPhrase [Regex.Engine] {c : Command} (h : c.OperandsExpressible) :
    ((c.action = .click ∨ c.action = .hover) ∧ c.renderOperand = [] ∧
        c.isNegativeAssertion = false ∧ c.bare = c) ∨ ∃ q, Completes q c := by
  rw [Command.OperandsExpressible] at h
  cases haction : c.action with
  | click | hover =>
      rw [haction] at h
      obtain ⟨⟨hn, hassertion, haspect⟩, hname, hvalue⟩ := h
      have hc := c.eq_bare hassertion haspect hname hvalue
      refine .inl ⟨by simp, ?_, hn, hc⟩
      rw [Command.renderOperand, haction]
  | fill =>
      rw [haction] at h
      obtain ⟨⟨hn, hassertion, haspect⟩, hname, v, hvalue, hv⟩ := h
      have hc := c.eq_bare hassertion haspect hname hvalue
      refine .inr ⟨.ofPiece .with_ false (valuePiece v hv), Phrase.ends_ofPiece _ _ _, ?_, hn.symm,
        applies_ofPiece false fun p hp =>
          (addValue_quoted hv hp c.bare).trans (congrArg Except.ok hc)⟩
      rw [phraseText_ofPiece, Command.renderOperand, haction, hvalue]
      rfl
  | slide =>
      rw [haction] at h
      obtain ⟨⟨hn, hassertion, haspect⟩, hname, v, hvalue, hv, hne⟩ := h
      have hc := c.eq_bare hassertion haspect hname hvalue
      have hslide (rest : List Text) : addConnected c.bare .to_ rest = addPosition c.bare rest := by
        simp only [addConnected, Command.bare, haction]
      refine .inr ⟨.ofPiece .to_ false (valuePiece v hv), Phrase.ends_ofPiece _ _ _, ?_, hn.symm,
        applies_ofPiece false fun p hp => (hslide _).trans
          ((addPosition_quoted hv hne hp c.bare).trans (congrArg Except.ok hc))⟩
      rw [phraseText_ofPiece, Command.renderOperand, haction, hvalue]
      rfl
  | store =>
      rw [haction] at h
      obtain ⟨⟨hn, hassertion, haspect⟩, hvalue, name, hname, hbraced⟩ := h
      have hc := c.eq_bare hassertion haspect hname hvalue
      have hstore (rest : List Text) :
          addConnected c.bare .into_ rest = addStoreName c.bare rest := by
        simp only [addConnected, Command.bare, haction]
      refine .inr ⟨.ofPiece .into_ false (variablePiece name hbraced), Phrase.ends_ofPiece _ _ _,
        ?_, hn.symm, applies_ofPiece false fun p hp => (hstore _).trans
          ((addStoreName_braced hbraced hp c.bare).trans (congrArg Except.ok hc))⟩
      rw [phraseText_ofPiece, Command.renderOperand, haction, hname]
      rfl
  | ensure =>
      rw [haction] at h
      obtain ⟨a, hassertion, hexpected⟩ := h
      exact .inr (exists_assertionPhrase haction hassertion hexpected)

/-! ## The round trip -/

theorem Command.Expressible.assertion [Regex.Engine] {c : Command} (h : c.Expressible) :
    (decide (c.action = .ensure) && c.assertion.isNone) = false := by
  have hops := h.operands
  rw [Command.OperandsExpressible] at hops
  cases haction : c.action with
  | click | hover | fill | slide | store => rfl
  | ensure =>
      rw [haction] at hops
      obtain ⟨a, hassertion, -⟩ := hops
      rw [hassertion]
      rfl

theorem render_eq_sentenceOf (c : Command) :
    c.render = sentenceOf c.action c.object c.elementType (c.renderScope ++ c.renderOperand) := by
  rw [Command.render, sentenceOf]
  simp

/-- The canonical sentence of an expressible command is read as that command. -/
theorem parse_render_of_expressible [Regex.Engine] {c : Command} (h : c.Expressible) :
    parse c.render = .ok [c] := by
  obtain ⟨ps, -, hps, hpsNeg, hpsEnds, hscope⟩ := exists_scopePhrases h.scope
  obtain ⟨qs, hqs, hqsNeg, hends, hoperand⟩ : ∃ qs, phraseText qs = c.renderOperand ∧
      qs.any (·.negates) = c.isNegativeAssertion ∧ (∀ q ∈ (ps ++ qs).getLast?, q.Ends) ∧
      Applies c.bare qs c := by
    rcases exists_operandPhrase h.operands with ⟨haction, htext, hn, hbare⟩ | ⟨q, hq⟩
    · refine ⟨[], htext.symm, hn.symm, ?_, by rw [hbare]; exact .nil c⟩
      rw [List.append_nil]
      exact hpsEnds haction
    · refine ⟨[q], hq.text, (Bool.or_false _).trans hq.negates, ?_, hq.applies⟩
      rw [List.getLast?_concat]
      rintro x hx
      obtain rfl := Option.some.inj hx
      exact hq.ends
  have htext : phraseText (ps ++ qs) = c.renderScope ++ c.renderOperand := by
    rw [← hps, ← hqs, phraseText, List.flatMap_append]
    rfl
  have hneg : (ps ++ qs).any (·.negates) = c.isNegativeAssertion := by
    rw [List.any_append, hpsNeg, hqsNeg, Bool.false_or]
  rw [render_eq_sentenceOf, ← htext]
  refine parse_of_applies h.object (names_of_standardRole h.elementType) hends ?_ h.assertion
    h.valid
  rw [hneg]
  exact hscope.append hoperand

end PlainSteps
