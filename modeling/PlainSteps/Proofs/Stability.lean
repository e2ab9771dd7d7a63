import PlainSteps.Proofs.Literal
import PlainSteps.Proofs.StoreNames
import PlainSteps.Regex.Builtin

/-!
# Stability

A command that was read from a sentence is read back from its own canonical sentence exactly if its
operand is canonical (`parse_render_iff_of_mem`), as long as its texts are legible, that is, as long
as the canonical sentence can write them down at all. Three operands are not canonical: an empty
position, a pattern that is no regular expression without its slashes, and the name of a store with
a blank in it.
-/

namespace PlainSteps

open Sentence

namespace Command

/-- The texts of the command can be written down in its canonical sentence. Backslashes keep their
meaning in front of quotes, a scope without quotes is read as it stands, and the names stand for
themselves in braces. -/
structure IsLegible (c : Command) : Prop where
  object : EvenBackslashes c.object
  title : c.isSection → ∀ s ∈ c.specifier, EvenBackslashes s
  scope : c.isSection = false → ∀ s ∈ c.specifier, IsScope s ∧
    (c.action = .click ∨ c.action = .hover → ∀ t ∈ (termsOf s).getLast?, t.role ≠ .conjunction)
  value : ∀ v ∈ c.value,
    EvenBackslashes (if c.assertion = some .fits then '/' :: v ++ ['/'] else v)
  stored : c.action = .store → ∀ name ∈ c.variableName,
    ∀ d ∈ name, d ≠ '"' ∧ d ≠ '\\' ∧ d ≠ '{' ∧ d ≠ '}'
  compared : c.action = .ensure → ∀ name ∈ c.variableName, IsReference name

/-- The operand is one that the canonical sentence has a form for. -/
structure HasCanonicalOperand [Regex.Engine] (c : Command) : Prop where
  position : c.action = .slide → c.value ≠ some []
  pattern : c.assertion = some .fits → ∀ v ∈ c.value, checkRegex v = .ok ()
  name : c.action = .store → ∀ name ∈ c.variableName, ∀ d ∈ name, isBlank d = false

/-- The words in the texts of the command stand with single spaces between. -/
abbrev IsSpaced (c : Command) : Prop := c.Over fun _ => True

/-! ## Legible commands with a canonical operand -/

section Legible

variable {c : Command} (hnormal : c.IsNormal) (hspaced : c.IsSpaced) (hlegible : c.IsLegible)
include hspaced hlegible

theorem IsLegible.quotable_object : Quotable c.object := ⟨hspaced.object.1, hlegible.object⟩

theorem IsLegible.quotable_value {v : Text} (hv : c.value = some v)
    (hfits : c.assertion ≠ some .fits) : Quotable v := by
  have heven := hlegible.value v hv
  rw [if_neg hfits] at heven
  exact ⟨(hspaced.value v hv).1, heven⟩

theorem IsLegible.quotable_pattern {v : Text} (hv : c.value = some v)
    (hfits : c.assertion = some .fits) : Quotable ('/' :: v ++ ['/']) := by
  have heven := hlegible.value v hv
  rw [if_pos hfits] at heven
  have hslash : Text.SingleSpaced ['/'] := Text.singleSpaced_of_dense (by decide)
  exact ⟨(hslash.append (hspaced.value v hv).1 (by simp)).append hslash (by simp), heven⟩

include hnormal

theorem IsLegible.scopeExpressible : c.ScopeExpressible := by
  rw [ScopeExpressible]
  cases hspecifier : c.specifier with
  | none =>
      refine Bool.eq_false_iff.mpr fun hsection => ?_
      have hsome := hnormal.section_ hsection
      rw [hspecifier] at hsome
      cases hsome
  | some s =>
      dsimp only
      split
      next hsection =>
        exact ⟨(hspaced.specifier s hspecifier).1, hlegible.title hsection s hspecifier⟩
      next hsection => exact hlegible.scope (Bool.eq_false_iff.mpr hsection) s hspecifier

omit hspaced hlegible in
theorem IsNormal.unasserted (haction : c.action ≠ .ensure) : c.Unasserted := by
  refine ⟨Bool.eq_false_iff.mpr fun h => haction (hnormal.negation h), ?_, ?_⟩
  · exact Option.not_isSome_iff_eq_none.mp fun h => haction (hnormal.assertion.mp h)
  · exact Option.not_isSome_iff_eq_none.mp fun h => haction (hnormal.aspect.mp h)

theorem IsLegible.expectationExpressible [Regex.Engine] (hoperand : c.HasCanonicalOperand)
    (haction : c.action = .ensure) {a : Assertion} (ha : c.assertion = some a) :
    c.ExpectationExpressible a := by
  have hoperands := hnormal.operands
  rw [HasOperands, haction] at hoperands
  dsimp only at hoperands
  by_cases hexist : a = .exist
  · subst hexist
    rw [if_pos ha] at hoperands
    exact hoperands
  · have hnot : c.assertion ≠ some .exist := fun h => hexist (Option.some.inj (ha.symm.trans h))
    rw [if_neg hnot] at hoperands
    rw [ExpectationExpressible.eq_2 _ _ hexist]
    refine ⟨hnormal.aspect.mpr haction, ?_⟩
    cases hname : c.variableName with
    | none =>
        rw [hname] at hoperands
        obtain ⟨v, hv⟩ : ∃ v, c.value = some v :=
          Option.isSome_iff_exists.mp (by simpa using hoperands.symm)
        refine .inl ⟨rfl, v, hv, ?_⟩
        split
        next hfits =>
          subst hfits
          exact ⟨hlegible.quotable_pattern hspaced hv ha, hoperand.pattern ha v hv⟩
        next hfits =>
          refine hlegible.quotable_value hspaced hv fun h => hfits ?_
          exact Option.some.inj (ha.symm.trans h)
    | some name =>
        rw [hname] at hoperands
        have hvalue : c.value = none :=
          Option.not_isSome_iff_eq_none.mp (by simpa using hoperands.symm)
        exact .inr ⟨hvalue, name, rfl, hlegible.compared haction name hname⟩

theorem IsLegible.operandsExpressible [Regex.Engine] (hoperand : c.HasCanonicalOperand) :
    c.OperandsExpressible := by
  have hoperands := hnormal.operands
  have hunasserted := hnormal.unasserted
  have hvalue {v : Text} (hv : c.value = some v) (haction : c.action ≠ .ensure) : Quotable v := by
    refine hlegible.quotable_value hspaced hv fun hfits => ?_
    exact haction (hnormal.assertion.mp (by rw [hfits]; rfl))
  rw [HasOperands] at hoperands
  rw [OperandsExpressible]
  cases haction : c.action with
  | click | hover =>
      rw [haction] at hoperands hunasserted
      exact ⟨hunasserted (by decide), hoperands.2, hoperands.1⟩
  | fill =>
      rw [haction] at hoperands hunasserted hvalue
      obtain ⟨v, hv⟩ := Option.isSome_iff_exists.mp hoperands.1
      exact ⟨hunasserted (by decide), hoperands.2, v, hv, hvalue hv (by decide)⟩
  | slide =>
      rw [haction] at hoperands hunasserted hvalue
      obtain ⟨v, hv⟩ := Option.isSome_iff_exists.mp hoperands.1
      refine ⟨hunasserted (by decide), hoperands.2, v, hv, hvalue hv (by decide), fun hempty => ?_⟩
      exact hoperand.position haction (hempty ▸ hv)
  | store =>
      rw [haction] at hoperands hunasserted
      obtain ⟨hnone, name, hname, hblank⟩ := hoperands
      refine ⟨hunasserted (by decide), hnone, name, hname, ?_, fun d hd => ?_⟩
      · rintro rfl
        cases hblank
      · exact ⟨hoperand.name haction name hname d hd, hlegible.stored haction name hname d hd⟩
  | ensure =>
      obtain ⟨a, ha⟩ := Option.isSome_iff_exists.mp (hnormal.assertion.mpr haction)
      exact ⟨a, ha, hlegible.expectationExpressible hnormal hspaced hoperand haction ha⟩

end Legible

end Command

namespace Sentence

/-! ## Commands that are read back -/

/-- What the phrase of the operand makes of the bare command, if the canonical sentence is read as
the command. -/
theorem addConnected_of_parse_render [Regex.Engine] {c : Command} (hobject : Quotable c.object)
    (hrole : c.elementType ∈ standardRoles) (hscope : c.ScopeExpressible) {q : Phrase}
    (hends : q.Ends) (htext : phraseText [q] = c.renderOperand)
    (hnegates : q.negates = c.isNegativeAssertion) (h : parse c.render = .ok [c]) :
    addConnected c.bare q.connector (q.operand ['.']) = .ok c := by
  obtain ⟨ps, -, hps, hpsNeg, -, happlies⟩ := exists_scopePhrases hscope
  have hphrases : phraseText (ps ++ [q]) = c.renderScope ++ c.renderOperand := by
    rw [← hps, ← htext, phraseText, List.flatMap_append]
    rfl
  have hneg : (ps ++ [q]).any (·.negates) = c.isNegativeAssertion := by
    rw [List.any_append, hpsNeg, Bool.false_or, List.any_cons, hnegates]
    exact Bool.or_false _
  have hlast : ∀ x ∈ (ps ++ [q]).getLast?, x.Ends := by
    rw [List.getLast?_concat]
    rintro x ⟨⟩
    exact hends
  rw [render_eq_sentenceOf, ← hphrases,
    parse_phrases_iff c.action hobject (names_of_standardRole hrole) hlast,
    commandOf_phrases c.action hobject (names_of_standardRole hrole), hneg] at h
  obtain ⟨c', hadd, hchecked⟩ := bind_eq_ok h
  obtain rfl := checked_eq_ok hchecked
  exact (happlies.foldlM_concat q).symm.trans hadd

section Necessity

variable [Regex.Engine] {c : Command} (hnormal : c.IsNormal) (hspaced : c.IsSpaced)
  (hlegible : c.IsLegible) (h : parse c.render = .ok [c])
include hnormal hspaced hlegible h

theorem position_of_parse_render (haction : c.action = .slide) : c.value ≠ some [] := by
  intro hvalue
  have hempty : Quotable [] := by decide
  have hnegation : false = c.isNegativeAssertion :=
    (hnormal.unasserted (by rw [haction]; decide)).1.symm
  have hadd := addConnected_of_parse_render (hlegible.quotable_object hspaced) hnormal.role
    (hlegible.scopeExpressible hnormal hspaced)
    (q := .ofPiece .to_ false (valuePiece [] hempty)) (Phrase.ends_ofPiece _ _ _)
    (by rw [phraseText_ofPiece, Command.renderOperand, haction, hvalue]; rfl) hnegation h
  have hposition :
      addPosition c.bare ("value".toList :: Text.words (quoted [] ++ ['.'])) = .ok c := by
    have haction' : c.bare.action = .slide := haction
    change addConnected c.bare .to_ _ = _ at hadd
    simp only [addConnected, haction'] at hadd
    exact hadd
  rw [addPosition, unquote?_words_quoted hempty (.inr rfl) (by decide)] at hposition
  cases hposition

theorem pattern_of_parse_render (hfits : c.assertion = some .fits) {v : Text}
    (hv : c.value = some v) : checkRegex v = .ok () := by
  have haction : c.action = .ensure := hnormal.assertion.mp (by rw [hfits]; rfl)
  obtain ⟨aspect, haspect⟩ := Option.isSome_iff_exists.mp (hnormal.aspect.mpr haction)
  have hslashed := hlegible.quotable_pattern hspaced hv hfits
  have hname : c.variableName = none := by
    have hoperands := hnormal.operands
    simpa [Command.HasOperands, haction, hfits, hv] using hoperands
  have htext : c.renderExpected .fits = ' ' :: (Piece.quote _ hslashed).text := by
    simp only [Command.renderExpected, hname, hv, if_true]
    exact quoted_slashed v
  have hadd := addConnected_of_parse_render (hlegible.quotable_object hspaced) hnormal.role
    (hlegible.scopeExpressible hnormal hspaced) (Phrase.ends_ofPiece _ _ _)
    (phraseText_comparison _ haction (by decide) hfits haspect htext) rfl h
  have hout : (Piece.quote _ hslashed).out ['.'] ≠ [] ∧ Text.trim
      (Text.unwords ((Piece.quote _ hslashed).out ['.'])) = quoted ('/' :: v ++ ['/']) ++ ['.'] :=
    quote_operand hslashed (.inr rfl)
  have hexpected : addExpected ({ c.bare with assertion := some .fits }.withAspect aspect) .fits
      (quoted ('/' :: v ++ ['/']) ++ ['.']) = .ok c := by
    have haction' : c.bare.action = .ensure := haction
    change addConnected c.bare .to_ ((comparisonPiece .fits aspect _).out ['.']) = _ at hadd
    rw [addConnected_ensure haction', comparisonPiece_out,
      addAssertion_canonical (by decide) aspect hout.1, hout.2] at hadd
    exact hadd
  simp only [addExpected, unquote?_quoted_append hslashed (.inr rfl), if_true, Option.getD_some,
    slashPattern?_slashed] at hexpected
  obtain ⟨_, hliteral, -⟩ := bind_eq_ok hexpected
  cases hregex : checkRegex v with
  | ok => rfl
  | error cause =>
      rw [hregex] at hliteral
      cases hliteral

theorem name_of_parse_render (haction : c.action = .store) {name : Text}
    (hname : c.variableName = some name) : ∀ d ∈ name, isBlank d = false := by
  have hplain := hlegible.stored haction name hname
  have hline : ∀ d ∈ name, d ≠ '\r' := by
    rintro d hd rfl
    exact absurd ((hspaced.variableName name hname).1.1 _ hd rfl) (by decide)
  refine dense_of_parse_render haction hname (hlegible.quotable_object hspaced) hnormal.role
    (hlegible.scopeExpressible hnormal hspaced) (fun d hd => ?_) h
  obtain ⟨hquote, hbackslash, hopen, hclose⟩ := hplain d hd
  exact ⟨hbackslash, hquote, hopen, hclose, hline d hd⟩

theorem hasCanonicalOperand_of_parse_render : c.HasCanonicalOperand where
  position := position_of_parse_render hnormal hspaced hlegible h
  pattern hfits _ hv := pattern_of_parse_render hnormal hspaced hlegible h hfits hv
  name haction _ hname := name_of_parse_render hnormal hspaced hlegible h haction hname

end Necessity

/-! ## Stability -/

theorem fault?_of_mem_parse [Regex.Engine] {sentence : Text} {commands : List Command}
    (h : parse sentence = .ok commands) {c : Command} (hc : c ∈ commands) : c.fault? = none := by
  obtain ⟨_, -, _, -, hread⟩ := exists_of_mem_parse h hc
  exact (Reading.draft_of_command (exists_reading hread)).2.2

theorem isSpaced_of_mem_parse [Regex.Engine] {sentence : Text} {commands : List Command}
    (h : parse sentence = .ok commands) : ∀ c ∈ commands, c.IsSpaced :=
  over_of_mem_parse ⟨fun _ _ => trivial, fun _ _ => trivial⟩ (fun _ _ => trivial) h

/-- A sentence without backslashes gives commands whose quoted texts are legible, so that only their
scopes and names are left to look at. -/
theorem isLegible_of_forall_ne [Regex.Engine] {sentence : Text}
    (hsentence : ∀ d ∈ sentence, d ≠ '\\') {commands : List Command}
    (h : parse sentence = .ok commands) {c : Command} (hc : c ∈ commands)
    (hscope : c.isSection = false → ∀ s ∈ c.specifier, IsScope s ∧
      (c.action = .click ∨ c.action = .hover →
        ∀ t ∈ (termsOf s).getLast?, t.role ≠ .conjunction))
    (hstored : c.action = .store → ∀ name ∈ c.variableName,
      ∀ d ∈ name, d ≠ '"' ∧ d ≠ '{' ∧ d ≠ '}')
    (hcompared : c.action = .ensure → ∀ name ∈ c.variableName, IsReference name) :
    c.IsLegible := by
  have hover := over_of_mem_parse (isAlphabet_ne (by decide) (by decide)) hsentence h c hc
  refine ⟨evenBackslashes_of_forall hover.object.2, fun _ s hs =>
    evenBackslashes_of_forall (hover.specifier s hs).2, hscope, fun v hv =>
    evenBackslashes_of_forall ?_, fun haction name hname d hd => ?_, hcompared⟩
  · have hvalue := (hover.value v hv).2
    split
    · exact List.forall_mem_append.mpr
        ⟨List.forall_mem_cons.mpr ⟨by decide, hvalue⟩, by decide⟩
    · exact hvalue
  · obtain ⟨hquote, hopen, hclose⟩ := hstored haction name hname d hd
    exact ⟨hquote, (hover.variableName name hname).2 d hd, hopen, hclose⟩

/-- A legible command of a sentence is read back from its canonical sentence exactly if its operand
is canonical. -/
theorem parse_render_iff_of_mem [Regex.Engine] {sentence : Text} {commands : List Command}
    (h : parse sentence = .ok commands) {c : Command} (hc : c ∈ commands)
    (hlegible : c.IsLegible) : parse c.render = .ok [c] ↔ c.HasCanonicalOperand := by
  have hnormal := isNormal_of_mem_parseWith h c hc
  have hspaced := isSpaced_of_mem_parse h c hc
  constructor
  · exact hasCanonicalOperand_of_parse_render hnormal hspaced hlegible
  · intro hoperand
    exact parse_render_of_expressible ⟨fault?_of_mem_parse h hc,
      hlegible.quotable_object hspaced, hnormal.role,
      hlegible.scopeExpressible hnormal hspaced,
      hlegible.operandsExpressible hnormal hspaced hoperand⟩

open Regex.Builtin

/-- A quoted name without blanks is read back from its braces, behind a scope without quotes. -/
theorem parse_render_quoted_word :
    let c : Command :=
      { action := .store, object := "Name", elementType := "textbox",
        specifier := some "Settings page", variableName := some "user" }
    parse "Store \"Name\" input on the Settings page into variable \"user\"." = .ok [c] ∧
      c.IsLegible ∧ parse c.render = .ok [c] := by
  intro c
  have hparse : parse "Store \"Name\" input on the Settings page into variable \"user\"." =
      .ok [c] := by decide +kernel
  have hscope : IsScopeName "Settings page" :=
    ⟨by decide, by decide, by decide, by decide, by decide, by decide⟩
  have hlegible : c.IsLegible := by
    refine ⟨by decide, nofun, fun _ s hs => ?_, nofun, fun _ name hname => ?_, nofun⟩
    · obtain rfl := Option.some.inj hs
      exact ⟨hscope.isScope (by decide), fun h => absurd h (by decide)⟩
    · obtain rfl := Option.some.inj hname
      decide
  have hoperand : c.HasCanonicalOperand := by
    refine ⟨nofun, nofun, fun _ name hname => ?_⟩
    obtain rfl := Option.some.inj hname
    decide
  exact ⟨hparse, hlegible,
    (parse_render_iff_of_mem hparse List.mem_cons_self hlegible).mpr hoperand⟩

/-- A quoted name of two words is not, since its braces hold the name `b`. -/
theorem parse_render_quoted_words_ne :
    ∃ c : Command, parse "Store \"Name\" input into variable \"a b\"." = .ok [c] ∧
      parse c.render = .ok [{ c with variableName := some "b" }] ∧
      parse c.render ≠ .ok [c] :=
  ⟨{ action := .store, object := "Name", elementType := "textbox", variableName := some "a b" },
    by decide +kernel, by decide +kernel, by decide +kernel⟩

end Sentence

end PlainSteps
