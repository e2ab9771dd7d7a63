import PlainSteps.Proofs.Expressible
import PlainSteps.Regex.Builtin

/-!
# Canonical sentences read back

The canonical sentence of a well-formed command is read as that command and nothing else
(`parse_render`), whatever stands between its quotes.
-/

namespace PlainSteps

open Sentence

namespace Command

/-- No scope, a section with a quotable title, a region, or words that begin with no lower-case
letter. -/
def ScopeWellFormed (c : Command) : Prop :=
  match c.specifier with
  | none => c.isSection = false
  | some s =>
    if c.isSection then Quotable s
    else s ∈ regions ∨ (IsScopeName s ∧ ∀ d ∈ s.head?, isLowercase d = false)

/-- What an assertion compares with: nothing, a quotable value, or a name. -/
def ExpectationWellFormed [Regex.Engine] (c : Command) (a : Assertion) : Prop :=
  match a with
  | .exist => c.aspect = some .plain ∧ c.value = none ∧ c.variableName = none
  | a => c.aspect.isSome ∧
    ((c.variableName = none ∧ ∃ v, c.value = some v ∧ Quotable v ∧
        (a = .fits → checkRegex v = .ok ())) ∨
      (c.value = none ∧ ∃ name, c.variableName = some name ∧ IsName name))

/-- The operands that the action takes, and nothing else. -/
def OperandsWellFormed [Regex.Engine] (c : Command) : Prop :=
  match c.action with
  | .click | .hover => c.Unasserted ∧ c.variableName = none ∧ c.value = none
  | .fill => c.Unasserted ∧ c.variableName = none ∧ ∃ v, c.value = some v ∧ Quotable v
  | .slide => c.Unasserted ∧ c.variableName = none ∧ ∃ v, c.value = some v ∧ Quotable v ∧ v ≠ []
  | .store => c.Unasserted ∧ c.value = none ∧ ∃ name, c.variableName = some name ∧ IsName name
  | .ensure => ∃ a, c.assertion = some a ∧ c.ExpectationWellFormed a

/-- A command that its canonical sentence can express. -/
structure WellFormed [Regex.Engine] (c : Command) : Prop where
  object : Quotable c.object
  named : Text.blank c.object = false
  elementType : c.elementType ∈ standardRoles
  scope : c.ScopeWellFormed
  operands : c.OperandsWellFormed

end Command

theorem quotable_slashed {v : Text} (hv : Quotable v) : Quotable ('/' :: v ++ ['/']) := by
  have hslash : Text.SingleSpaced ['/'] := Text.singleSpaced_of_dense (by decide)
  refine ⟨(hslash.append hv.1 (by simp)).append hslash (by simp), ?_⟩
  have hruns (b : Bool) (t : Text) (h : evenRuns b t) : evenRuns b (t ++ ['/']) := by
    induction t generalizing b with
    | nil => rfl
    | cons c r ih =>
        by_cases hc : c = '\\'
        · simpa [evenRuns, hc] using ih (!b) (by simpa [evenRuns, hc] using h)
        · by_cases hq : c = '"'
          · have h' : b = false ∧ evenRuns false r := by simpa [evenRuns, hq] using h
            simpa [evenRuns, hq, h'.1] using ih false h'.2
          · simpa [evenRuns, hc, hq] using ih false (by simpa [evenRuns, hc, hq] using h)
  rw [evenBackslashes_iff]
  have h := hruns false v ((evenBackslashes_iff v).mp hv.2)
  simpa [evenRuns] using h

/-! ## Well-formed commands are expressible -/

namespace Command.WellFormed

variable [Regex.Engine] {c : Command} (h : c.WellFormed)
include h

theorem fault? : c.fault? = none := by
  have hops := h.operands
  rw [Command.OperandsWellFormed] at hops
  cases haction : c.action with
  | click | hover =>
      rw [haction] at hops
      obtain ⟨⟨hn, hassertion, -⟩, hname, hvalue⟩ := hops
      simp [Command.fault?, Command.operandFault?, h.named, haction, hn, hassertion, hname, hvalue]
  | fill =>
      rw [haction] at hops
      obtain ⟨⟨hn, hassertion, -⟩, hname, v, hvalue, -⟩ := hops
      simp [Command.fault?, Command.operandFault?, h.named, haction, hn, hassertion, hname, hvalue]
  | slide =>
      rw [haction] at hops
      obtain ⟨⟨hn, hassertion, -⟩, hname, v, hvalue, -⟩ := hops
      simp [Command.fault?, Command.operandFault?, h.named, haction, hn, hassertion, hname, hvalue]
  | store =>
      rw [haction] at hops
      obtain ⟨⟨hn, hassertion, -⟩, hvalue, name, hname, -⟩ := hops
      simp [Command.fault?, Command.operandFault?, h.named, haction, hn, hassertion, hname, hvalue]
  | ensure =>
      rw [haction] at hops
      obtain ⟨a, hassertion, hexpected⟩ := hops
      cases a with
      | exist =>
          obtain ⟨-, hvalue, hname⟩ := hexpected
          simp [Command.fault?, Command.operandFault?, h.named, haction, hassertion, hname, hvalue]
      | exact | contain | fits =>
          rcases hexpected.2 with ⟨hname, v, hvalue, -⟩ | ⟨hvalue, name, hname, -⟩ <;>
            simp [Command.fault?, Command.operandFault?, h.named, haction, hassertion, hname,
              hvalue]

theorem scopeExpressible : c.ScopeExpressible := by
  have hscope := h.scope
  rw [Command.ScopeWellFormed] at hscope
  rw [Command.ScopeExpressible]
  cases hspecifier : c.specifier with
  | none =>
      rw [hspecifier] at hscope
      exact hscope
  | some s =>
      rw [hspecifier] at hscope
      cases hsection : c.isSection with
      | true =>
          rw [hsection] at hscope
          exact hscope
      | false =>
          rw [hsection] at hscope
          have hname : IsScopeName s := hscope.elim isScopeName_of_mem_regions And.left
          refine ⟨hname.isScope fun d hd hlower => ?_, fun _ => hname.role_getLast?⟩
          refine hscope.resolve_right fun h => ?_
          rw [h.2 d hd] at hlower
          exact nomatch hlower

theorem operandsExpressible : c.OperandsExpressible := by
  have hops := h.operands
  rw [Command.OperandsWellFormed] at hops
  rw [Command.OperandsExpressible]
  cases haction : c.action with
  | click | hover | fill | slide | store =>
      rw [haction] at hops
      exact hops
  | ensure =>
      rw [haction] at hops
      obtain ⟨a, hassertion, hexpected⟩ := hops
      refine ⟨a, hassertion, ?_⟩
      by_cases ha : a = .exist
      · subst ha
        exact hexpected
      · rw [Command.ExpectationWellFormed.eq_2 _ _ ha] at hexpected
        rw [Command.ExpectationExpressible.eq_2 _ _ ha]
        refine ⟨hexpected.1, hexpected.2.imp ?_ ?_⟩
        · rintro ⟨hname, v, hvalue, hv, hregex⟩
          refine ⟨hname, v, hvalue, ?_⟩
          split
          · next hfits => exact ⟨quotable_slashed hv, hregex hfits⟩
          · exact hv
        · rintro ⟨hvalue, name, hname, hplain⟩
          exact ⟨hvalue, name, hname, hplain.isReference⟩

theorem expressible : c.Expressible :=
  ⟨h.fault?, h.object, h.elementType, h.scopeExpressible, h.operandsExpressible⟩

end Command.WellFormed

/-- The canonical sentence of a well-formed command is read as that command. -/
theorem parse_render [Regex.Engine] {c : Command} (h : c.WellFormed) : parse c.render = .ok [c] :=
  parse_render_of_expressible h.expressible

open Regex.Builtin

/-- An example with keywords, a separator, braces, quotes and backslashes between the quotes. -/
theorem parse_render_contain :
    let c : Command :=
      { action := .ensure
        object := "the \\\\\"main\" button, on \x7bx"
        elementType := "radiogroup"
        specifier := some "User menu"
        isNegativeAssertion := true
        assertion := some .contain
        aspect := some .accessible
        value := some "error-message \"not\" with to. \\\\" }
    c.WellFormed ∧ parse c.render = .ok [c] := by
  intro c
  have hscope : IsScopeName "User menu" :=
    ⟨by decide, by decide, by decide, by decide, by decide, by decide⟩
  have hc : c.WellFormed :=
    ⟨by decide, by decide, by decide, .inr ⟨hscope, by decide⟩,
      .contain, rfl, rfl, .inl ⟨rfl, _, rfl, by decide, nofun⟩⟩
  exact ⟨hc, parse_render hc⟩

end PlainSteps
