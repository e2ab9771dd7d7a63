import PlainSteps.Pattern
import PlainSteps.Proofs.Regexes
import PlainSteps.Regex.Builtin

/-!
# Regular expressions between slashes

A pattern of addresses and the operand of an assertion write a regular expression alike: between
slashes, with letters behind the last one. Flags among the letters go in front of the source. A
letter that is no flag makes the operand fault, while the pattern passes it over. So both are read
alike exactly if all letters are flags or the pattern is no regular expression in any case
(`slashPattern?_iff_parse`).

A pattern that has been read is written with its flags in front and nothing behind the last slash,
so that it is read as the same pattern again (`parse_render_pattern`).
-/

namespace PlainSteps.Sentence

/-! ## The notation -/

/-- The source and the letters behind it, if the text is written between slashes. -/
def slashParts? : Text → Option (Text × Text)
  | '/' :: body => Text.splitAtLast? '/' body
  | _ => none

/-- The letter sets a flag, or is one that says nothing about which texts match. -/
def isFlagLetter (c : Char) : Bool := ['i', 'm', 's', 'g', 'u', 'y'].contains c

/-- All letters behind the last slash are flags. -/
def FlagsOnly (t : Text) : Prop :=
  ∀ source letters, slashParts? t = some (source, letters) → ∀ c ∈ letters, isFlagLetter c

/-- The regular expression that a source with letters behind it stands for. -/
def flagged (source letters : Text) : Text := withFlags (letters.filter Pattern.isFlag) source

theorem inlineFlags_eq_ok_iff {letters flags : Text} :
    inlineFlags letters = .ok flags ↔
      (∀ c ∈ letters, isFlagLetter c) ∧ flags = letters.filter Pattern.isFlag := by
  induction letters generalizing flags with
  | nil => exact ⟨fun h => ⟨nofun, (Except.ok.inj h).symm⟩, fun h => h.2 ▸ rfl⟩
  | cons c r ih =>
      have hset : ['i', 'm', 's'].contains c = Pattern.isFlag c := by
        simp only [List.contains_cons, List.contains_nil, Bool.or_false, Pattern.isFlag,
          Bool.or_assoc]
      have hletter : isFlagLetter c = (Pattern.isFlag c || ['g', 'u', 'y'].contains c) := by
        simp only [isFlagLetter, List.contains_cons, List.contains_nil, Bool.or_false,
          Pattern.isFlag, Bool.or_assoc]
      rw [inlineFlags, hset, List.forall_mem_cons, hletter]
      cases hflag : Pattern.isFlag c with
      | true =>
          rw [List.filter_cons_of_pos hflag, Bool.true_or, if_pos rfl]
          cases hrest : inlineFlags r with
          | error d =>
              have hnot : ¬ ∀ c ∈ r, isFlagLetter c := fun hall =>
                nomatch hrest.symm.trans (ih.mpr ⟨hall, rfl⟩)
              exact ⟨nofun, fun h => absurd h.1.2 hnot⟩
          | ok fs =>
              obtain ⟨hall, rfl⟩ := ih.mp hrest
              exact ⟨fun h => ⟨⟨rfl, hall⟩, (Except.ok.inj h).symm⟩, fun h => h.2 ▸ rfl⟩
      | false =>
          rw [List.filter_cons_of_neg (by simp [hflag]), Bool.false_or, if_neg nofun]
          cases hpassed : ['g', 'u', 'y'].contains c with
          | true => simpa using ih
          | false => exact ⟨nofun, fun h => nomatch h.1.1⟩

/-! ## The two readers -/

theorem slashed?_eq (t : Text) :
    Pattern.slashed? t = (slashParts? t).map fun parts => flagged parts.1 parts.2 := by
  cases t with
  | nil => rfl
  | cons c body =>
      by_cases hslash : c = '/'
      · rw [hslash]
        rfl
      · simp [Pattern.slashed?, slashParts?, hslash]

theorem parse_eq_regex_iff [Regex.Engine] {t : Text} {r : Regex} :
    Pattern.parse t = .ok (.regex r) ↔
      ∃ source letters, slashParts? t = some (source, letters) ∧
        Regex.compile (flagged source letters) = .ok r := by
  rw [Pattern.parse, slashed?_eq]
  cases slashParts? t with
  | none =>
      simp only [Option.map_none]
      split <;> simp
  | some parts =>
      obtain ⟨source, letters⟩ := parts
      simp only [Option.map_some, Option.some.injEq, Prod.mk.injEq]
      cases hcompile : Regex.compile (flagged source letters) with
      | ok r' =>
          constructor
          · intro h
            obtain rfl : r' = r := Pattern.regex.inj (Except.ok.inj h)
            exact ⟨source, letters, ⟨rfl, rfl⟩, hcompile⟩
          · rintro ⟨_, _, ⟨rfl, rfl⟩, h⟩
            rw [hcompile] at h
            rw [Except.ok.inj h]
      | error fault =>
          refine ⟨nofun, ?_⟩
          rintro ⟨_, _, ⟨rfl, rfl⟩, h⟩
          rw [hcompile] at h
          cases h

theorem exists_parse_iff [Regex.Engine] {t p : Text} :
    (∃ r, Pattern.parse t = .ok (.regex r) ∧ r.source = p) ↔
      ∃ source letters, slashParts? t = some (source, letters) ∧ p = flagged source letters ∧
        Regex.compiles p := by
  constructor
  · rintro ⟨r, hparse, rfl⟩
    obtain ⟨source, letters, hparts, hcompile⟩ := parse_eq_regex_iff.mp hparse
    refine ⟨source, letters, hparts, Regex.source_of_compile hcompile, ?_⟩
    rw [Regex.source_of_compile hcompile, Regex.compiles, hcompile]
    rfl
  · rintro ⟨source, letters, hparts, rfl, hcompiles⟩
    cases hcompile : Regex.compile (flagged source letters) with
    | error fault =>
        rw [Regex.compiles, hcompile] at hcompiles
        cases hcompiles
    | ok r =>
        exact ⟨r, parse_eq_regex_iff.mpr ⟨source, letters, hparts, hcompile⟩,
          Regex.source_of_compile hcompile⟩

theorem checkRegex_eq_ok_iff [Regex.Engine] {pattern : Text} :
    checkRegex pattern = .ok () ↔ Regex.compiles pattern := by
  refine ⟨compiles_of_checkRegex, fun h => ?_⟩
  rw [Regex.compiles] at h
  rw [checkRegex]
  cases hcompile : Regex.compile pattern with
  | ok r => rfl
  | error fault =>
      rw [hcompile] at h
      cases h

theorem slashPattern?_eq [Regex.Engine] (t : Text) :
    slashPattern? t = match slashParts? t with
      | none => .ok none
      | some (source, letters) =>
        match inlineFlags letters with
        | .error c => .error (.invalidRegex t ("unsupported flag '" ++ [c, '\'']))
        | .ok flags => do
          checkRegex (withFlags flags source)
          return some (withFlags flags source) := by
  cases t with
  | nil => rfl
  | cons c body =>
      by_cases hslash : c = '/'
      · rw [hslash]
        rfl
      · simp [slashPattern?, slashParts?, hslash]

theorem slashPattern?_eq_some_iff [Regex.Engine] {t p : Text} :
    slashPattern? t = .ok (some p) ↔
      ∃ source letters, slashParts? t = some (source, letters) ∧
        (∀ c ∈ letters, isFlagLetter c) ∧ p = flagged source letters ∧ Regex.compiles p := by
  rw [slashPattern?_eq]
  cases slashParts? t with
  | none => exact ⟨nofun, nofun⟩
  | some parts =>
      obtain ⟨source, letters⟩ := parts
      dsimp only
      cases hflags : inlineFlags letters with
      | error c =>
          refine ⟨nofun, ?_⟩
          rintro ⟨_, _, heq, hall, -⟩
          obtain ⟨rfl, rfl⟩ := Prod.mk.inj (Option.some.inj heq)
          exact nomatch hflags.symm.trans (inlineFlags_eq_ok_iff.mpr ⟨hall, rfl⟩)
      | ok flags =>
          obtain ⟨hall, rfl⟩ := inlineFlags_eq_ok_iff.mp hflags
          constructor
          · intro h
            obtain ⟨_, hcheck, h⟩ := bind_eq_ok h
            obtain rfl := Option.some.inj (Except.ok.inj h)
            exact ⟨source, letters, rfl, hall, rfl, checkRegex_eq_ok_iff.mp hcheck⟩
          · rintro ⟨_, _, heq, -, rfl, hcompiles⟩
            obtain ⟨rfl, rfl⟩ := Prod.mk.inj (Option.some.inj heq)
            have hcheck := checkRegex_eq_ok_iff.mpr hcompiles
            change checkRegex (flagged source letters) >>= _ = _
            rw [hcheck]
            rfl

/-- From the text the two readers take the same regular expression, or neither takes one. -/
def ReadAlike [Regex.Engine] (t : Text) : Prop :=
  ∀ p, (∃ r, Pattern.parse t = .ok (.regex r) ∧ r.source = p) ↔ slashPattern? t = .ok (some p)

/-- An operand is read as a regular expression exactly if the pattern is and all letters behind the
last slash are flags. So the two readers differ exactly where the pattern is a regular expression
with another letter behind it. -/
theorem slashPattern?_iff_parse [Regex.Engine] (t : Text) :
    (∀ p, slashPattern? t = .ok (some p) ↔
      FlagsOnly t ∧ ∃ r, Pattern.parse t = .ok (.regex r) ∧ r.source = p) ∧
    (ReadAlike t ↔ FlagsOnly t ∨ ∀ r, Pattern.parse t ≠ .ok (.regex r)) := by
  have hreads (p : Text) : slashPattern? t = .ok (some p) ↔
      FlagsOnly t ∧ ∃ r, Pattern.parse t = .ok (.regex r) ∧ r.source = p := by
    rw [slashPattern?_eq_some_iff, exists_parse_iff]
    constructor
    · rintro ⟨source, letters, hparts, hall, hp⟩
      refine ⟨fun _ _ heq => ?_, source, letters, hparts, hp⟩
      obtain ⟨rfl, rfl⟩ := Prod.mk.inj (Option.some.inj (hparts.symm.trans heq))
      exact hall
    · rintro ⟨honly, source, letters, hparts, hp⟩
      exact ⟨source, letters, hparts, honly source letters hparts, hp⟩
  refine ⟨hreads, ⟨fun halike => ?_, ?_⟩⟩
  · by_contra hneither
    obtain ⟨honly, hregex⟩ := not_or.mp hneither
    obtain ⟨r, hparse⟩ := not_forall_not.mp hregex
    exact honly ((hreads r.source).mp ((halike r.source).mp ⟨r, hparse, rfl⟩)).1
  · rintro (honly | hnone) p
    · rw [hreads]
      exact ⟨fun hparse => ⟨honly, hparse⟩, And.right⟩
    · rw [hreads]
      exact ⟨fun ⟨r, hparse, _⟩ => absurd hparse (hnone r), And.right⟩

open Regex.Builtin

/-- So an address path becomes the regular expression of its first segment, and as an operand is
refused. -/
theorem readAlike_teams_ne :
    (∃ r, Pattern.parse "/teams/42" = .ok (.regex r) ∧ r.source = "teams".toList) ∧
      slashPattern? "/teams/42" = .error (.invalidRegex "/teams/42" "unsupported flag '4'") ∧
      ¬ ReadAlike "/teams/42" := by
  have hparse : ∃ r, Pattern.parse "/teams/42" = .ok (.regex r) ∧ r.source = "teams".toList :=
    exists_parse_iff.mpr ⟨"teams", "42", by decide, by decide, by decide +kernel⟩
  have hrefused : slashPattern? "/teams/42" =
      .error (.invalidRegex "/teams/42" "unsupported flag '4'") := by
    decide
  refine ⟨hparse, hrefused, fun halike => ?_⟩
  exact nomatch hrefused.symm.trans ((halike "teams").mp hparse)

/-! ## Written patterns -/

theorem slashParts?_slashed (source : Text) :
    slashParts? ('/' :: source ++ ['/']) = some (source, []) := by
  simp [slashParts?, Text.splitAtLast?, Text.takeEndWhile]

theorem parse_of_slashParts?_eq_none [Regex.Engine] {t : Text} (h : slashParts? t = none) :
    Pattern.parse t = .ok (if List.elem '*' t then .glob t else .exact t) := by
  rw [Pattern.parse, slashed?_eq, h]
  rfl

theorem render_of_slashParts?_eq_none [Regex.Engine] {t : Text} {p : Pattern}
    (h : slashParts? t = none) (hparse : Pattern.parse t = .ok p) : p.render = t := by
  rw [parse_of_slashParts?_eq_none h] at hparse
  obtain rfl := Except.ok.inj hparse
  by_cases hstar : List.elem '*' t
  · rw [if_pos hstar]
    rfl
  · rw [if_neg hstar]
    rfl

theorem exists_regex_of_parse [Regex.Engine] {t source letters : Text} {p : Pattern}
    (h : slashParts? t = some (source, letters)) (hparse : Pattern.parse t = .ok p) :
    ∃ r, p = .regex r ∧ r.source = flagged source letters ∧ Regex.compile r.source = .ok r := by
  rw [Pattern.parse, slashed?_eq, h] at hparse
  dsimp only [Option.map_some] at hparse
  cases hcompile : Regex.compile (flagged source letters) with
  | error fault => simp [hcompile] at hparse
  | ok r =>
      rw [hcompile] at hparse
      have hsource := Regex.source_of_compile hcompile
      exact ⟨r, (Except.ok.inj hparse).symm, hsource, by rw [hsource, hcompile]⟩

/-- What a pattern is written as is read as the same pattern. A literal and a glob are written as
they were; of a regular expression the flags are in front of the source, and no letters stand behind
the last slash that could be taken for further ones. -/
theorem parse_render_pattern [Regex.Engine] {t : Text} {p : Pattern} (h : Pattern.parse t = .ok p) :
    Pattern.parse p.render = .ok p ∧
      (slashParts? t = none → p.render = t) ∧
      ∀ source letters, slashParts? t = some (source, letters) →
        slashParts? p.render = some (flagged source letters, []) := by
  cases hparts : slashParts? t with
  | none =>
      have hrender := render_of_slashParts?_eq_none hparts h
      exact ⟨by rw [hrender, h], fun _ => hrender, nofun⟩
  | some parts =>
      obtain ⟨source, letters⟩ := parts
      obtain ⟨r, rfl, hsource, hcompile⟩ := exists_regex_of_parse hparts h
      have hslashed : slashParts? (Pattern.regex r).render = some (r.source, []) :=
        slashParts?_slashed r.source
      refine ⟨?_, nofun, ?_⟩
      · -- Without letters there are no flags to put in front again.
        rw [parse_eq_regex_iff]
        exact ⟨r.source, [], hslashed, hcompile⟩
      · rintro _ _ ⟨⟩
        rw [hslashed, hsource]

theorem parse_render_pattern_flags :
    ∃ p, Pattern.parse "/a/b*/gs" = .ok p ∧ p.render = "/(?s)a/b*/".toList ∧
      Pattern.parse p.render = .ok p ∧
      slashParts? p.render = some ("(?s)a/b*".toList, []) := by
  obtain ⟨r, hparse, hsource⟩ : ∃ r, Pattern.parse "/a/b*/gs" = .ok (.regex r) ∧
      r.source = "(?s)a/b*".toList :=
    exists_parse_iff.mpr ⟨"a/b*", "gs", by decide, by decide, by decide +kernel⟩
  obtain ⟨hagain, -, hslashed⟩ := parse_render_pattern hparse
  refine ⟨.regex r, hparse, ?_, hagain, hslashed "a/b*" "gs" (by decide)⟩
  rw [Pattern.render, hsource]
  rfl

end PlainSteps.Sentence
