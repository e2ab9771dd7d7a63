import PlainSteps.Proofs.NormalForm
import PlainSteps.Regex.Builtin

/-!
# Regular expressions of commands

An assertion that asks for a match refuses a text that is no regular expression. A `with` segment
behind it overwrites the text and does not look at it. So what a command is to match is a regular
expression, or else is named by such a segment (`readInstruction_fits`). A run compiles the text as
it stands, unless it is a token.
-/

namespace PlainSteps.Sentence

/-! ## Checks -/

theorem compiles_of_checkRegex [Regex.Engine] {pattern : Text} {u : Unit}
    (h : checkRegex pattern = .ok u) : Regex.compiles pattern := by
  rw [checkRegex] at h
  rw [Regex.compiles]
  cases hcompile : Regex.compile pattern with
  | ok r => rfl
  | error fault =>
      rw [hcompile] at h
      cases h

theorem compiles_of_slashPattern? [Regex.Engine] {t pattern : Text}
    (h : slashPattern? t = .ok (some pattern)) : Regex.compiles pattern := by
  unfold slashPattern? at h
  split at h
  · split at h
    · cases h
    · split at h
      · cases h
      · obtain ⟨u, hcheck, h⟩ := bind_eq_ok h
        obtain rfl := Option.some.inj (Except.ok.inj h)
        exact compiles_of_checkRegex hcheck
  · cases h

theorem compiles_of_addExpected [Regex.Engine] {c c' : Command} {operand : Text}
    (h : addExpected c .fits operand = .ok c') :
    (∃ v, c' = c.withValue v ∧ Regex.compiles v) ∨ ∃ name, c' = c.withVariable name := by
  simp only [addExpected, if_true] at h
  split at h
  · cases h
  · obtain ⟨literal, hliteral, h⟩ := bind_eq_ok h
    cases literal with
    | some pattern =>
        exact .inl ⟨pattern, (Except.ok.inj h).symm, compiles_of_slashPattern? hliteral⟩
    | none =>
        dsimp only at h
        split at h
        next name _ _ => exact .inr ⟨Text.trim name, (Except.ok.inj h).symm⟩
        · obtain ⟨u, hcheck, h⟩ := bind_eq_ok h
          exact .inl ⟨_, (Except.ok.inj h).symm, compiles_of_checkRegex hcheck⟩

theorem compiles_of_addAssertion [Regex.Engine] {c c' : Command} {rest : List Text}
    (h : addAssertion c rest = .ok c') (ha : c'.assertion = some .fits)
    (hname : c'.variableName = none) : ∀ v ∈ c'.value, Regex.compiles v := by
  rw [addAssertion] at h
  obtain ⟨⟨a, tail⟩, -, h⟩ := bind_eq_ok h
  dsimp only at h
  split at h
  next hexist =>
    obtain rfl := Except.ok.inj h
    rw [hexist] at ha
    cases ha
  next hexist =>
    -- Of the assertion itself only its kind is known, so far.
    obtain ⟨t, rfl | rfl⟩ := exists_addExpected h
    · obtain rfl : a = .fits := Option.some.inj ha
      obtain ⟨v, heq, hv⟩ | ⟨name, heq⟩ := compiles_of_addExpected h
      · intro w hw
        obtain rfl : t = w := Option.some.inj hw
        obtain rfl : t = v := Option.some.inj (congrArg Command.value heq)
        exact hv
      · rw [heq] at hname
        cases hname
    · cases hname

/-! ## Segments -/

/-- Behind the last segment that is no scope stands nothing that sets a value: it is a `with`
segment, and the value is the one it names. -/
def NamedLast (segments : List (Connector × List Text)) (v : Text) : Prop :=
  ∃ front rest back, segments = front ++ (.with_, rest) :: back ∧ (∀ s ∈ back, s.1 = .on_) ∧
    ∀ c, addValue c rest = .ok (c.withValue v)

/-- Which value a `with` segment names does not depend on the command. -/
theorem exists_addValue {c c' : Command} {rest : List Text} (h : addValue c rest = .ok c') :
    ∃ v, c' = c.withValue v ∧ ∀ d, addValue d rest = .ok (d.withValue v) := by
  simp only [addValue] at h ⊢
  cases hquoted : unquote? (Text.unwords rest) with
  | some v =>
      rw [hquoted] at h
      exact ⟨v, (Except.ok.inj h).symm, fun _ => rfl⟩
  | none =>
      rw [hquoted] at h
      dsimp only at h ⊢
      generalize stripPunctuation _ = value at h ⊢
      cases value with
      | nil => cases h
      | cons first tail => exact ⟨first :: tail, (Except.ok.inj h).symm, fun _ => rfl⟩

theorem NamedLast.scope {segments : List (Connector × List Text)} {v : Text}
    (h : NamedLast segments v) (rest : List Text) :
    NamedLast (segments ++ [(.on_, rest)]) v := by
  obtain ⟨front, named, back, rfl, hback, hv⟩ := h
  refine ⟨front, named, back ++ [(.on_, rest)], by simp, ?_, hv⟩
  intro s hs
  rcases List.mem_append.mp hs with hs | hs
  · exact hback s hs
  · rw [List.mem_singleton.mp hs]

/-- What holds of the value of a match behind each connector segment. -/
def Vetted [Regex.Engine] (segments : List (Connector × List Text)) (c : Command) : Prop :=
  c.action = .ensure → c.assertion = some .fits → c.variableName = none →
    ∀ v ∈ c.value, Regex.compiles v ∨ NamedLast segments v

theorem Adds.action {c c' : Command} {k : Connector} {rest : List Text} (h : Adds c k rest c') :
    c'.action = c.action := by
  cases h <;> rfl

theorem Vetted.add [Regex.Engine] {segments : List (Connector × List Text)} {c c' : Command}
    {k : Connector} {rest : List Text} (h : Vetted segments c)
    (hadd : addConnected c k rest = .ok c') : Vetted (segments ++ [(k, rest)]) c' := by
  intro haction ha hname v hv
  rw [(adds_addConnected hadd).action] at haction
  cases k with
  | on_ =>
      have hscope : addScope c rest = .ok c' := hadd
      cases adds_addScope hscope with
      | title | scope =>
          exact (h haction ha hname v hv).imp_right fun hlast => hlast.scope rest
      | value _ hk | storeName hk | existence hk => exact absurd rfl hk
      | comparedValue _ _ hk | comparedVariable _ _ hk => exact absurd rfl hk
  | with_ =>
      have hvalue : addValue c rest = .ok c' := hadd
      obtain ⟨w, rfl, hw⟩ := exists_addValue hvalue
      obtain rfl : w = v := Option.some.inj hv
      exact .inr ⟨segments, rest, [], rfl, nofun, hw⟩
  | to_ | into_ =>
      rw [addConnected] at hadd
      simp only [haction] at hadd
      exact .inl (compiles_of_addAssertion hadd ha hname v hv)

theorem vetted_of_readInstruction [Regex.Engine] {terms : List Term} {c : Command}
    (h : readInstruction terms = .ok c) :
    Vetted (connected (({} : Reading).read terms).segments) c := by
  have hread := exists_reading h
  rw [Reading.command_eq] at hread
  obtain ⟨c₀, htarget, hread⟩ := bind_eq_ok hread
  obtain ⟨c₁, hfold, hchecked⟩ := bind_eq_ok hread
  obtain rfl := checked_eq_ok hchecked
  refine foldlM_induction Vetted ?_ (fun _ _ _ _ hdone hadd => hdone.add hadd) hfold
  intro _ ha
  obtain ⟨-, heq⟩ := exists_target htarget
  rw [heq] at ha
  cases ha

/-! ## Runs -/

theorem isOk_patternOf [Regex.Engine] {c : Command} (h : c.variableName = none) (source : Text) :
    (Run.patternOf c source).isOk = Regex.compiles source := by
  rw [Run.patternOf, Regex.compiles, h]
  simp only [Option.isSome_none, Bool.false_eq_true, if_false]
  cases Regex.compile source <;> rfl

theorem expectedText_of_literal {c : Command} {v : Text} (hname : c.variableName = none)
    (hv : c.value = some v) (hliteral : globalName? v = none) (vs : Variables) :
    Run.expectedText vs c = .ok (some v) := by
  rw [Run.expectedText, hname, hv]
  simp only [Variables.substitute, hliteral]
  rfl

/-- What a command is to match is a regular expression, unless a `with` segment behind all
assertions names it. A run compares with it as it stands unless it is a token, and fails to compile
it exactly if it is no regular expression. -/
theorem readInstruction_fits [Regex.Engine] {terms : List Term} {c : Command} {v : Text}
    (h : readInstruction terms = .ok c) (ha : c.assertion = some .fits) (hv : c.value = some v) :
    (Regex.compiles v ∨ NamedLast (connected (({} : Reading).read terms).segments) v) ∧
      (globalName? v = none → ∀ vs, Run.expectedText vs c = .ok (some v) ∧
        (Run.patternOf c v).isOk = Regex.compiles v) := by
  have hnormal := isNormal_of_readInstruction h
  have haction : c.action = .ensure := hnormal.assertion.mp (by rw [ha]; rfl)
  have hname : c.variableName = none := by
    have hoperands := hnormal.operands
    simp only [Command.HasOperands, haction, ha, hv] at hoperands
    simpa using hoperands
  constructor
  · exact vetted_of_readInstruction h haction ha hname v hv
  · intro hliteral vs
    exact ⟨expectedText_of_literal hname hv hliteral vs, isOk_patternOf hname v⟩

/-- Of two matches and a value between them the last counts. -/
def rematched : Text :=
  "Ensure \"X\" element to match \"a\" with \"(\" to match \"/b+/s\" on the main."

open Regex.Builtin

theorem readInstruction_fits_rematched :
    ∃ c, readInstruction (lexicon rematched) = .ok c ∧ c.assertion = some .fits ∧
      c.value = some "(?s)b+".toList ∧ globalName? "(?s)b+" = none ∧
      (Regex.compiles "(?s)b+" ∨
        NamedLast (connected (({} : Reading).read (lexicon rematched)).segments) "(?s)b+") ∧
      ∀ vs, Run.expectedText vs c = .ok (some "(?s)b+".toList) ∧
        (Run.patternOf c "(?s)b+").isOk = Regex.compiles "(?s)b+" := by
  have hread : readInstruction (lexicon rematched) =
      .ok { action := .ensure, object := "X", elementType := "generic", specifier := some "main",
            assertion := some .fits, aspect := some .plain, value := some "(?s)b+" } := by
    decide +kernel
  have hliteral : globalName? "(?s)b+" = none := by decide
  obtain ⟨hvalue, hrun⟩ := readInstruction_fits hread rfl rfl
  exact ⟨_, hread, rfl, rfl, hliteral, hvalue, hrun hliteral⟩

/-- A parenthesis that is never closed, named behind the match. -/
def overruled : Text := "Ensure \"X\" element to match \"a\" with \"(\"."

/-- So a match can be read whose text is no regular expression, and fails as such in a run. -/
theorem readInstruction_fits_overruled_ne :
    ∃ c, readInstruction (lexicon overruled) = .ok c ∧ c.action = .ensure ∧
      c.assertion = some .fits ∧ c.value = some "(".toList ∧ globalName? "(" = none ∧
      Regex.compiles "(" = false ∧ (Run.patternOf c "(").isOk = false := by
  have hread : readInstruction (lexicon overruled) =
      .ok { action := .ensure, object := "X", elementType := "generic",
            assertion := some .fits, aspect := some .plain, value := some "(" } := by
    decide +kernel
  exact ⟨_, hread, rfl, rfl, rfl, by decide, by decide +kernel, by decide +kernel⟩

end PlainSteps.Sentence
