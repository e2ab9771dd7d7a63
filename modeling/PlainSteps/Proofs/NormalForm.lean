import PlainSteps.Proofs.Target
import PlainSteps.Regex.Builtin
import PlainSteps.Run.Assert

/-!
# Commands in normal form

Connector segments may stand in any number and order, and each overwrites what earlier ones have
set. Whatever terms a command is read from, it ends up in normal form all the same: it has the
fields that its action needs and no others. The main statement is `readInstruction_normal`; it
rests on `Draft`, which every segment keeps, and on the last checks.
-/

namespace PlainSteps

/-! ## Normal forms -/

namespace Command

/-- The operands are those that the action takes. -/
def HasOperands (c : Command) : Prop :=
  match c.action with
  | .click | .hover => c.value = none ∧ c.variableName = none
  | .fill | .slide => c.value.isSome ∧ c.variableName = none
  | .store => c.value = none ∧ ∃ name, c.variableName = some name ∧ Text.blank name = false
  | .ensure =>
    if c.assertion = some .exist then
      c.aspect = some .plain ∧ c.value = none ∧ c.variableName = none
    else c.variableName.isSome = !c.value.isSome

structure IsNormal (c : Command) : Prop where
  object : Text.blank c.object = false
  role : c.elementType ∈ standardRoles
  section_ : c.isSection → c.specifier.isSome
  specifier : c.isSection = false → c.specifier ≠ some []
  assertion : c.assertion.isSome ↔ c.action = .ensure
  aspect : c.aspect.isSome ↔ c.action = .ensure
  negation : c.isNegativeAssertion → c.action = .ensure
  operands : c.HasOperands

/-- Every field that a run looks at for the action is there, so that no default stands in. -/
structure IsComplete (c : Command) : Prop where
  value : c.action = .fill ∨ c.action = .slide → c.value ≠ none
  variableName : c.action = .store → c.variableName ≠ none
  assertion : c.action = .ensure → c.assertion ≠ none
  aspect : c.action = .ensure → c.aspect ≠ none
  expected : c.action = .ensure → c.assertion ≠ some .exist →
    ∀ vs, Run.expectedText vs c ≠ .ok none

theorem IsNormal.isComplete {c : Command} (h : c.IsNormal) : c.IsComplete where
  value haction hnone := by
    have hoperands := h.operands
    rcases haction with haction | haction <;> simp [HasOperands, haction, hnone] at hoperands
  variableName haction hnone := by
    have hoperands := h.operands
    simp [HasOperands, haction, hnone] at hoperands
  assertion haction hnone := by
    have hsome := h.assertion.mpr haction
    rw [hnone] at hsome
    cases hsome
  aspect haction hnone := by
    have hsome := h.aspect.mpr haction
    rw [hnone] at hsome
    cases hsome
  expected haction hexist vs := by
    have hoperands := h.operands
    simp only [HasOperands, haction, if_neg hexist] at hoperands
    rw [Run.expectedText]
    cases hname : c.variableName with
    | some name => cases hget : vs.lookup name <;> simp [Except.map, hget]
    | none =>
        cases hvalue : c.value with
        | none => simp [hname, hvalue] at hoperands
        | some value => cases hget : vs.substitute value <;> simp [Except.map, hget]

/-! ## The last checks -/

/-- What the last checks say of the operands alone. -/
theorem operands_of_fault? {c : Command} (h : c.fault? = none) :
    Text.blank c.object = false ∧ (c.isNegativeAssertion → c.action = .ensure) ∧
      c.operandFault? = none := by
  rw [fault?] at h
  split at h
  · cases h
  next hblank =>
    split at h
    · cases h
    next hnegation =>
      cases hoperands : c.operandFault? with
      | some cause =>
          rw [hoperands] at h
          cases h
      | none =>
          refine ⟨Bool.eq_false_iff.mpr hblank, fun hneg => ?_, rfl⟩
          simpa [hneg] using hnegation

end Command

namespace Sentence

open Command

/-! ## One segment -/

/-- The text that a scope segment names its scope by. -/
def scopeText (rest : List Text) : Text := Text.trim (Text.unwords (skipArticles rest))

/-- What a connector segment can make of a command. -/
inductive Adds (c : Command) : Connector → List Text → Command → Prop
  | title {rest : List Text} (title : Text) :
      (scopeText rest).head? = some '"' → Adds c .on_ rest (c.withSection title)
  | scope {rest : List Text} {name : Text} :
      (scopeText rest).head? ≠ some '"' → name ≠ [] → Adds c .on_ rest (c.withSpecifier name)
  | value {k : Connector} {rest : List Text} (v : Text) : k ≠ .on_ → Adds c k rest (c.withValue v)
  | storeName {k : Connector} {rest : List Text} {name : Text} :
      k ≠ .on_ → c.action = .store → Text.blank name = false → Adds c k rest (c.withVariable name)
  | existence {k : Connector} {rest : List Text} :
      k ≠ .on_ → c.action = .ensure →
        Adds c k rest ({ c with assertion := some .exist }.withAspect .plain)
  | comparedValue {k : Connector} {rest : List Text} {a : Assertion} (aspect : Aspect) (v : Text) :
      k ≠ .on_ → c.action = .ensure → a ≠ .exist →
        Adds c k rest (({ c with assertion := some a }.withAspect aspect).withValue v)
  | comparedVariable {k : Connector} {rest : List Text} {a : Assertion} (aspect : Aspect)
      (name : Text) : k ≠ .on_ → c.action = .ensure → a ≠ .exist →
        Adds c k rest (({ c with assertion := some a }.withAspect aspect).withVariable name)

theorem regionNamed?_ne_nil {word name : Text} (h : regionNamed? word = some name) : name ≠ [] := by
  have hall : ∀ e ∈ regionSynonyms, e.2 ≠ [] := by decide
  obtain ⟨e, he, rfl⟩ := Option.map_eq_some_iff.mp h
  exact hall e (List.mem_of_find?_eq_some he)

theorem adds_addScope {c c' : Command} {rest : List Text} (h : addScope c rest = .ok c') :
    Adds c .on_ rest c' := by
  rw [addScope] at h
  dsimp only at h
  rw [← scopeText] at h
  split at h
  next hquote =>
    cases hunquote : unquote? (scopeText rest) with
    | none =>
        rw [hunquote] at h
        cases h
    | some title =>
        rw [hunquote] at h
        rw [← Except.ok.inj h]
        exact .title title (eq_of_beq hquote)
  next hquote =>
    generalize stripPunctuation (scopeText rest) = name at h
    cases name with
    | nil => cases h
    | cons first tail =>
        rw [← Except.ok.inj h]
        refine .scope (fun hhead => hquote (by rw [hhead]; rfl)) ?_
        split
        · cases hregion : regionNamed? (first :: tail) with
          | none => exact List.cons_ne_nil first tail
          | some name => exact regionNamed?_ne_nil hregion
        · exact List.cons_ne_nil first tail

theorem adds_addValue {c c' : Command} {rest : List Text} (h : addValue c rest = .ok c') :
    Adds c .with_ rest c' := by
  rw [addValue] at h
  split at h
  next value _ =>
    rw [← Except.ok.inj h]
    exact .value value nofun
  · dsimp only at h
    generalize stripPunctuation _ = value at h
    split at h
    · cases h
    · rw [← Except.ok.inj h]
      exact .value value nofun

theorem exists_addPosition {c c' : Command} {rest : List Text} (h : addPosition c rest = .ok c') :
    ∃ v, c' = c.withValue v := by
  rw [addPosition] at h
  split at h
  next value _ =>
    split at h
    · cases h
    · exact ⟨value, (Except.ok.inj h).symm⟩
  · cases h

theorem exists_addStoreName {c c' : Command} {rest : List Text}
    (h : addStoreName c rest = .ok c') :
    ∃ name, Text.blank name = false ∧ c' = c.withVariable name := by
  simp only [addStoreName] at h
  split at h
  next name _ =>
    split at h
    · cases h
    next hblank => exact ⟨name, Bool.eq_false_iff.mpr hblank, (Except.ok.inj h).symm⟩
  · cases h

/-- A comparison is with a value or with a variable. -/
theorem exists_addExpected [Regex.Engine] {c c' : Command} {a : Assertion} {operand : Text}
    (h : addExpected c a operand = .ok c') :
    ∃ t, c' = c.withValue t ∨ c' = c.withVariable t := by
  simp only [addExpected] at h
  split at h
  · cases h
  · split at h
    · obtain ⟨literal, -, h⟩ := bind_eq_ok h
      split at h
      next pattern => exact ⟨pattern, .inl (Except.ok.inj h).symm⟩
      · split at h
        next name _ _ => exact ⟨Text.trim name, .inr (Except.ok.inj h).symm⟩
        · obtain ⟨_, -, h⟩ := bind_eq_ok h
          exact ⟨_, .inl (Except.ok.inj h).symm⟩
    -- Other than a pattern, nothing is looked for between slashes.
    · obtain ⟨literal, hliteral, h⟩ := bind_eq_ok h
      obtain rfl := Except.ok.inj hliteral
      dsimp only at h
      split at h
      next name _ _ => exact ⟨Text.trim name, .inr (Except.ok.inj h).symm⟩
      · exact ⟨_, .inl (Except.ok.inj h).symm⟩

theorem adds_addAssertion [Regex.Engine] {c c' : Command} {k : Connector} {rest : List Text}
    (hk : k ≠ .on_) (haction : c.action = .ensure) (h : addAssertion c rest = .ok c') :
    Adds c k rest c' := by
  rw [addAssertion] at h
  obtain ⟨⟨a, tail⟩, -, h⟩ := bind_eq_ok h
  dsimp only at h
  split at h
  next hexist =>
    obtain rfl := Except.ok.inj h
    rw [hexist]
    exact .existence hk haction
  next hexist =>
    obtain ⟨t, rfl | rfl⟩ := exists_addExpected h
    · exact .comparedValue _ t hk haction hexist
    · exact .comparedVariable _ t hk haction hexist

theorem adds_addConnected [Regex.Engine] {c c' : Command} {k : Connector} {rest : List Text}
    (h : addConnected c k rest = .ok c') : Adds c k rest c' := by
  cases k with
  | on_ => exact adds_addScope h
  | with_ => exact adds_addValue h
  | to_ | into_ =>
      rw [addConnected] at h
      cases haction : c.action with
      | slide =>
          simp only [haction] at h
          obtain ⟨v, rfl⟩ := exists_addPosition h
          exact .value v nofun
      | store =>
          simp only [haction] at h
          obtain ⟨name, hblank, rfl⟩ := exists_addStoreName h
          exact .storeName nofun haction hblank
      | ensure =>
          simp only [haction] at h
          exact adds_addAssertion nofun haction h
      | click | hover | fill =>
          simp only [haction] at h
          cases h

/-! ## All segments -/

/-- The scopes of connector segments, in order. -/
def scopes (segments : List (Connector × List Text)) : List Text :=
  segments.filterMap fun (k, rest) => if k = .on_ then some (scopeText rest) else none

/-- What holds of a command behind each of its connector segments. -/
structure Draft (segments : List (Connector × List Text)) (c : Command) : Prop where
  role : c.elementType ∈ standardRoles
  section_ : c.isSection → c.specifier.isSome
  specifier : c.isSection = false → c.specifier ≠ some []
  assertion : c.assertion.isSome → c.action = .ensure
  aspect : c.aspect.isSome = c.assertion.isSome
  existence : c.assertion = some .exist → c.aspect = some .plain
  stored : c.action = .store → ∀ name ∈ c.variableName, Text.blank name = false
  /-- The last scope counts, and is not empty if it stands without quotes. -/
  scope : ∀ t ∈ (scopes segments).getLast?, t.head? ≠ some '"' →
    ∃ name, name ≠ [] ∧ c.specifier = some name

theorem Draft.adds {segments : List (Connector × List Text)} {c c' : Command} {k : Connector}
    {rest : List Text} (h : Draft segments c) (hadds : Adds c k rest c') :
    Draft (segments ++ [(k, rest)]) c' := by
  have hother (hk : k ≠ .on_) : scopes (segments ++ [(k, rest)]) = scopes segments := by
    simp [scopes, hk]
  have hscope (hk : k ≠ .on_) : ∀ t ∈ (scopes (segments ++ [(k, rest)])).getLast?,
      t.head? ≠ some '"' → ∃ name, name ≠ [] ∧ c.specifier = some name := by
    rw [hother hk]
    exact h.scope
  have hlast : ∀ t ∈ (scopes (segments ++ [(.on_, rest)])).getLast?, t = scopeText rest := by
    simp [scopes]
  cases hadds with
  | title title hquote =>
      refine { h with section_ := fun _ => rfl, specifier := nofun, scope := fun t ht hhead => ?_ }
      rw [hlast t ht] at hhead
      exact absurd hquote hhead
  | scope hquote hname =>
      refine { h with
        section_ := fun _ => rfl
        specifier := fun _ heq => hname (Option.some.inj heq)
        scope := fun _ _ _ => ⟨_, hname, rfl⟩ }
  | value v hk => exact { h with scope := hscope hk }
  | storeName hk haction hblank =>
      refine { h with stored := fun _ name hname => ?_, scope := hscope hk }
      obtain rfl := Option.some.inj hname
      exact hblank
  | existence hk haction =>
      exact { h with
        assertion := fun _ => haction
        aspect := rfl
        existence := fun _ => rfl
        scope := hscope hk }
  | comparedValue aspect v hk haction ha =>
      exact { h with
        assertion := fun _ => haction
        aspect := rfl
        existence := fun hexist => absurd (Option.some.inj hexist) ha
        scope := hscope hk }
  | comparedVariable aspect name hk haction ha =>
      refine { h with
        assertion := fun _ => haction
        aspect := rfl
        existence := fun hexist => absurd (Option.some.inj hexist) ha
        stored := fun hstore => ?_
        scope := hscope hk }
      exact nomatch haction.symm.trans hstore

/-- An invariant of a loop that may fail, over the part of the list that is done. -/
theorem foldlM_induction {ε α β : Type} {f : β → α → Except ε β} (P : List α → β → Prop)
    {xs : List α} {b b' : β} (h0 : P [] b)
    (hstep : ∀ done x c c', P done c → f c x = .ok c' → P (done ++ [x]) c')
    (h : xs.foldlM f b = .ok b') : P xs b' := by
  induction xs using List.reverseRecOn generalizing b' with
  | nil =>
      obtain rfl := Except.ok.inj h
      exact h0
  | append_singleton xs x ih =>
      rw [List.foldlM_append] at h
      obtain ⟨c, hc, hx⟩ := bind_eq_ok h
      rw [List.foldlM_cons] at hx
      obtain ⟨c', hc', hlast⟩ := bind_eq_ok hx
      obtain rfl := Except.ok.inj hlast
      exact hstep xs x c c' (ih hc) hc'

theorem roleNamed?_mem {word role : Text} (h : roleNamed? word = some role) :
    role ∈ standardRoles := by
  have hall : ∀ e ∈ roleSynonyms, e.2 ∈ standardRoles := by decide +kernel
  simp only [roleNamed?] at h
  split at h
  next named role' hfind =>
    obtain rfl := Option.some.inj h
    exact hall _ (List.mem_of_find?_eq_some hfind)
  · exact List.mem_of_find?_eq_some h

/-- The positional segments give action, name and role, and nothing else. -/
theorem exists_target {segments : List (List Text)} {c : Command} (h : target segments = .ok c) :
    c.elementType ∈ standardRoles ∧
      c = { action := c.action, object := c.object, elementType := c.elementType } := by
  have hgeneric : "generic".toList ∈ standardRoles := by decide
  unfold target at h
  split at h
  next action object role =>
    dsimp only at h
    split at h
    next a _ =>
      split at h
      next elementType hrole =>
        obtain rfl := Except.ok.inj h
        exact ⟨roleNamed?_mem hrole, rfl⟩
      · split at h
        · obtain rfl := Except.ok.inj h
          exact ⟨hgeneric, rfl⟩
        · cases h
    · cases h
  all_goals cases h

/-- A command that is read is a draft of its connector segments that passes the last checks. -/
theorem Reading.draft_of_command [Regex.Engine] {r : Reading} {c : Command}
    (h : r.command = .ok c) :
    Draft (connected r.segments) c ∧ (c.action = .ensure → c.assertion ≠ none) ∧
      c.fault? = none := by
  rw [Reading.command_eq] at h
  obtain ⟨c₀, htarget, h⟩ := bind_eq_ok h
  obtain ⟨c₁, hfold, hchecked⟩ := bind_eq_ok h
  obtain ⟨hrole, heq⟩ := exists_target htarget
  have hdraft : Draft (connected r.segments) c₁ := by
    refine foldlM_induction Draft ?_ (fun _ _ _ _ hdone h => hdone.adds (adds_addConnected h)) hfold
    rw [heq]
    exact ⟨hrole, nofun, nofun, nofun, rfl, nofun, nofun, nofun⟩
  obtain rfl := checked_eq_ok hchecked
  refine ⟨hdraft, fun haction hnone => ?_, ?_⟩
  · simp [checked, haction, hnone] at hchecked
  · cases hfault : c₁.fault? with
    | none => rfl
    | some cause =>
        rw [checked, hfault] at hchecked
        split at hchecked <;> cases hchecked

theorem Draft.isNormal {segments : List (Connector × List Text)} {c : Command}
    (h : Draft segments c) (hassertion : c.action = .ensure → c.assertion ≠ none)
    (hfault : c.fault? = none) : c.IsNormal := by
  obtain ⟨hobject, hnegation, hoperands⟩ := operands_of_fault? hfault
  have hiff : c.assertion.isSome ↔ c.action = .ensure :=
    ⟨h.assertion, fun haction => Option.isSome_iff_ne_none.mpr (hassertion haction)⟩
  have hiff' : c.aspect.isSome ↔ c.action = .ensure := by rw [h.aspect]; exact hiff
  refine ⟨hobject, h.role, h.section_, h.specifier, hiff, hiff', hnegation, ?_⟩
  unfold HasOperands
  unfold operandFault? at hoperands
  cases haction : c.action with
  | click | hover | fill | slide =>
      simp only [haction] at hoperands ⊢
      cases hvalue : c.value <;> cases hname : c.variableName <;> simp_all
  | store =>
      simp only [haction] at hoperands ⊢
      have hstored := h.stored haction
      cases hvalue : c.value <;> cases hname : c.variableName <;> simp_all
  | ensure =>
      simp only [haction] at hoperands ⊢
      cases ha : c.assertion with
      | none => exact absurd ha (hassertion haction)
      | some a =>
          have hexistence := h.existence
          cases a <;> cases hvalue : c.value <;> cases hname : c.variableName <;> simp_all

theorem exists_reading [Regex.Engine] {terms : List Term} {c : Command}
    (h : readInstruction terms = .ok c) : (({} : Reading).read terms).command = .ok c := by
  rw [readInstruction, commandOf] at h
  split at h
  · cases h
  · cases hcommand : (({} : Reading).read terms).command with
    | error cause =>
        rw [hcommand] at h
        cases h
    | ok c' =>
        rw [hcommand] at h
        rw [Except.ok.inj h]

theorem isNormal_of_readInstruction [Regex.Engine] {terms : List Term} {c : Command}
    (h : readInstruction terms = .ok c) : c.IsNormal := by
  obtain ⟨hdraft, hassertion, hfault⟩ := Reading.draft_of_command (exists_reading h)
  exact hdraft.isNormal hassertion hfault

/-! ## Sentences -/

theorem forall₂_of_mapM {ε α β : Type} {f : α → Except ε β} {xs : List α} {ys : List β}
    (h : xs.mapM f = .ok ys) : List.Forall₂ (fun x y => f x = .ok y) xs ys := by
  induction xs generalizing ys with
  | nil =>
      obtain rfl := Except.ok.inj h
      exact .nil
  | cons x xs ih =>
      rw [List.mapM_cons] at h
      obtain ⟨y, hy, h⟩ := bind_eq_ok h
      obtain ⟨zs, hzs, h⟩ := bind_eq_ok h
      obtain rfl := Except.ok.inj h
      exact .cons hy (ih hzs)

theorem eq_singleton_of_mapM {ε α β : Type} {f : α → Except ε β} {xs : List α} {y : β}
    (h : xs.mapM f = .ok [y]) : ∃ x, xs = [x] ∧ f x = .ok y := by
  cases forall₂_of_mapM h with
  | cons hx hxs =>
      obtain rfl := List.forall₂_nil_right_iff.mp hxs
      exact ⟨_, rfl, hx⟩

theorem exists_of_mapM {ε α β : Type} {f : α → Except ε β} {xs : List α} {ys : List β}
    (h : xs.mapM f = .ok ys) : ∀ x ∈ xs, ∃ y, f x = .ok y := by
  have hall := forall₂_of_mapM h
  clear h
  induction hall with
  | nil => exact nofun
  | cons hx _ ih => exact List.forall_mem_cons.mpr ⟨⟨_, hx⟩, ih⟩

theorem exists_of_mapM_error {ε α β : Type} {f : α → Except ε β} {xs : List α} {e : ε}
    (h : xs.mapM f = .error e) : ∃ x ∈ xs, f x = .error e := by
  induction xs with
  | nil => cases h
  | cons x xs ih =>
      rw [List.mapM_cons] at h
      cases hx : f x with
      | error e' =>
          rw [hx] at h
          obtain rfl : e' = e := Except.error.inj h
          exact ⟨x, List.mem_cons_self, hx⟩
      | ok y =>
          rw [hx] at h
          cases hxs : xs.mapM f with
          | error e' =>
              rw [hxs] at h
              obtain rfl : e' = e := Except.error.inj h
              obtain ⟨z, hz, hfail⟩ := ih hxs
              exact ⟨z, List.mem_cons_of_mem x hz, hfail⟩
          | ok ys =>
              rw [hxs] at h
              cases h

theorem isNormal_of_mem_parseWith [Regex.Engine] {tagger : Tagger} {sentence : Text}
    {commands : List Command} (h : parseWith tagger sentence = .ok commands) :
    ∀ c ∈ commands, c.IsNormal := by
  have hall := forall₂_of_mapM h
  clear h
  generalize instructionsOf tagger sentence = instructions at hall
  induction hall with
  | nil => exact fun _ hc => absurd hc List.not_mem_nil
  | cons hread _ ih => exact List.forall_mem_cons.mpr ⟨isNormal_of_readInstruction hread, ih⟩

/-- A command that is read, from whatever terms, is valid and in normal form. A scope that stands
last and without quotes names something, and a run needs no default for the command. -/
theorem readInstruction_normal [Regex.Engine] {terms : List Term} {c : Command}
    (h : readInstruction terms = .ok c) :
    (∀ clause, c.validate clause = .ok ()) ∧ c.IsNormal ∧
      (∀ t ∈ (scopes (connected (({} : Reading).read terms).segments)).getLast?,
        t.head? ≠ some '"' → ∃ name, name ≠ [] ∧ c.specifier = some name) ∧
      c.IsComplete := by
  obtain ⟨hdraft, hassertion, hfault⟩ := Reading.draft_of_command (exists_reading h)
  have hnormal := hdraft.isNormal hassertion hfault
  refine ⟨fun clause => ?_, hnormal, hdraft.scope, hnormal.isComplete⟩
  rw [validate, hfault]

def overwritten : Text := "Fill \"Name\" field with \"Bob\" on main with \"Ada\" on the navbar."

open Regex.Builtin

/-- Of two values and two scopes the later ones count. -/
theorem readInstruction_normal_overwritten :
    ∃ c, readInstruction (lexicon overwritten) = .ok c ∧ c.value = some "Ada".toList ∧
      c.specifier = some "nav".toList ∧ (∀ clause, c.validate clause = .ok ()) ∧ c.IsNormal ∧
      c.IsComplete := by
  have hread : readInstruction (lexicon overwritten) =
      .ok { action := .fill, object := "Name", elementType := "textbox", specifier := some "nav",
            value := some "Ada" } := by
    decide +kernel
  obtain ⟨hvalid, hnormal, -, hcomplete⟩ := readInstruction_normal hread
  exact ⟨_, hread, rfl, rfl, hvalid, hnormal, hcomplete⟩

end Sentence

end PlainSteps
