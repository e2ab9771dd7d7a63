import PlainSteps.Proofs.Blocks

/-!
# Commands of segments

Connector segments apply to the command of a target one after another. What scope segments write,
the others neither look at nor write (`addConnected_aside`), and which scope a segment names does
not depend on the command (`exists_addScope`). So the command that is read is the one of the other
segments, and the scopes come to it last (`commandFrom_eq_ok_iff`).
-/

namespace PlainSteps

/-! ## What segments write -/

namespace Command

/-- The command in a scope, which is the title of a section if `title`. -/
def within (c : Command) (scope : Text) (title : Bool) : Command :=
  if title then c.withSection scope else c.withSpecifier scope

/-- The command with the flag for negations set so. -/
def marked (c : Command) (negated : Bool) : Command := { c with isNegativeAssertion := negated }

/-- The change leaves alone what segments other than scopes look at, and it does not matter whether
it comes before or behind what they write. -/
structure Aside (f : Command → Command) : Prop where
  action : ∀ c, (f c).action = c.action
  value : ∀ c v, f (c.withValue v) = (f c).withValue v
  variable_ : ∀ c name, f (c.withVariable name) = (f c).withVariable name
  assertion : ∀ (c : Command) a, f { c with assertion := some a } = { f c with assertion := some a }
  aspect : ∀ c a, f (c.withAspect a) = (f c).withAspect a

/-- The command behind scope phrases that name these scopes: the last gives the name, and the flag
of a section stays from any of them. -/
def inScopes (c : Command) (names : List (Text × Bool)) : Command :=
  { c with
    specifier := (names.getLast?.map Prod.fst).or c.specifier
    isSection := c.isSection || names.any Prod.snd }

theorem inScopes_nil (c : Command) : c.inScopes [] = c := by simp [inScopes]

theorem inScopes_within (c : Command) (x : Text × Bool) (names : List (Text × Bool)) :
    (c.within x.1 x.2).inScopes names = c.inScopes (x :: names) := by
  obtain ⟨scope, title⟩ := x
  cases title <;> cases hlast : names.getLast? <;>
    simp [inScopes, within, withSection, withSpecifier, List.getLast?_cons, hlast]

theorem aside_within (scope : Text) (title : Bool) : Aside (within · scope title) := by
  cases title <;>
    exact ⟨fun _ => rfl, fun _ _ => rfl, fun _ _ => rfl, fun _ _ => rfl, fun _ _ => rfl⟩

theorem aside_marked (negated : Bool) : Aside (marked · negated) :=
  ⟨fun _ => rfl, fun _ _ => rfl, fun _ _ => rfl, fun _ _ => rfl, fun _ _ => rfl⟩

end Command

namespace Sentence

open Command

theorem map_eq_ok {α β : Type} {f : α → β} {x : Except Cause α} {b : β} (h : x.map f = .ok b) :
    ∃ a, x = .ok a ∧ b = f a := by
  cases x with
  | error cause => cases h
  | ok a => exact ⟨a, rfl, (Except.ok.inj h).symm⟩

theorem bind_of_ok {α β : Type} {x : Except Cause α} {a : α} (h : x = .ok a)
    (f : α → Except Cause β) : x >>= f = f a := by
  rw [h]
  rfl

theorem bind_map {α β γ : Type} {f : β → γ} {x : Except Cause α} {g : α → Except Cause γ}
    {g' : α → Except Cause β} (h : ∀ a, g a = (g' a).map f) : x >>= g = (x >>= g').map f := by
  cases x with
  | error cause => rfl
  | ok a => exact h a

/-- The words behind `on` name the scope, and whether it is the title of a section. -/
def NamesScope (rest : List Text) (x : Text × Bool) : Prop :=
  ∀ c, addScope c rest = .ok (c.within x.1 x.2)

/-- Which scope a segment names does not depend on the command. -/
theorem exists_addScope {c c' : Command} {rest : List Text} (h : addScope c rest = .ok c') :
    ∃ x, NamesScope rest x ∧ c' = c.within x.1 x.2 := by
  simp only [NamesScope, addScope] at h ⊢
  generalize Text.trim (Text.unwords (skipArticles rest)) = text at h ⊢
  cases hquote : text.head? == some '"' with
  | true =>
      rw [hquote] at h
      cases hunquote : unquote? text with
      | none =>
          rw [hunquote] at h
          cases h
      | some title =>
          rw [hunquote] at h
          exact ⟨(title, true), fun _ => rfl, (Except.ok.inj h).symm⟩
  | false =>
      rw [hquote] at h
      generalize stripPunctuation text = name at h ⊢
      cases name with
      | nil => cases h
      | cons first tail => exact ⟨(_, false), fun _ => rfl, (Except.ok.inj h).symm⟩

/-- Applies connector segments in order. -/
def addAll [Regex.Engine] (c : Command) (segments : List (Connector × List Text)) :
    Except Cause Command :=
  segments.foldlM (fun c (k, rest) => addConnected c k rest) c

theorem addAll_cons [Regex.Engine] (c : Command) (k : Connector) (rest : List Text)
    (segments : List (Connector × List Text)) :
    addAll c ((k, rest) :: segments) = addConnected c k rest >>= (addAll · segments) :=
  List.foldlM_cons ..

section Aside

variable {f : Command → Command} (hf : Aside f) (c : Command)
include hf

theorem addValue_aside (rest : List Text) :
    addValue (f c) rest = (addValue c rest).map f := by
  simp only [addValue, hf.action]
  cases unquote? (Text.unwords rest) with
  | some value => exact congrArg Except.ok (hf.value c value).symm
  | none =>
      dsimp only
      generalize stripPunctuation _ = value
      cases value with
      | nil => rfl
      | cons first tail => exact congrArg Except.ok (hf.value c _).symm

theorem addPosition_aside (rest : List Text) :
    addPosition (f c) rest = (addPosition c rest).map f := by
  simp only [addPosition, hf.action]
  cases (unquote? (Text.unwords rest)).or (rest.getLast?.map stripPunctuation) with
  | none => rfl
  | some value =>
      cases value with
      | nil => rfl
      | cons first tail => exact congrArg Except.ok (hf.value c _).symm

theorem addStoreName_aside (rest : List Text) :
    addStoreName (f c) rest = (addStoreName c rest).map f := by
  simp only [addStoreName, hf.action]
  generalize (unquote? (Text.unwords rest)).or _ = name
  cases name with
  | none => rfl
  | some name =>
      cases hblank : Text.blank name with
      | true => simp [hblank, Except.map]
      | false => simp [hblank, Except.map, hf.variable_]

theorem assertionHead_aside (rest : List Text) :
    assertionHead (f c) rest = assertionHead c rest := by
  cases rest with
  | nil => simp only [assertionHead, hf.action]
  | cons => rfl

theorem addExpected_aside [Regex.Engine] (a : Assertion) (operand : Text) :
    addExpected (f c) a operand = (addExpected c a operand).map f := by
  simp only [addExpected, hf.action]
  cases operand with
  | nil => rfl
  | cons first tail =>
      simp only [List.isEmpty_cons, Bool.false_eq_true, if_false]
      -- A pattern is looked for between slashes and checked; other operands are taken as they are.
      split
      · refine bind_map fun literal => ?_
        cases literal with
        | some pattern => exact congrArg Except.ok (hf.value c pattern).symm
        | none =>
            dsimp only
            split
            · exact congrArg Except.ok (hf.variable_ c _).symm
            · exact bind_map fun _ => congrArg Except.ok (hf.value c _).symm
      · refine bind_map fun literal => ?_
        cases literal with
        | some pattern => exact congrArg Except.ok (hf.value c pattern).symm
        | none =>
            dsimp only
            split
            · exact congrArg Except.ok (hf.variable_ c _).symm
            · exact congrArg Except.ok (hf.value c _).symm

theorem addAssertion_aside [Regex.Engine] (rest : List Text) :
    addAssertion (f c) rest = (addAssertion c rest).map f := by
  rw [addAssertion, addAssertion, assertionHead_aside hf]
  refine bind_map fun head => ?_
  obtain ⟨a, tail⟩ := head
  dsimp only
  split
  · rw [← hf.assertion, ← hf.aspect]
    rfl
  · rw [← hf.assertion, ← hf.aspect]
    exact addExpected_aside hf _ a _

/-- Segments other than scopes do not see the change. -/
theorem addConnected_aside [Regex.Engine] {k : Connector} (hk : k ≠ .on_) (rest : List Text) :
    addConnected (f c) k rest = (addConnected c k rest).map f := by
  cases k with
  | on_ => exact absurd rfl hk
  | with_ => exact addValue_aside hf c rest
  | to_ | into_ =>
      simp only [addConnected, hf.action]
      cases c.action with
      | slide => exact addPosition_aside hf c rest
      | store => exact addStoreName_aside hf c rest
      | ensure => exact addAssertion_aside hf c rest
      | click | hover | fill => rfl

theorem addAll_aside [Regex.Engine] {segments : List (Connector × List Text)}
    (h : ∀ s ∈ segments, s.1 ≠ .on_) : addAll (f c) segments = (addAll c segments).map f := by
  induction segments generalizing c with
  | nil => rfl
  | cons s segments ih =>
      obtain ⟨k, rest⟩ := s
      obtain ⟨hk, hsegments⟩ := List.forall_mem_cons.mp h
      rw [addAll_cons, addAll_cons, addConnected_aside hf c hk]
      cases addConnected c k rest with
      | error cause => rfl
      | ok c' => exact ih c' hsegments

end Aside

/-! ## Scopes last -/

/-- The words behind each `on`. -/
def scopePhrases (segments : List (Connector × List Text)) : List (List Text) :=
  (segments.filter (·.1 = .on_)).map (·.2)

/-- The segments that are no scopes. -/
def unscoped (segments : List (Connector × List Text)) : List (Connector × List Text) :=
  segments.filter (·.1 ≠ .on_)

@[simp] theorem scopePhrases_append (front back : List (Connector × List Text)) :
    scopePhrases (front ++ back) = scopePhrases front ++ scopePhrases back := by
  simp [scopePhrases]

@[simp] theorem scopePhrases_scope (rest : List Text) (segments : List (Connector × List Text)) :
    scopePhrases ((.on_, rest) :: segments) = rest :: scopePhrases segments :=
  rfl

@[simp] theorem scopePhrases_cons {k : Connector} (hk : k ≠ .on_) (rest : List Text)
    (segments : List (Connector × List Text)) :
    scopePhrases ((k, rest) :: segments) = scopePhrases segments := by
  simp [scopePhrases, hk]

@[simp] theorem unscoped_append (front back : List (Connector × List Text)) :
    unscoped (front ++ back) = unscoped front ++ unscoped back := by
  simp [unscoped]

@[simp] theorem unscoped_scope (rest : List Text) (segments : List (Connector × List Text)) :
    unscoped ((.on_, rest) :: segments) = unscoped segments :=
  rfl

@[simp] theorem unscoped_cons {k : Connector} (hk : k ≠ .on_) (rest : List Text)
    (segments : List (Connector × List Text)) :
    unscoped ((k, rest) :: segments) = (k, rest) :: unscoped segments := by
  simp [unscoped, hk]

@[simp] theorem unscoped_unscoped (segments : List (Connector × List Text)) :
    unscoped (unscoped segments) = unscoped segments := by
  simp [unscoped]

@[simp] theorem scopePhrases_unscoped (segments : List (Connector × List Text)) :
    scopePhrases (unscoped segments) = [] := by
  simp [scopePhrases, unscoped]

theorem ne_of_mem_unscoped {segments : List (Connector × List Text)} {s : Connector × List Text}
    (h : s ∈ unscoped segments) : s.1 ≠ .on_ := by
  simpa using (List.mem_filter.mp h).2

/-- Scope phrases come to the same when they are applied behind the other segments. -/
theorem addAll_eq_ok_iff [Regex.Engine] {segments : List (Connector × List Text)} {c c' : Command} :
    addAll c segments = .ok c' ↔
      ∃ names d, List.Forall₂ NamesScope (scopePhrases segments) names ∧
        addAll c (unscoped segments) = .ok d ∧ c' = d.inScopes names := by
  induction segments generalizing c with
  | nil =>
      constructor
      · intro h
        exact ⟨[], c, .nil, rfl, by rw [inScopes_nil, Except.ok.inj h]⟩
      · rintro ⟨names, d, hnames, hd, rfl⟩
        obtain rfl := List.forall₂_nil_left_iff.mp hnames
        rw [inScopes_nil]
        exact hd
  | cons s segments ih =>
      obtain ⟨k, rest⟩ := s
      by_cases hk : k = .on_
      · subst hk
        have haside (x : Text × Bool) :
            addAll (c.within x.1 x.2) (unscoped segments) =
              (addAll c (unscoped segments)).map (·.within x.1 x.2) :=
          addAll_aside (aside_within x.1 x.2) c fun s => ne_of_mem_unscoped
        rw [addAll_cons, scopePhrases_scope, unscoped_scope, addConnected]
        constructor
        · intro h
          obtain ⟨c₁, hscope, h⟩ := bind_eq_ok h
          obtain ⟨x, hx, rfl⟩ := exists_addScope hscope
          obtain ⟨names, d', hnames, hd', rfl⟩ := ih.mp h
          rw [haside] at hd'
          obtain ⟨d, hd, rfl⟩ := map_eq_ok hd'
          exact ⟨x :: names, d, .cons hx hnames, hd, inScopes_within d x names⟩
        · rintro ⟨names, d, hnames, hd, rfl⟩
          obtain ⟨x, names, hx, hrest, rfl⟩ := List.forall₂_cons_left_iff.mp hnames
          rw [bind_of_ok (hx c)]
          refine ih.mpr ⟨names, d.within x.1 x.2, hrest, ?_, (inScopes_within d x names).symm⟩
          rw [haside, hd]
          rfl
      · rw [addAll_cons, scopePhrases_cons hk, unscoped_cons hk, addAll_cons]
        cases addConnected c k rest with
        | error cause => simp [bind, Except.bind]
        | ok c₁ => exact ih

theorem checked_inScopes (c : Command) (names : List (Text × Bool)) :
    checked (c.inScopes names) = (checked c).map (·.inScopes names) := by
  have hfault : (c.inScopes names).fault? = c.fault? := rfl
  have haction : (c.inScopes names).action = c.action := rfl
  have hassertion : (c.inScopes names).assertion = c.assertion := rfl
  rw [checked, checked, hfault, haction, hassertion]
  split
  · rfl
  · cases c.fault? <;> rfl

variable [Regex.Engine]

/-- The command that segments make of a target, checked last. -/
def commandFrom (targets : List (List Text)) (segments : List (Connector × List Text))
    (negated : Bool) : Except Cause Command :=
  target targets >>= fun c => addAll (c.marked negated) segments >>= checked

/-- The scopes come last in a command, too: what the other segments make is checked without them. -/
theorem commandFrom_eq_ok_iff {targets : List (List Text)}
    {segments : List (Connector × List Text)} {n : Bool} {c : Command} :
    commandFrom targets segments n = .ok c ↔
      ∃ names d, List.Forall₂ NamesScope (scopePhrases segments) names ∧
        commandFrom targets (unscoped segments) n = .ok d ∧ c = d.inScopes names := by
  rw [commandFrom, commandFrom]
  constructor
  · intro h
    obtain ⟨c₀, htarget, h⟩ := bind_eq_ok h
    obtain ⟨c₁, hadd, hchecked⟩ := bind_eq_ok h
    obtain ⟨names, d, hnames, hd, rfl⟩ := addAll_eq_ok_iff.mp hadd
    rw [checked_inScopes] at hchecked
    obtain ⟨d', hd', rfl⟩ := map_eq_ok hchecked
    refine ⟨names, d', hnames, ?_, rfl⟩
    rw [bind_of_ok htarget, bind_of_ok hd]
    exact hd'
  · rintro ⟨names, d, hnames, h, rfl⟩
    obtain ⟨c₀, htarget, h⟩ := bind_eq_ok h
    obtain ⟨c₁, hadd, hchecked⟩ := bind_eq_ok h
    rw [bind_of_ok htarget, bind_of_ok (addAll_eq_ok_iff.mpr ⟨names, c₁, hnames, hadd, rfl⟩),
      checked_inScopes, hchecked]
    rfl

theorem scope_of_addAll {segments : List (Connector × List Text)} {c c' : Command}
    (hsegments : ∀ s ∈ segments, s.1 ≠ .on_) (h : addAll c segments = .ok c') :
    c'.specifier = c.specifier ∧ c'.isSection = c.isSection ∧
      c'.isNegativeAssertion = c.isNegativeAssertion := by
  induction segments generalizing c with
  | nil =>
      obtain rfl := Except.ok.inj h
      exact ⟨rfl, rfl, rfl⟩
  | cons s segments ih =>
      obtain ⟨k, rest⟩ := s
      obtain ⟨hk, hrest⟩ := List.forall_mem_cons.mp hsegments
      rw [addAll_cons] at h
      obtain ⟨c₁, hadd, h⟩ := bind_eq_ok h
      obtain ⟨hspecifier, hsection, hnegative⟩ := ih hrest h
      rw [hspecifier, hsection, hnegative]
      cases adds_addConnected hadd with
      | title | scope => exact absurd rfl hk
      | value | storeName | existence | comparedValue | comparedVariable => exact ⟨rfl, rfl, rfl⟩

theorem scope_of_commandFrom {targets : List (List Text)}
    {segments : List (Connector × List Text)} {n : Bool} {d : Command}
    (h : commandFrom targets (unscoped segments) n = .ok d) :
    d.specifier = none ∧ d.isSection = false ∧ d.isNegativeAssertion = n := by
  obtain ⟨c₀, htarget, h⟩ := bind_eq_ok h
  obtain ⟨c₁, hadd, hchecked⟩ := bind_eq_ok h
  obtain rfl := checked_eq_ok hchecked
  obtain ⟨hspecifier, hsection, hnegative⟩ := scope_of_addAll (fun _ => ne_of_mem_unscoped) hadd
  obtain ⟨-, heq⟩ := exists_target htarget
  rw [hspecifier, hsection, hnegative, heq]
  exact ⟨rfl, rfl, rfl⟩

/-- Only the order of the scope phrases and the order of the other segments matter. -/
theorem commandFrom_congr {segments segments' : List (Connector × List Text)}
    (hphrases : scopePhrases segments = scopePhrases segments')
    (hunscoped : unscoped segments = unscoped segments') (targets : List (List Text)) (n : Bool)
    (c : Command) :
    commandFrom targets segments n = .ok c ↔ commandFrom targets segments' n = .ok c := by
  rw [commandFrom_eq_ok_iff, commandFrom_eq_ok_iff, hphrases, hunscoped]

/-- The negations among the terms change the flag of the command and nothing else. -/
theorem commandFrom_marked {targets : List (List Text)} {segments : List (Connector × List Text)}
    {n n' : Bool} {c d : Command} (hc : commandFrom targets (unscoped segments) n = .ok c)
    (hd : commandFrom targets (unscoped segments) n' = .ok d) : c = d.marked n := by
  obtain ⟨c₀, htarget, hc⟩ := bind_eq_ok hc
  obtain ⟨c₁, hadd, hchecked⟩ := bind_eq_ok hc
  obtain ⟨d₀, htarget', hd⟩ := bind_eq_ok hd
  obtain ⟨d₁, hadd', hchecked'⟩ := bind_eq_ok hd
  obtain rfl := Except.ok.inj (htarget.symm.trans htarget')
  have hmarked : addAll (c₀.marked n) (unscoped segments) =
      (addAll (c₀.marked n') (unscoped segments)).map (·.marked n) :=
    addAll_aside (aside_marked n) (c₀.marked n') fun _ => ne_of_mem_unscoped
  rw [hadd'] at hmarked
  rw [← checked_eq_ok hchecked, ← checked_eq_ok hchecked']
  exact Except.ok.inj (hadd.symm.trans hmarked)

/-- An instruction is read exactly if no quote is left open and its segments make a command. -/
theorem readInstruction_eq_ok_iff {ts : List Term} {c : Command} :
    readInstruction ts = .ok c ↔ Even (quotesOf ts) ∧
      commandFrom (positional (segmentsOf ts)) (connected (segmentsOf ts)) (isNegated ts) =
        .ok c := by
  have hcommand : (({} : Reading).read ts).command =
      commandFrom (positional (segmentsOf ts)) (connected (segmentsOf ts)) (isNegated ts) :=
    Reading.command_eq _
  constructor
  · intro h
    exact ⟨(readInstruction_quotes ts).1 c h, hcommand ▸ exists_reading h⟩
  · rintro ⟨heven, h⟩
    rw [readInstruction, commandOf, hcommand, h]
    cases hplace : (({} : Reading).read ts).place with
    | quoted s => exact absurd hplace (isIdle_of_even heven s)
    | between | inside s => rfl

theorem isNegativeAssertion_eq {ts : List Term} {c : Command} (h : readInstruction ts = .ok c) :
    c.isNegativeAssertion = isNegated ts := by
  obtain ⟨-, h⟩ := readInstruction_eq_ok_iff.mp h
  obtain ⟨names, d, -, hd, rfl⟩ := commandFrom_eq_ok_iff.mp h
  exact (scope_of_commandFrom hd).2.2

end Sentence

end PlainSteps
