import PlainSteps.Page
import PlainSteps.Proofs.Calls
import PlainSteps.Proofs.Failures
import PlainSteps.Proofs.Parts
import PlainSteps.Regex.Builtin

/-!
# How the verdicts of assertions hang together

An assertion that is looked at once and its opposite fail alike, or one of them passes and the other
does not. What is exactly as expected also contains it, and a target that anything can be said of
exists. All this holds of every backend; the main statement is `ensure_coherent`.
-/

namespace PlainSteps

open Run

variable {σ α β γ : Type}

/-! ## Sessions side by side -/

/-- Begun on the same page, two sessions fail alike, or they give answers that are related and leave
the same page. -/
def Run.Alongside (R : α → β → Prop) (m : Session σ α) (n : Session σ β) : Prop :=
  ∀ p, (∃ f q, m.run.run p = (.error f, q) ∧ n.run.run p = (.error f, q)) ∨
    ∃ x y q, m.run.run p = (.ok x, q) ∧ n.run.run p = (.ok y, q) ∧ R x y

theorem Run.Alongside.pure {R : α → β → Prop} {x : α} {y : β} (h : R x y) :
    Alongside (σ := σ) R (Pure.pure x) (Pure.pure y) :=
  fun p => .inr ⟨x, y, p, rfl, rfl, h⟩

/-- Sessions that begin alike need only be compared in what comes behind. -/
theorem Run.Alongside.bind {R : α → β → Prop} (m : Session σ γ) {f : γ → Session σ α}
    {g : γ → Session σ β} (h : ∀ x, Alongside R (f x) (g x)) : Alongside R (m >>= f) (m >>= g) := by
  intro p
  obtain ⟨x, q, hm⟩ : ∃ x q, m.run.run p = (x, q) := ⟨_, _, rfl⟩
  cases x with
  | error e =>
      refine .inl ⟨e, q, ?_, ?_⟩
      · rw [ExceptT.run_bind, StateT.run_bind, hm]
        rfl
      · rw [ExceptT.run_bind, StateT.run_bind, hm]
        rfl
  | ok x =>
      rw [run_bind_of_ok hm, run_bind_of_ok hm]
      exact h x q

namespace Command

/-- The same assertion the other way round. -/
def opposite (c : Command) : Command := { c with isNegativeAssertion := !c.isNegativeAssertion }

/-- The commands name the same target. -/
structure SharesTarget (c d : Command) : Prop where
  object : d.object = c.object
  elementType : d.elementType = c.elementType
  specifier : d.specifier = c.specifier
  isSection : d.isSection = c.isSection

/-- The command asks whether its target exists. -/
structure AsksPresence (c : Command) : Prop where
  assertion : c.assertion.getD .exist = .exist
  isNegativeAssertion : c.isNegativeAssertion = false

theorem SharesTarget.plan {c d : Command} (h : c.SharesTarget d) (mode : SelectorMode) :
    Query.plan mode d = Query.plan mode c := by
  unfold Query.plan
  rw [h.object, h.elementType, h.specifier, h.isSection]

end Command

namespace Run

variable {b : Backend σ} {o : Options} {mode : SelectorMode} {vs : Variables} {c d : Command}

/-- What needs no page leaves it alone. -/
theorem run_ofExcept {x : Except Failure α} {y : Except Failure α} {p q : σ}
    (h : (ofExcept x : Session σ α).run.run p = (y, q)) : p = q := by
  cases x <;> exact congrArg Prod.snd h

theorem readAspect_of_sharesTarget (h : c.SharesTarget d) (target : Handle) (a : Aspect) :
    readAspect b d target a = readAspect b c target a := by
  cases a with
  | plain =>
      unfold readAspect plainText
      rw [h.elementType]
  | accessible => rfl
  | error =>
      unfold readAspect errorText
      rw [h.object]

/-! ## One look -/

theorem retries_zero (pollMs : Nat) : retries 0 pollMs = 0 := by
  unfold retries
  exact Nat.div_eq_of_lt (by omega)

/-- The regular expression that an assertion compares with, if it compares with one. -/
def patternFor? [Regex.Engine] (c : Command) (expected : Option Text) :
    Except Failure (Option Regex) :=
  match c.assertion.getD .exist, expected with
  | .fits, some source => (patternOf c source).map some
  | _, _ => .ok none

theorem ensure_of_timeoutMs [Regex.Engine] (h : o.timeoutMs = 0) : ensure b o mode vs c =
    ofExcept (expectedText vs c) >>= fun expected => ofExcept (patternFor? c expected) >>=
      fun pattern =>
        examine b (Query.plan mode c) c (c.assertion.getD .exist) expected pattern := by
  rw [ensure_eq]
  refine bind_congr fun expected => ?_
  unfold ensureText patternFor?
  rw [h, retries_zero]
  simp only [poll]
  cases c.assertion.getD .exist with
  | fits =>
      cases expected with
      | none => rfl
      | some source =>
          dsimp only
          cases patternOf c source <;> rfl
  | exact | contain | exist => rfl

/-- Commands with the same expected text and regular expression have verdicts that hang together as
their looks do. -/
theorem alongside_ensure [Regex.Engine] {R : Check → Check → Prop} (h : o.timeoutMs = 0)
    (hexpected : expectedText vs d = expectedText vs c)
    (hpattern : ∀ expected, patternFor? d expected = patternFor? c expected)
    (hlook : ∀ expected pattern, patternFor? c expected = .ok pattern → Alongside R
      (examine b (Query.plan mode c) c (c.assertion.getD .exist) expected pattern)
      (examine b (Query.plan mode d) d (d.assertion.getD .exist) expected pattern)) :
    Alongside R (ensure b o mode vs c) (ensure b o mode vs d) := by
  rw [ensure_of_timeoutMs h, ensure_of_timeoutMs h, hexpected]
  refine .bind _ fun expected => ?_
  rw [hpattern]
  cases hfor : patternFor? c expected with
  | error f => exact fun p => .inl ⟨f, p, rfl, rfl⟩
  | ok pattern => exact hlook expected pattern hfor

/-! ## The opposite -/

theorem sharesTarget_opposite (c : Command) : c.SharesTarget c.opposite := ⟨rfl, rfl, rfl, rfl⟩

theorem alongside_examine_opposite (q : Query) (a : Assertion) (expected : Option Text)
    (pattern : Option Regex) :
    Alongside (fun k k' => k'.passed = !k.passed ∧ k'.actual = k.actual)
      (examine b q c a expected pattern) (examine b q c.opposite a expected pattern) := by
  have hpassed (holds negative : Bool) : (holds != !negative) = !(holds != negative) := by
    cases holds <;> cases negative <;> rfl
  unfold examine
  by_cases ha : a = .exist
  · simp only [ha, if_true]
    exact .bind _ fun present => .pure ⟨hpassed present _, rfl⟩
  · simp only [ha, if_false]
    refine .bind _ fun target => ?_
    rw [readAspect_of_sharesTarget (sharesTarget_opposite c)]
    exact .bind _ fun actual => .pure ⟨hpassed _ _, rfl⟩

theorem alongside_ensure_opposite [Regex.Engine] (h : o.timeoutMs = 0) :
    Alongside (fun k k' => k'.passed = !k.passed ∧ k'.actual = k.actual)
      (ensure b o mode vs c) (ensure b o mode vs c.opposite) := by
  refine alongside_ensure h rfl (fun _ => rfl) fun expected pattern _ => ?_
  rw [(sharesTarget_opposite c).plan]
  exact alongside_examine_opposite _ _ expected pattern

/-! ## Exact texts -/

theorem compare_contain_of_exact {pattern : Option Regex} {expected actual : Text}
    (h : (compare .exact pattern expected actual).1) :
    (compare .contain pattern expected actual).1 := by
  have heq : collapse actual = collapse expected := beq_iff_eq.mp h
  refine Text.contains_iff_infix.mpr ?_
  rw [heq]

theorem alongside_examine_contain (q : Query) (hc : c.isNegativeAssertion = false)
    (expected : Option Text) :
    Alongside (fun k k' => k.passed → k'.passed) (examine b q c .exact expected none)
      (examine b q { c with assertion := some .contain } .contain expected none) := by
  unfold examine
  simp only [reduceCtorEq, if_false]
  refine .bind _ fun target => ?_
  refine .bind _ fun actual => .pure fun hpassed => ?_
  simp only [hc, Bool.bne_false] at hpassed ⊢
  exact compare_contain_of_exact hpassed

theorem alongside_ensure_contain [Regex.Engine] (h : o.timeoutMs = 0)
    (hexact : c.assertion = some .exact) (hpositive : c.isNegativeAssertion = false) :
    Alongside (fun k k' => k.passed → k'.passed) (ensure b o mode vs c)
      (ensure b o mode vs { c with assertion := some .contain }) := by
  have hpattern (expected : Option Text) : patternFor? c expected = .ok none := by
    unfold patternFor?
    rw [hexact]
    rfl
  refine alongside_ensure h rfl (fun expected => (hpattern expected).symm) ?_
  intro expected pattern hfor
  obtain rfl : none = pattern := Except.ok.inj ((hpattern expected).symm.trans hfor)
  rw [hexact]
  exact alongside_examine_contain _ hpositive expected

/-! ## Targets that exist -/

/-- An assertion of another kind has a verdict only behind the look for its target. -/
theorem exists_resolve [Regex.Engine] (h : o.timeoutMs = 0) (hc : c.assertion.getD .exist ≠ .exist)
    {p q : σ} {k : Check} (hk : (ensure b o mode vs c).run.run p = (.ok k, q)) :
    ∃ target q', ((Query.plan mode c).resolve b).run.run p = (.ok target, q') := by
  rw [ensure_of_timeoutMs h] at hk
  obtain ⟨f, -, hnone⟩ | ⟨expected, p', hexpected, hk⟩ := run_bind_cases hk
  · exact nomatch hnone
  obtain ⟨f, -, hnone⟩ | ⟨pattern, p'', hpattern, hk⟩ := run_bind_cases hk
  · exact nomatch hnone
  obtain rfl := run_ofExcept hexpected
  obtain rfl := run_ofExcept hpattern
  unfold examine at hk
  simp only [hc, if_false] at hk
  obtain ⟨f, -, hnone⟩ | ⟨target, q', htarget, -⟩ := run_bind_cases hk
  · exact nomatch hnone
  · exact ⟨target, q', htarget⟩

theorem ensure_of_resolve [Regex.Engine] (h : o.timeoutMs = 0) (hd : d.AsksPresence)
    {expected : Option Text} (hexpected : expectedText vs d = .ok expected) {p q : σ}
    {target : Handle} (htarget : ((Query.plan mode d).resolve b).run.run p = (.ok target, q)) :
    ∃ k, (ensure b o mode vs d).run.run p = (.ok k, q) ∧ k.passed := by
  have htext : (ofExcept (expectedText vs d) : Session σ _).run.run p = (.ok expected, p) := by
    rw [hexpected]
    rfl
  have hpattern : (ofExcept (patternFor? d expected) : Session σ _).run.run p = (.ok none, p) := by
    unfold patternFor?
    rw [hd.assertion]
    rfl
  have hpresent : (isPresent b (Query.plan mode d)).run.run p = (.ok true, q) := by
    unfold isPresent
    rw [run_bind_of_ok (run_observe htarget)]
    rfl
  rw [ensure_of_timeoutMs h, run_bind_of_ok htext, run_bind_of_ok hpattern, hd.assertion]
  unfold examine
  simp only [if_true]
  rw [run_bind_of_ok hpresent, hd.isNegativeAssertion]
  exact ⟨_, rfl, rfl⟩

/-! ## All three -/

/-- The result of an assertion that is looked at once, and what becomes of the page. -/
abbrev verdict [Regex.Engine] (b : Backend σ) (o : Options) (mode : SelectorMode) (vs : Variables)
    (p : σ) (c : Command) : Except Failure Check × σ :=
  (ensure b { o with timeoutMs := 0 } mode vs c).run.run p

/-- Whatever the backend and its page, of an assertion that is looked at once: it and its opposite
fail alike, or just one of them passes, with the same text read. If a text is exactly as expected,
then the target also contains it. And where an assertion of another kind has a verdict at all, its
target exists, to every command that asks so with an operand that has a value or with none. -/
theorem ensure_coherent [Regex.Engine] (b : Backend σ) (o : Options) (mode : SelectorMode)
    (vs : Variables) (p : σ) (c : Command) :
    ((∃ f q, verdict b o mode vs p c = (.error f, q) ∧
        verdict b o mode vs p c.opposite = (.error f, q)) ∨
      ∃ k k' q, verdict b o mode vs p c = (.ok k, q) ∧
        verdict b o mode vs p c.opposite = (.ok k', q) ∧
        k'.passed = !k.passed ∧ k'.actual = k.actual) ∧
    (c.assertion = some .exact → c.isNegativeAssertion = false → ∀ k q,
      verdict b o mode vs p c = (.ok k, q) → k.passed →
        ∃ k', verdict b o mode vs p { c with assertion := some .contain } = (.ok k', q) ∧
          k'.passed) ∧
    (c.assertion.getD .exist ≠ .exist → ∀ k q, verdict b o mode vs p c = (.ok k, q) →
      ∀ d, c.SharesTarget d → d.AsksPresence → (∃ expected, expectedText vs d = .ok expected) →
        ∃ k' q', verdict b o mode vs p d = (.ok k', q') ∧ k'.passed) := by
  have hzero : ({ o with timeoutMs := 0 } : Options).timeoutMs = 0 := rfl
  refine ⟨?_, fun hexact hpositive k q hk hpassed => ?_, fun hkind k q hk d hd hask hvalue => ?_⟩
  · exact alongside_ensure_opposite hzero p
  · have hcontain : Alongside (fun k k' => k.passed → k'.passed)
        (ensure b { o with timeoutMs := 0 } mode vs c)
        (ensure b { o with timeoutMs := 0 } mode vs { c with assertion := some .contain }) :=
      alongside_ensure_contain hzero hexact hpositive
    obtain ⟨f, q', hf, -⟩ | ⟨k₁, k', q', hk₁, hk', himp⟩ := hcontain p
    · exact nomatch congrArg Prod.fst (hk.symm.trans hf)
    · obtain ⟨hsame, rfl⟩ : .ok k = Except.ok k₁ ∧ q = q' := Prod.mk.inj (hk.symm.trans hk₁)
      exact ⟨k', hk', himp (Except.ok.inj hsame ▸ hpassed)⟩
  · obtain ⟨target, q', htarget⟩ := exists_resolve hzero hkind hk
    obtain ⟨expected, hexpected⟩ := hvalue
    rw [← hd.plan] at htarget
    obtain ⟨k', hk', hpassed⟩ := ensure_of_resolve hzero hask hexpected htarget
    exact ⟨k', q', hk', hpassed⟩

def greetingPage : Page :=
  { elements := [{ tag := "p", label := some "Greeting", text := "Hello  you" },
    { tag := "p", label := some "Greeting", visible := false }] }

def greetingCommand : Command :=
  { action := .ensure, object := "greeting", elementType := "generic", assertion := some .exact
    aspect := some .plain, value := some "Hello you" }

open Regex.Builtin

/-- Other white space makes no difference, and the second element is not looked at. -/
theorem ensure_coherent_greeting :
    let v := verdict Page.backend {} .label {} greetingPage
    ∃ k q, v greetingCommand = (.ok k, q) ∧ k.passed ∧
      (∃ k', v { greetingCommand with assertion := some .contain } = (.ok k', q) ∧ k'.passed) ∧
      ∃ k' q', v { greetingCommand with assertion := some .exist, value := none } = (.ok k', q') ∧
        k'.passed := by
  intro v
  let k : Check := ⟨true, "\"Hello you\"", "\"Hello  you\""⟩
  have hfst : (v greetingCommand).1 = .ok k := by decide +kernel
  have hk : v greetingCommand = (.ok k, (v greetingCommand).2) := Prod.ext hfst rfl
  obtain ⟨-, hcontain, hexist⟩ :=
    ensure_coherent Page.backend {} .label {} greetingPage greetingCommand
  exact ⟨k, _, hk, rfl, hcontain rfl rfl k _ hk rfl,
    hexist nofun k _ hk _ ⟨rfl, rfl, rfl, rfl⟩ ⟨rfl, rfl⟩ ⟨none, rfl⟩⟩

end Run

end PlainSteps
