import PlainSteps.Run.Wait
import PlainSteps.Variables

/-!
# Assertions

An assertion reads one aspect of its target and compares it with what it expects. Whether a target
exists is an outcome of an assertion that asks for it, and a failure of every other.
-/

namespace PlainSteps.Run

variable {σ : Type} [Regex.Engine]

/-- What one comparison has shown. -/
structure Check where
  passed : Bool
  expected : Text
  actual : Text
  deriving Repr, DecidableEq, Inhabited

/-- The form value of a target of an input role, else its text. -/
def plainText (b : Backend σ) (c : Command) (target : Handle) : Session σ Text :=
  if valueRoles.contains c.elementType then b.value target else b.text target

/-- The texts of the elements with some ids. -/
def describedTexts (b : Backend σ) : (ids : List Text) → Session σ (List Text)
  | [] => return []
  | id :: r => do
    match ← b.resolveByAttribute "id" id with
    | some h => return (← b.text h) :: (← describedTexts b r)
    | none => describedTexts b r

/-- The texts that `aria-describedby` names, else `aria-description`, else the title. -/
def description (b : Backend σ) (target : Handle) : Session σ Text := do
  match ← b.readAttribute target "aria-describedby" with
  | some ids => return Text.unwords (← describedTexts b (Text.words ids))
  | none =>
    match ← b.readAttribute target "aria-description" with
    | some t => return t
    | none => return (← b.readAttribute target "title").getD []

/-- The text of the element that `aria-errormessage` names. -/
def errorText (b : Backend σ) (c : Command) (target : Handle) : Session σ Text := do
  let missing := Failure.missingAttribute c.object "aria-errormessage"
  let some id ← b.readAttribute target "aria-errormessage" | throw missing
  let some h ← b.resolveByAttribute "id" id | throw missing
  b.text h

def readAspect (b : Backend σ) (c : Command) (target : Handle) : Aspect → Session σ Text
  | .plain => plainText b c target
  | .accessible => description b target
  | .error => errorText b c target

/-- Runs of white space count as one space, and none at the ends. -/
def collapse (t : Text) : Text := Text.unwords (Text.words t)

/-- What a command compares with: the value of its variable, or its own value. -/
def expectedText (vs : Variables) (c : Command) : Except Failure (Option Text) :=
  match c.variableName, c.value with
  | some name, _ => (vs.lookup name).map some
  | none, some value => (vs.substitute value).map some
  | none, none => .ok none

/-- The regular expression of an assertion; the value of a variable means itself. -/
def patternOf (c : Command) (source : Text) : Except Failure Regex :=
  let source := if c.variableName.isSome then Regex.escape source else source
  match Regex.compile source with
  | .ok r => .ok r
  | .error message => .error (.invalidPattern source message)

/-- The comparison of an assertion that reads a text: whether it holds, and how it is shown. -/
def compare (a : Assertion) (pattern : Option Regex) (expected actual : Text) : Bool × Text :=
  match a with
  | .exact => (collapse actual == collapse expected, '"' :: expected ++ ['"'])
  | .contain =>
    (Text.contains (collapse actual) (collapse expected), "containing \"" ++ expected ++ "\"")
  | .fits => (pattern.any (·.isMatch actual), "matching /" ++ expected ++ "/")
  | .exist => (true, [])

/-- Looks for a target, which may be absent. -/
def isPresent (b : Backend σ) (q : Query) : Session σ Bool := do
  match ← observe (q.resolve b) with
  | .ok _ => return true
  | .error (.targetNotFound ..) => return false
  | .error f => throw f

/-- One look at the page. -/
def examine (b : Backend σ) (q : Query) (c : Command) (a : Assertion) (expected : Option Text)
    (pattern : Option Regex) : Session σ Check := do
  let shown (t : Text) : Text := if c.isNegativeAssertion then "not " ++ t else t
  if a = .exist then
    let present ← isPresent b q
    return ⟨present != c.isNegativeAssertion, shown "visible",
      if present then "visible" else "not visible"⟩
  else
    let target ← q.resolve b
    let actual ← readAspect b c target (c.aspect.getD .plain)
    let (holds, wanted) := compare a pattern (expected.getD []) actual
    return ⟨holds != c.isNegativeAssertion, shown wanted, '"' :: actual ++ ['"']⟩

/-- Looks until the assertion holds or its time is up. -/
def ensure (b : Backend σ) (o : Options) (mode : SelectorMode) (vs : Variables) (c : Command) :
    Session σ Check := do
  let a := c.assertion.getD .exist
  let expected ← ofExcept (expectedText vs c)
  let pattern ← match a, expected with
    | .fits, some source => (ofExcept (patternOf c source) : Session σ Regex).map some
    | _, _ => pure none
  poll (settledBy Check.passed) (examine b (Query.plan mode c) c a expected pattern)
    (retries o.timeoutMs o.pollMs)

end PlainSteps.Run
