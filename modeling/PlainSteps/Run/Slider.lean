import PlainSteps.Locator
import PlainSteps.Numeral.Decimal
import PlainSteps.Run.Wait

/-!
# Driving sliders

A drag to the place that belongs to a value seldom lands on it, for thumbs have a width and values
are rounded. `correct` moves the pointer on by one pixel at a time toward the value, and by half as
much whenever the value has been passed over, until the control reports it. It is written for any
kind of positions, so that its convergence can be shown for exact ones.
-/

namespace PlainSteps.Run

variable {σ : Type}

/-- A slider on a page: the track that the pointer drags over, and the element that reports. -/
structure Control where
  name : Text
  track : Handle
  readout : Handle
  kind : SliderKind
  deriving Repr, DecidableEq, Inhabited

/-- The nearest whole number to a reported one. -/
def wholeReading (raw name : Text) : Except Failure Int :=
  match Numeral.Double.read? (Text.trim raw) with
  | some x => .ok x.round
  | none => .error (.coercion raw ("a number for " ++ name))

/-- The whole number that a slider is to be set to; a fraction is cut off. -/
def sliderTarget (raw : Text) : Except Failure Int :=
  let t := Text.trim raw
  match Numeral.readInt64? t with
  | some n => .ok n
  | none =>
    match (Numeral.Double.read? t).filter (·.isFinite) with
    | some x => .ok x.truncate
    | none => .error (.coercion raw "an integer slider value")

namespace Control

/-- Finds the element that reports; without a thumb the slider itself does. -/
def locate (b : Backend σ) (name : Text) (track : Handle) (kind : SliderKind) :
    Session σ Control := do
  let thumb ← match kind.thumbCss? with
    | some css => b.resolveByCss css (some track)
    | none => pure none
  return ⟨name, track, thumb.getD track, kind⟩

/-- Reads an attribute as a whole number. -/
def read (b : Backend σ) (c : Control) (name : Text) : Session σ Int := do
  match ← b.readAttribute c.readout name with
  | some raw => ofExcept (wholeReading raw name)
  | none => throw (.missingAttribute c.name name)

/-- The present value. A native slider keeps its first value as attribute, so its form value is
read. -/
def value (b : Backend σ) (c : Control) : Session σ Int := do
  match c.kind with
  | .native => ofExcept (wholeReading (← b.value c.readout) "value")
  | .shadcn => c.read b c.kind.valueAttribute

end Control

/-! ## Corrections -/

inductive Heading where
  | up
  | down
  deriving Repr, DecidableEq, Inhabited

section Correction

variable {α : Type} [Add α] [Sub α] [Div α] [OfNat α 1] [OfNat α 2]

/-- Where a correction stands: the pointer, the length of a move, and the heading of the last. -/
structure Pursuit (α : Type) where
  position : α
  increment : α
  heading : Option Heading := none
  deriving Repr, Inhabited

/-- The next move toward the target from a value. -/
def Pursuit.next (p : Pursuit α) (value target : Int) : Pursuit α :=
  let heading := if target < value then .down else .up
  let increment := if p.heading.any (· != heading) then p.increment / 2 else p.increment
  let position := match heading with
    | .up => p.position + increment
    | .down => p.position - increment
  { position, increment, heading := some heading }

/-- A slider that has reached its target. -/
structure Convergence (α : Type) where
  value : Int
  /-- The number of moves behind the drag. -/
  iterations : Nat
  /-- How far the last position lies before the first. -/
  correction : α
  deriving Repr, Inhabited

/-- Moves on until the control reports the target; `left` moves may follow the `made` ones. -/
def pursue (name : Text) (moveTo : α → Session σ Unit) (value : Session σ Int) (target : Int) :
    (left made : Nat) → Pursuit α → (last : Int) → Session σ (Pursuit α × Nat)
  | left, made, p, last =>
    if last = target then return (p, made)
    else match left with
      | 0 => throw (.sliderDidNotConverge name target last made)
      | left + 1 => do
        let p := p.next last target
        moveTo p.position
        pursue name moveTo value target left (made + 1) p (← value)

/-- Drags to a position and corrects from there. -/
def correct (name : Text) (moveTo : α → Session σ Unit) (value : Session σ Int) (target : Int)
    (start : α) (maxIterations : Nat) : Session σ (Convergence α) := do
  moveTo start
  let (p, iterations) ←
    pursue name moveTo value target maxIterations 0 ⟨start, 1, none⟩ (← value)
  return ⟨target, iterations, start - p.position⟩

end Correction

/-! ## The whole drag -/

/-- The difference of two 64-bit numbers, which has to be one itself. -/
def difference (m n : Int) : Except Failure Int :=
  if Numeral.IsInt64 (m - n) then .ok (m - n) else .error .overflow

def floatOfInt (n : Int) : Float := (Numeral.Double.ofInt n).toFloat

/-- The place on the track that belongs to a value. -/
def interpolate (b : Box) (min max value : Int) : Except Failure Float := do
  let part ← difference value min
  let length ← difference max min
  return b.x + floatOfInt part / floatOfInt length * b.width

/-- Drives a slider to a value. The pointer is released whether it gets there or not. -/
def converge (b : Backend σ) (c : Control) (target : Int) (maxIterations : Nat) :
    Session σ (Convergence Float) := do
  let min ← c.read b c.kind.minAttribute
  let max ← c.read b c.kind.maxAttribute
  if max ≤ min then
    throw (.coercion (Text.ofInt min ++ ".." ++ Text.ofInt max)
      "a slider range with max above min")
  let some box ← b.boundingBox c.track | throw (.missingAttribute c.name "bounding box")
  let current ← c.value b
  let thumb ← ofExcept (interpolate box min max current)
  let start ← ofExcept (interpolate box min max target)
  let moveTo (x : Float) : Session σ Unit := b.pointerMove ⟨x, box.y + box.height / 2⟩
  moveTo thumb
  b.pointerDown
  let result ← observe (correct c.name moveTo (c.value b) target start maxIterations)
  let released ← observe b.pointerUp
  let outcome ← ofExcept result
  ofExcept released
  return outcome

end PlainSteps.Run
