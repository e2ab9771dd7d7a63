import PlainSteps.Suite

/-!
# Options of a run

Times are in milliseconds. A wait looks again after every interval until its time is up, so it
looks once and then `retries` more times at most.
-/

namespace PlainSteps.Run

structure Options where
  /-- Stop at the first step that does not pass. -/
  failFast : Bool := false
  /-- How long a target or an assertion is waited for. -/
  timeoutMs : Nat := 5000
  /-- The interval between two looks. -/
  pollMs : Nat := 50
  /-- How long an address is waited for. -/
  navigationTimeoutMs : Nat := 30000
  /-- How often a slider is corrected. -/
  maxIterations : Nat := 2000
  deriving Repr, DecidableEq, Inhabited

/-- The number of intervals that a time takes, begun ones included. -/
def retries (timeoutMs pollMs : Nat) : Nat :=
  let interval := max 1 pollMs
  (timeoutMs + interval - 1) / interval

end PlainSteps.Run
