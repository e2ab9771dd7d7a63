import PlainSteps.Backend
import PlainSteps.Pattern
import PlainSteps.Run.Options

/-!
# Waiting

`poll` looks at a page until what it sees is settled or no look is left. Waits for an address or a
title look until it matches a pattern. A title that never matches is an answer and no failure.
-/

namespace PlainSteps.Run

variable {σ α : Type}

/-- Turns a failure into an answer. -/
def observe (m : Session σ α) : Session σ (Except Failure α) :=
  ExceptT.mk do return .ok (← m.run)

/-- Looks until the result is settled, and `n` times more than once at most. -/
def poll (settled : Except Failure α → Bool) (look : Session σ α) : (n : Nat) → Session σ α
  | 0 => look
  | n + 1 => do
    let result ← observe look
    if settled result then ofExcept result else poll settled look n

/-- Nothing is gained by another look: there is an answer that will do, or a failure that waiting
does not mend. -/
def settledBy (enough : α → Bool) : Except Failure α → Bool
  | .ok x => enough x
  | .error f => !f.isRetryable

/-- A page that cannot be asked is not asked again, nor is one whose answer matches. -/
def settledByMatch (p : Pattern) : Except Failure Text → Bool
  | .ok t => p.isMatch t
  | .error _ => true

/-- Waits until the address of the page matches. -/
def awaitUrl (b : Backend σ) (p : Pattern) (timeoutMs pollMs : Nat) : Session σ Text := do
  let url ← poll (settledByMatch p) b.currentUrl (retries timeoutMs pollMs)
  if p.isMatch url then return url
  else throw (.timeout ("URL matching " ++ p.render ++ " (last " ++ url ++ ")") timeoutMs)

/-- Waits until the title of the page matches; the second component says whether it does. -/
def awaitTitle (b : Backend σ) (p : Pattern) (timeoutMs pollMs : Nat) :
    Session σ (Text × Bool) := do
  let title ← poll (settledByMatch p) b.title (retries timeoutMs pollMs)
  return (title, p.isMatch title)

end PlainSteps.Run
