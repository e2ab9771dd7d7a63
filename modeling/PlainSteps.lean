import PlainSteps.Backend.Scripted
import PlainSteps.Command.Codec
import PlainSteps.Main
import PlainSteps.Page
import PlainSteps.Run
import PlainSteps.Settings
import PlainSteps.Suite.Codec
import PlainSteps.Suite.Review
import PlainSteps.Proofs.RoundTrip
import PlainSteps.Proofs.Literal
import PlainSteps.Proofs.Tokens
import PlainSteps.Proofs.Parity
import PlainSteps.Proofs.Seams
import PlainSteps.Proofs.Spans
import PlainSteps.Proofs.Silence
import PlainSteps.Proofs.NormalForm
import PlainSteps.Proofs.Regexes
import PlainSteps.Proofs.Globs
import PlainSteps.Proofs.Flags
import PlainSteps.Proofs.ScopePhrases
import PlainSteps.Proofs.Resolution
import PlainSteps.Proofs.Convergence
import PlainSteps.Proofs.Dragging
import PlainSteps.Proofs.Agreement
import PlainSteps.Proofs.Accounts
import PlainSteps.Proofs.Cancellation
import PlainSteps.Proofs.Truncation
import PlainSteps.Proofs.Overflows
import PlainSteps.Proofs.Reloading
import PlainSteps.Proofs.Isolation
import PlainSteps.Proofs.Moments
import PlainSteps.Proofs.History
import PlainSteps.Proofs.Reviews
import PlainSteps.Proofs.Conjunctions
import PlainSteps.Proofs.Portions
import PlainSteps.Proofs.Rejoining
import PlainSteps.Proofs.Spelling
import PlainSteps.Proofs.Verdicts
import PlainSteps.Proofs.Interpolation
import PlainSteps.Proofs.Readings
import PlainSteps.Proofs.Backslashes
import PlainSteps.Proofs.Walks
import PlainSteps.Proofs.Shapes
import PlainSteps.Proofs.Stability
