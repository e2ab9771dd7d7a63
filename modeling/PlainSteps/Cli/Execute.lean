import PlainSteps.Cli.Arguments
import PlainSteps.Cli.Printer

/-!
# Commands of the program

What each command writes and how it ends. A run needs a browser, which is not part of this program:
it ends where the browser would be started.
-/

namespace PlainSteps.Cli

def programName : Text := "textwright"

def programVersion : Text := "0.4.0"

/-- What the program leaves when it ends. -/
structure Ending where
  code : Nat := 0
  out : Text := []
  err : Text := []
  deriving Repr, DecidableEq, Inhabited

namespace Ending

def success (out : Text) : Ending := { out }

/-- The end with an error. -/
def failure (out message : Text) : Ending :=
  { code := 1, out, err := "Error: " ++ message ++ "\n" }

end Ending

/-- Lines with their ends. -/
def unlines (lines : List Text) : Text := lines.flatMap (· ++ ['\n'])

/-- Colors are shown. Where nobody says so, they are not, for output that is no terminal. -/
def Color.isOn : Color → Bool
  | .always => true
  | _ => false

/-- Events are shown while they happen. -/
def echoes (v : Verbosity) (f : Format) : Bool := f == .text && v.isVerbose

/-! ## Settings of a run -/

/-- How the browser is started. -/
structure Browser where
  headless : Bool := true
  sandbox : Bool := true
  width : Nat := 1280
  height : Nat := 800
  path : Option Text := none
  deriving Repr, DecidableEq, Inhabited

namespace RunArguments

def browser (a : RunArguments) : Browser where
  headless := !a.headed
  sandbox := !a.noSandbox

/-- The options of a run: the settings of the project, and over them those of the arguments. -/
def options (a : RunArguments) (s : Settings) : Run.Options :=
  let o := s.apply {}
  { o with failFast := o.failFast || a.failFast, timeoutMs := a.timeoutMs.getD o.timeoutMs }

end RunArguments

section

variable {m : Type → Type} [Monad m] [Regex.Engine]

/-- The settings file that the arguments name, else the one that is found. -/
def RunArguments.loadSettings (d : Disk m) (a : RunArguments) : m (Except Failure Settings) :=
  match a.settings with
  | some path => Cli.loadSettings d path
  | none => settingsFor d a.file

/-! ## Commands -/

def parse (sentence : Text) : Ending :=
  match Sentence.parse sentence with
  | .ok commands => .success ((Json.list (commands.map Command.toJson)).pretty ++ "\n")
  | .error f => .failure [] f.message

/-- What a review of a test file writes. -/
def reviewOutput (p : Printer) (file : Text) (f : Format) (r : Suite.Review) : Text :=
  match f with
  | .json => r.toJson.pretty ++ "\n"
  | .text =>
    let total := file ++ ": " ++ Text.ofNat r.cases.length ++ " cases, " ++
      Text.ofNat r.stepCount ++ " steps, " ++ Text.ofNat r.commandCount ++ " commands"
    unlines (p.review r ++ if r.passed then p.success total else [])

def check (d : Disk m) (p : Printer) (file : Text) (f : Format) : m Ending := do
  match ← loadSuite d file with
  | .error f => return .failure [] f.message
  | .ok s =>
    let r := s.review
    let out := reviewOutput p file f r
    let refusal := "Check failed: " ++ Text.ofNat r.issues.length ++ " step(s) did not parse"
    return if r.passed then .success out else .failure out refusal

/-- Reads all that a run needs, up to the start of the browser. -/
def run (d : Disk m) (a : RunArguments) : m Ending := do
  match ← loadSuite d a.file with
  | .error f => return .failure [] f.message
  | .ok _ =>
    match ← a.loadSettings d with
    | .error f => return .failure [] f.message
    | .ok _ => return .failure [] (Failure.backend "there is no browser to run in").message

def execute (d : Disk m) (i : Invocation) : m Ending :=
  match i.request with
  | .parse sentence => return parse sentence
  | .check file f =>
    check d { color := i.color.isOn, quiet := i.verbosity.isQuiet } file f
  | .run a => run d a

/-- How the program is called. -/
def usageText : Text :=
  "Usage: " ++ programName ++ " [-v|-q] [--color auto|always|never] run|check|parse ...\n"

/-- The end without a request. -/
def Stop.ending : Stop → Ending
  | .help => .success usageText
  | .version command =>
    .success (programName ++ command.elim [] ('-' :: ·) ++ " " ++ programVersion ++ "\n")
  | .usage => { code := 2, err := usageText }

/-- The whole program, from its arguments. -/
def program (d : Disk m) (words : List Text) : m Ending :=
  match Invocation.ofWords words with
  | .ok i => execute d i
  | .error stop => return stop.ending

end

end PlainSteps.Cli
