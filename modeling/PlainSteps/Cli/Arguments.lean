import PlainSteps.Cli.Disk

/-!
# Arguments

The arguments of the command line: a command with options, and options for all commands, which may
stand in front of the command or behind it. Arguments are taken from left to right, and the first
that asks for help or for the version, or that is wrong, settles the matter.
-/

namespace PlainSteps.Cli

inductive Format where
  | text
  | json
  deriving Repr, DecidableEq, Inhabited

inductive Color where
  | auto
  | always
  | never
  deriving Repr, DecidableEq, Inhabited

/-- How much is said of a run. -/
inductive Verbosity where
  | quiet
  | normal
  | verbose
  | debug
  | trace
  deriving Repr, DecidableEq, Inhabited

namespace Verbosity

def ofFlags (quiet : Bool) (verbose : Nat) : Verbosity :=
  if quiet then .quiet
  else match verbose with
    | 0 => .normal
    | 1 => .verbose
    | 2 => .debug
    | _ => .trace

def name : Verbosity → Text
  | quiet => "Quiet"
  | normal => "Normal"
  | verbose => "Verbose"
  | debug => "Debug"
  | trace => "Trace"

def isQuiet (v : Verbosity) : Bool := v == .quiet

def isVerbose (v : Verbosity) : Bool := v == .verbose || v == .debug || v == .trace

/-- The least level of the messages that are logged. -/
def logLevel : Verbosity → Text
  | quiet => "error"
  | normal => "warn"
  | verbose => "info"
  | debug => "debug"
  | trace => "trace"

end Verbosity

structure RunArguments where
  file : Text
  /-- The page to open before the first case. -/
  url : Text
  settings : Option Text := none
  failFast : Bool := false
  timeoutMs : Option Nat := none
  headed : Bool := false
  noSandbox : Bool := false
  format : Format := .text
  deriving Repr, DecidableEq, Inhabited

inductive Request where
  | run (arguments : RunArguments)
  | check (file : Text) (format : Format)
  | parse (sentence : Text)
  deriving Repr, DecidableEq, Inhabited

/-- A request with the options for all commands. -/
structure Invocation where
  verbosity : Verbosity := .normal
  color : Color := .auto
  request : Request
  deriving Repr, DecidableEq, Inhabited

/-- Why there is nothing to carry out. -/
inductive Stop where
  | help
  /-- The version is asked for, of the program or of one of its commands. -/
  | version (command : Option Text)
  /-- The arguments are wrong. -/
  | usage
  deriving Repr, DecidableEq, Inhabited

/-! ## Options -/

inductive Opt where
  | help
  | version
  | verbose
  | quiet
  | color
  | format
  | url
  | settings
  | failFast
  | timeout
  | headed
  | noSandbox
  deriving Repr, DecidableEq, Inhabited

namespace Opt

def long : Opt → Text
  | help => "help"
  | version => "version"
  | verbose => "verbose"
  | quiet => "quiet"
  | color => "color"
  | format => "format"
  | url => "url"
  | settings => "config"
  | failFast => "fail-fast"
  | timeout => "timeout"
  | headed => "headed"
  | noSandbox => "no-sandbox"

def short? : Opt → Option Char
  | help => some 'h'
  | version => some 'V'
  | verbose => some 'v'
  | quiet => some 'q'
  | _ => none

def takesValue : Opt → Bool
  | color | format | url | settings | timeout => true
  | _ => false

/-- The value is one that the option allows. -/
def allows (value : Text) : Opt → Bool
  | color => [("auto" : Text), "always", "never"].contains value
  | format => [("text" : Text), "json"].contains value
  | settings => !value.isEmpty
  | timeout => (Numeral.readNat? value).any (· < Numeral.nat64Bound)
  | _ => true

end Opt

/-- What a command takes. -/
structure Grammar where
  /-- The name of the command, unless it is the program itself. -/
  command : Option Text := none
  options : List Opt
  /-- The number of arguments that are no options. -/
  arity : Nat
  /-- Those arguments are paths, which are never empty. -/
  isPath : Bool := true
  deriving Repr, DecidableEq, Inhabited

/-- What has been taken so far. -/
structure Given where
  options : List (Opt × Text) := []
  others : List Text := []
  deriving Repr, DecidableEq, Inhabited

namespace Given

def value? (g : Given) (o : Opt) : Option Text := (g.options.find? (·.1 == o)).map (·.2)

def has (g : Given) (o : Opt) : Bool := (g.value? o).isSome

/-- Takes an option with its value. -/
def addOption (gr : Grammar) (g : Given) (o : Opt) (value : Text) : Except Stop Given :=
  if o = .help then .error .help
  else if o = .version then .error (.version gr.command)
  else if o != .verbose && g.has o || !o.allows value then .error .usage
  else .ok { g with options := (o, value) :: g.options }

/-- Takes an argument that is no option. -/
def addOther (gr : Grammar) (g : Given) (value : Text) : Except Stop Given :=
  if gr.arity ≤ g.others.length || gr.isPath && value.isEmpty then .error .usage
  else .ok { g with others := g.others ++ [value] }

/-- Takes options that are written as letters behind one dash. -/
def addLetters (gr : Grammar) : Given → Text → Except Stop Given
  | g, [] => .ok g
  | g, c :: r =>
    match gr.options.find? (·.short? == some c) with
    | some o => (g.addOption gr o []).bind fun g => addLetters gr g r
    | none => .error .usage

/-- The argument is written as an option. -/
def isDashed (word : Text) : Bool := word.head? == some '-' && 1 < word.length

/-- Takes all arguments of a command. -/
def addAll (gr : Grammar) : Given → List Text → Except Stop Given
  | g, [] => .ok g
  | g, word :: rest =>
    if word = "--" then rest.foldlM (addOther gr) g
    else match Text.dropHead? "--" word with
      | some body =>
        let name := body.takeWhile (· != '=')
        match gr.options.find? (·.long == name), body.dropWhile (· != '=') with
        | none, _ => .error .usage
        | some o, _ :: value =>
          if o.takesValue then (g.addOption gr o value).bind fun g => addAll gr g rest
          else .error .usage
        | some o, [] =>
          if !o.takesValue then (g.addOption gr o []).bind fun g => addAll gr g rest
          else match rest with
            | value :: rest =>
              if isDashed value then .error .usage
              else (g.addOption gr o value).bind fun g => addAll gr g rest
            | [] => .error .usage
      | none =>
        if isDashed word then (g.addLetters gr word.tail).bind fun g => addAll gr g rest
        else (g.addOther gr word).bind fun g => addAll gr g rest

end Given

/-! ## Requests -/

def commonOptions : List Opt := [.help, .version, .verbose, .quiet, .color]

def runOptions : List Opt :=
  [.url, .settings, .failFast, .timeout, .headed, .noSandbox, .format]

def formatOf (g : Given) : Format := if g.value? .format = some "json" then .json else .text

def runArguments (g : Given) : Except Stop RunArguments :=
  match g.others, g.value? .url with
  | [file], some url =>
    .ok { file, url, settings := g.value? .settings, failFast := g.has .failFast
          timeoutMs := (g.value? .timeout).bind Numeral.readNat?, headed := g.has .headed
          noSandbox := g.has .noSandbox, format := formatOf g }
  | _, _ => .error .usage

/-- The arguments of a run alone, without the options for all commands. -/
def RunArguments.ofWords (words : List Text) : Except Stop RunArguments :=
  (Given.addAll { options := .help :: runOptions, arity := 1 } {} words).bind runArguments

/-- The command with a name, its grammar, and how its arguments make a request. -/
def command? (name : Text) : Option (Grammar × (Given → Except Stop Request)) :=
  if name = "run" then
    some ({ command := some name, options := commonOptions ++ runOptions, arity := 1 },
      fun g => (runArguments g).map .run)
  else if name = "check" then
    some ({ command := some name, options := commonOptions ++ [.format], arity := 1 }, fun g =>
      match g.others with
      | [file] => .ok (.check file (formatOf g))
      | _ => .error .usage)
  else if name = "parse" then
    some ({ command := some name, options := commonOptions, arity := 1, isPath := false }, fun g =>
      match g.others with
      | [sentence] => .ok (.parse sentence)
      | _ => .error .usage)
  else none

/-- The options for all commands; of those given on both sides of the command the later count. -/
def invocation (before behind : Given) (request : Request) : Invocation :=
  let side (o : Opt) : Given := if behind.has o then behind else before
  let count := ((side .verbose).options.filter (·.1 == .verbose)).length
  let color := match (side .color).value? .color with
    | some v => if v = "always" then .always else if v = "never" then .never else .auto
    | none => .auto
  { verbosity := .ofFlags ((side .quiet).has .quiet) count, color, request }

/-- What is asked for behind the word `help`. -/
def helpFor (words : List Text) : Stop :=
  match words with
  | [] => .help
  | [name] => if (command? name).isSome || name = "help" then .help else .usage
  | _ => .usage

/-- The options in front of the command, the command, and what stands behind it. -/
def splitCommand : (front words : List Text) → List Text × Option (Text × List Text)
  | front, [] => (front, none)
  | front, word :: rest =>
    if word = "--color" then
      match rest with
      | value :: rest => splitCommand (front ++ [word, value]) rest
      | [] => (front ++ [word], none)
    else if Given.isDashed word then splitCommand (front ++ [word]) rest
    else (front, some (word, rest))

def Invocation.ofWords (words : List Text) : Except Stop Invocation := do
  let (front, command) := splitCommand [] words
  let before ← Given.addAll { options := commonOptions, arity := 0 } {} front
  match command with
  | none => throw .usage
  | some (name, rest) =>
    if front.contains "--" then throw .usage
    else if name = "help" then throw (helpFor rest)
    else match command? name with
      | none => throw .usage
      | some (gr, request) =>
        let behind ← Given.addAll gr {} rest
        return invocation before behind (← request behind)

end PlainSteps.Cli
