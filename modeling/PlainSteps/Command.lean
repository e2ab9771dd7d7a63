import PlainSteps.Text

/-!
# Commands

A command is one instruction: an action on a named target of some role, perhaps inside a scope,
with the operand that its action takes. `Command.render` writes the canonical sentence of a
command.
-/

namespace PlainSteps

inductive Action where
  | click
  | hover
  | fill
  | ensure
  | store
  | slide
  deriving Repr, DecidableEq, Inhabited

namespace Action

def all : List Action := [click, hover, fill, ensure, store, slide]

def word : Action → Text
  | click => "click"
  | hover => "hover"
  | fill => "fill"
  | ensure => "ensure"
  | store => "store"
  | slide => "slide"

/-- The word at the head of a sentence. -/
def headword : Action → Text
  | click => "Click"
  | hover => "Hover"
  | fill => "Fill"
  | ensure => "Ensure"
  | store => "Store"
  | slide => "Slide"

/-- Reads a lower-cased action word. -/
def ofWord? (w : Text) : Option Action := all.find? (·.word == w)

/-- Actions that carry a value or a variable name. -/
def needsOperand : Action → Bool
  | fill | store | slide => true
  | click | hover | ensure => false

end Action

/-- How an assertion compares what it reads with what it expects. -/
inductive Assertion where
  | exact
  | contain
  | fits
  | exist
  deriving Repr, DecidableEq, Inhabited

namespace Assertion

def all : List Assertion := [exact, contain, fits, exist]

def name : Assertion → Text
  | exact => "exact"
  | contain => "contain"
  | fits => "match"
  | exist => "exist"

/-- The verb of the canonical sentence. -/
def verb : Assertion → Text
  | exact => "have"
  | contain => "contain"
  | fits => "match"
  | exist => "exist"

end Assertion

/-- Which property of the target an assertion reads. -/
inductive Aspect where
  | plain
  | accessible
  | error
  deriving Repr, DecidableEq, Inhabited

namespace Aspect

def all : List Aspect := [plain, accessible, error]

def name : Aspect → Text
  | plain => "plain"
  | accessible => "accessible"
  | error => "error"

end Aspect

structure Command where
  action : Action
  /-- The name of the target. -/
  object : Text
  /-- The role of the target. -/
  elementType : Text
  /-- The scope in which the target is looked for. -/
  specifier : Option Text := none
  /-- The scope is the title of a section. -/
  isSection : Bool := false
  isNegativeAssertion : Bool := false
  assertion : Option Assertion := none
  aspect : Option Aspect := none
  /-- The variable that a store writes or an assertion reads. -/
  variableName : Option Text := none
  value : Option Text := none
  deriving Repr, DecidableEq, Inhabited

namespace Command

/-- Scopes the command to a container. -/
def withSpecifier (c : Command) (s : Text) : Command := { c with specifier := some s }

/-- Scopes the command to a titled section. -/
def withSection (c : Command) (title : Text) : Command :=
  { c with specifier := some title, isSection := true }

def withValue (c : Command) (v : Text) : Command := { c with value := some v }

def withVariable (c : Command) (name : Text) : Command := { c with variableName := some name }

/-- Sets the assertion; the aspect becomes plain unless one is set. -/
def withAssertion (c : Command) (a : Assertion) : Command :=
  { c with assertion := some a, aspect := some (c.aspect.getD .plain) }

def withAspect (c : Command) (a : Aspect) : Command := { c with aspect := some a }

def negated (c : Command) : Command := { c with isNegativeAssertion := true }

end Command

/-- Puts a backslash before every double quote. -/
def escapeQuotes : Text → Text
  | [] => []
  | c :: r => if c = '"' then '\\' :: '"' :: escapeQuotes r else c :: escapeQuotes r

/-- A text between double quotes. -/
def quoted (t : Text) : Text := '"' :: escapeQuotes t ++ ['"']

namespace Command

/-- The scope phrase, with a space in front. -/
def renderScope (c : Command) : Text :=
  match c.specifier with
  | none => []
  | some s => if c.isSection then " on the " ++ quoted s ++ " section" else " on the " ++ s

/-- The words that name what an assertion reads. -/
def descriptor : Aspect → Assertion → Text
  | .accessible, _ => "accessible description"
  | .error, _ => "error message"
  | .plain, .fits => "pattern"
  | .plain, .contain => "text"
  | .plain, _ => "value"

/-- What an assertion expects, with a space in front. -/
def renderExpected (c : Command) (a : Assertion) : Text :=
  match c.variableName, c.value with
  | some name, _ => " \x7b".toList ++ name ++ ['\x7d']
  | none, some v => if a = .fits then " \"/" ++ escapeQuotes v ++ "/\"" else ' ' :: quoted v
  | none, none => []

/-- The assertion phrase, with a space in front. -/
def renderAssertion (c : Command) : Text :=
  let a := c.assertion.getD .exist
  let verb := (if c.isNegativeAssertion then " to not " else " to ") ++ a.verb
  if a = .exist then verb
  else verb ++ " " ++ descriptor (c.aspect.getD .plain) a ++ c.renderExpected a

/-- What the action needs, with a space in front. -/
def renderOperand (c : Command) : Text :=
  match c.action with
  | .click | .hover => []
  | .fill => c.value.elim [] fun v => " with value " ++ quoted v
  | .slide => c.value.elim [] fun v => " to value " ++ quoted v
  | .store => c.variableName.elim [] fun name => " into variable \x7b".toList ++ name ++ ['\x7d']
  | .ensure => c.renderAssertion

/-- The canonical sentence. -/
def render (c : Command) : Text :=
  c.action.headword ++ " " ++ quoted c.object ++ " " ++ c.elementType ++ c.renderScope ++
    c.renderOperand ++ "."

end Command

end PlainSteps
