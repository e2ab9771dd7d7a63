import PlainSteps.Regex
import PlainSteps.Sentence.Segment
import PlainSteps.Sentence.Validity

/-!
# The command of an instruction

`readInstruction` reads the command that the terms of one instruction stand for. The first three
positional segments are the action, the target's name and its element type; the segments behind
connectors give the scope and the operand. The result is a valid command.
-/

namespace PlainSteps.Sentence

/-! ## Words -/

/-- Trims a text and takes full stops, commas and double quotes off its ends. -/
def stripPunctuation (t : Text) : Text :=
  Text.trim (Text.trimMatches (['.', ',', '"'].contains ·) (Text.trim t))

/-- Takes one full stop off the end and trims. -/
def stripFullStop (t : Text) : Text := Text.trim ((Text.dropTail? ['.'] t).getD t)

def articles : List Text := ["the", "a", "an"]

def descriptors : List Text := ["value", "text", "number", "content", "variable"]

def skipArticles (words : List Text) : List Text :=
  words.dropWhile fun w => articles.contains (Text.toLower w)

/-- A word that begins an operand: a quote, a brace or a slash. -/
def beginsOperand (word : Text) : Bool := word.head?.any (['"', '{', '/'].contains ·)

/-- The name inside a pair of braces. -/
def variableReference? (t : Text) : Option Text :=
  match t with
  | '{' :: r =>
    match Text.dropTail? ['}'] r with
    | some name => if name.isEmpty || name.any (['{', '}'].contains ·) then none else some name
    | none => none
  | _ => none

/-! ## Regular expressions -/

variable [Regex.Engine]

/-- The letters behind the last slash that become flags, or the first that is none. Letters that
say nothing about which texts match are passed over. -/
def inlineFlags : Text → Except Char Text
  | [] => .ok []
  | c :: r =>
    if ['i', 'm', 's'].contains c then (inlineFlags r).map (c :: ·)
    else if ['g', 'u', 'y'].contains c then inlineFlags r
    else .error c

/-- A source with flags in front. -/
def withFlags (flags source : Text) : Text :=
  if flags.isEmpty then source else "(?".toList ++ flags ++ ")" ++ source

/-- Refuses a text that is no regular expression. -/
def checkRegex (pattern : Text) : Except Cause Unit :=
  match Regex.compile pattern with
  | .ok _ => .ok ()
  | .error message => .error (.invalidRegex pattern message)

/-- The regular expression of a text between slashes, with its flags in front; nothing if the
text is not written so. -/
def slashPattern? (t : Text) : Except Cause (Option Text) :=
  match t with
  | '/' :: body =>
    match Text.splitAtLast? '/' body with
    | none => .ok none
    | some (source, flags) =>
      match inlineFlags flags with
      | .error c => .error (.invalidRegex t ("unsupported flag '" ++ [c, '\'']))
      | .ok flags => do
        checkRegex (withFlags flags source)
        return some (withFlags flags source)
  | _ => .ok none

/-! ## Connector segments -/

/-- `on [the] scope`. -/
def addScope (c : Command) (rest : List Text) : Except Cause Command :=
  let missing := Cause.missingField .specifier c.action
  let text := Text.trim (Text.unwords (skipArticles rest))
  if text.head? == some '"' then
    match unquote? text with
    | some title => .ok (c.withSection title)
    | none => .error missing
  else
    let name := stripPunctuation text
    match name with
    | [] => .error missing
    | first :: _ =>
      .ok (c.withSpecifier
        (if isLowercase first then (regionNamed? name).getD name else name))

/-- `with [descriptor] value`. -/
def addValue (c : Command) (rest : List Text) : Except Cause Command :=
  match unquote? (Text.unwords rest) with
  | some value => .ok (c.withValue value)
  | none =>
    let words := match skipArticles rest with
      | first :: second :: tail =>
        if descriptors.contains (Text.toLower first) then second :: tail
        else first :: second :: tail
      | words => words
    let value := stripPunctuation (Text.unwords words)
    if value.isEmpty then .error (.missingField .value c.action) else .ok (c.withValue value)

/-- `to [value] number`. -/
def addPosition (c : Command) (rest : List Text) : Except Cause Command :=
  match (unquote? (Text.unwords rest)).or (rest.getLast?.map stripPunctuation) with
  | some value =>
    if value.isEmpty then .error (.missingField .value c.action) else .ok (c.withValue value)
  | none => .error (.missingField .value c.action)

/-- `into variable {name}` or `into variable "name"`. -/
def addStoreName (c : Command) (rest : List Text) : Except Cause Command :=
  let unquoted := rest.getLast?.map fun w =>
    Text.trimMatches (['{', '}'].contains ·) (stripPunctuation w)
  match (unquote? (Text.unwords rest)).or unquoted with
  | some name =>
    if Text.blank name then .error (.missingField .variableName c.action)
    else .ok (c.withVariable name)
  | none => .error (.missingField .variableName c.action)

/-- The assertion that the words begin with, and the words behind it. -/
def assertionHead (c : Command) (rest : List Text) : Except Cause (Assertion × List Text) :=
  match rest with
  | [] => .error (.missingField .assertion c.action)
  | first :: tail =>
    let verb := Text.toLower (stripPunctuation first)
    let visible := tail.head?.any fun w => Text.toLower (stripPunctuation w) = "visible"
    if verb = "be" && visible then .ok (.exist, tail.drop 1)
    else match Assertion.ofVerb? verb with
      | some a => .ok (a, tail)
      | none => .error (.unknownAssertion verb)

/-- The aspect that the words name, and the words of the operand. A word in front of further ones
is a descriptor, unless an operand begins with it. -/
def assertionAspect (rest : List Text) : Aspect × List Text :=
  match rest with
  | first :: second :: tail =>
    let a := Text.toLower (stripPunctuation first)
    let b := Text.toLower (stripPunctuation second)
    if a = "accessible" && b = "description" then (.accessible, tail)
    else if a = "error" && b = "message" then (.error, tail)
    else if beginsOperand first then (.plain, rest)
    else (.plain, second :: tail)
  | _ => (.plain, rest)

/-- The operand of an assertion that compares. -/
def addExpected (c : Command) (a : Assertion) (operand : Text) : Except Cause Command := do
  if operand.isEmpty then throw (.missingField .value c.action)
  let quoted := unquote? operand
  let unquoted := stripFullStop operand
  let literal ← if a = .fits then slashPattern? (quoted.getD unquoted) else pure none
  match literal with
  | some pattern => return c.withValue pattern
  | none =>
    match quoted, variableReference? unquoted with
    | none, some name => return c.withVariable (Text.trim name)
    | _, _ =>
      let value := quoted.getD (stripPunctuation unquoted)
      if a = .fits then checkRegex value
      return c.withValue value

/-- `to [not] assertion [descriptor] operand`. -/
def addAssertion (c : Command) (rest : List Text) : Except Cause Command := do
  let (a, rest) ← assertionHead c rest
  let c := { c with assertion := some a }
  if a = .exist then return c.withAspect .plain
  let (aspect, rest) := assertionAspect rest
  addExpected (c.withAspect aspect) a (Text.trim (Text.unwords rest))

/-- Applies one connector segment. -/
def addConnected (c : Command) (k : Connector) (rest : List Text) : Except Cause Command :=
  match k with
  | .on_ => addScope c rest
  | .with_ => addValue c rest
  | .to_ | .into_ =>
    match c.action with
    | .slide => addPosition c rest
    | .store => addStoreName c rest
    | .ensure => addAssertion c rest
    | action => .error (.unexpectedConnector k.word action)

/-! ## The command -/

/-- The words of the positional segments. -/
def positional (segments : List Segment) : List (List Text) :=
  (segments.filter (·.kind.isPositional)).map (·.words)

/-- The connector segments: the connector and the words behind it. -/
def connected (segments : List Segment) : List (Connector × List Text) :=
  segments.filterMap fun s =>
    match s.kind with
    | .connector k => some (k, s.words.drop 1)
    | _ => none

/-- The action, object and element type of the positional segments. -/
def target (segments : List (List Text)) : Except Cause Command := do
  match segments with
  | [action, object, role] =>
    let word := Text.toLower (stripPunctuation (Text.unwords action))
    let some action := Action.ofWord? word | throw (.unknownAction word)
    let objectText := Text.unwords object
    let object := (unquote? objectText).getD (stripPunctuation objectText)
    let role := stripPunctuation (Text.unwords role)
    match roleNamed? (role.filter (· != '-')) with
    | some elementType => return { action, object, elementType }
    | none =>
      if action = .ensure then return { action, object, elementType := "generic" }
      else throw (.unknownRole role)
  | _ :: _ :: _ :: extra :: _ => throw (.extraSegment (Text.unwords extra))
  | _ => throw (.missingSegments segments.length)

/-- The command of a complete reading. -/
def Reading.command (r : Reading) : Except Cause Command := do
  let c ← target (positional r.segments)
  let c ← (connected r.segments).foldlM (fun c (k, rest) => addConnected c k rest)
    { c with isNegativeAssertion := r.negated }
  if c.action = .ensure && c.assertion.isNone then throw (.missingField .assertion c.action)
  match c.fault? with
  | some cause => throw cause
  | none => return c

/-- The cause or the command of a list of terms. -/
def commandOf (terms : List Term) : Except Cause Command :=
  let r := ({} : Reading).read terms
  match r.place with
  | .quoted _ => .error .unterminatedQuote
  | _ => r.command

/-- The words of a list of terms as written. -/
def clauseOf (terms : List Term) : Text := Text.unwords (terms.map Term.raw)

/-- The command of one instruction. -/
def readInstruction (terms : List Term) : Except Fault Command :=
  (commandOf terms).mapError (⟨·, clauseOf terms⟩)

end PlainSteps.Sentence
