import PlainSteps.Regex
import PlainSteps.Regex.Syntax
import PlainSteps.Unicode.Letter

/-!
# Reading regular expressions

The reader goes over the text once with a stack of open groups, and inside brackets with a stack
of open classes. Every step consumes a character, so the length of the text bounds the steps.
-/

namespace PlainSteps.Regex

/-- Drops white space and comments where the verbose flag is on. -/
def skipSpace (verbose : Bool) : Text → Text
  | [] => []
  | c :: r =>
    if !verbose then c :: r
    else if isBlank c then skipSpace verbose r
    else if c == '#' then skipComment verbose r
    else c :: r
where
  skipComment (verbose : Bool) : Text → Text
  | [] => []
  | '\n' :: r => skipSpace verbose r
  | _ :: r => skipComment verbose r

/-- Characters that may stand behind a backslash and then mean themselves. -/
def isEscapable (c : Char) : Bool :=
  isMeta c || (c.val < 128 && !c.isAlphanum && c != '<' && c != '>')

def isHexDigit (c : Char) : Bool :=
  c.isDigit || ('a' ≤ c && c ≤ 'f') || ('A' ≤ c && c ≤ 'F')

def hexDigitValue (c : Char) : Nat :=
  if c.isDigit then c.toNat - '0'.toNat
  else if 'a' ≤ c then c.toNat - 'a'.toNat + 10
  else c.toNat - 'A'.toNat + 10

/-- The character with a hexadecimal code. -/
def charOfHex (digits : Text) : Except Fault Char :=
  let n := digits.foldl (fun n c => n * 16 + hexDigitValue c) 0
  if digits.isEmpty || !Nat.isValidChar n then .error .hexadecimal else .ok (Char.ofNat n)

/-- Reads `n` hexadecimal digits. -/
def readHexDigits (verbose : Bool) : Nat → Text → Except Fault (Text × Text)
  | 0, t => .ok ([], t)
  | n + 1, t =>
    match t with
    | [] => .error .hexadecimal
    | c :: r => do
      unless isHexDigit c do throw .hexadecimal
      let (digits, rest) ← readHexDigits verbose n (skipSpace verbose r)
      return (c :: digits, rest)

/-- Reads hexadecimal digits up to a closing brace. -/
def readHexBrace (verbose : Bool) : Nat → Text → Except Fault (Text × Text)
  | 0, _ => .error .hexadecimal
  | fuel + 1, t =>
    match skipSpace verbose t with
    | [] => .error .hexadecimal
    | '}' :: r => .ok ([], r)
    | c :: r => do
      unless isHexDigit c do throw .hexadecimal
      let (digits, rest) ← readHexBrace verbose fuel r
      return (c :: digits, rest)

/-- Reads the code of a character; `kind` is the letter behind the backslash. -/
def readHex (verbose : Bool) (kind : Char) (t : Text) : Except Fault (Literal × Text) := do
  match skipSpace verbose t with
  | [] => throw .escape
  | '{' :: r =>
    let (digits, rest) ← readHexBrace verbose (r.length + 1) r
    let c ← charOfHex digits
    return (⟨c, false⟩, skipSpace verbose rest)
  | c :: r =>
    let count := if kind == 'x' then 2 else if kind == 'u' then 4 else 8
    let (digits, rest) ← readHexDigits verbose count (c :: r)
    let c ← charOfHex digits
    return (⟨c, kind == 'x'⟩, skipSpace verbose rest)

/-- Reads a property name up to a closing brace. -/
def readPropertyName (verbose : Bool) : Nat → Text → Except Fault (Text × Text)
  | 0, _ => .error .escape
  | fuel + 1, t =>
    match skipSpace verbose t with
    | [] => .error .escape
    | '}' :: r => .ok ([], r)
    | c :: r => do
      let (name, rest) ← readPropertyName verbose fuel r
      return (c :: name, rest)

/-- Splits the text of a property at `!=`, a colon or an equals sign. The second component says
that the property is negated by its operator. -/
def propertyOf (name : Text) : Property × Bool :=
  match Text.splitAt? "!=" name with
  | some (a, b) => (.valued a b, true)
  | none =>
    match (Text.splitAt? ":" name).or (Text.splitAt? "=" name) with
    | some (a, b) => (.valued a b, false)
    | none => (.named name, false)

/-- Reads a property behind `\p` or `\P`. -/
def readProperty (verbose : Bool) (t : Text) : Except Fault ((Property × Bool) × Text) := do
  match skipSpace verbose t with
  | [] => throw .escape
  | '\\' :: _ => throw .propertyName
  | '{' :: r =>
    let (name, rest) ← readPropertyName verbose (r.length + 1) r
    return (propertyOf name, rest)
  | c :: r => return ((.named [c], false), skipSpace verbose r)

/-- One indivisible part of an expression. -/
inductive Primitive where
  | literal (l : Literal)
  | assertion (a : Assertion)
  | dot
  | shorthand (kind : Shorthand) (negated : Bool)
  | property (query : Property) (negated : Bool)
  deriving Repr, DecidableEq, Inhabited

def Primitive.toAst : Primitive → Ast
  | .literal l => .literal l
  | .assertion a => .assertion a
  | .dot => .dot
  | .shorthand k n => .shorthand k n
  | .property q n => .property q n

/-- Letters and hyphens, with white space between them where the verbose flag is on. -/
def readBoundaryName (verbose : Bool) : Nat → Text → Text × Text
  | 0, t => ([], t)
  | fuel + 1, t =>
    match t with
    | [] => ([], [])
    | c :: r =>
      if c.isAlpha || c == '-' then
        let (name, rest) := readBoundaryName verbose fuel (skipSpace verbose r)
        (c :: name, rest)
      else ([], c :: r)

/-- Reads the braces of a special word boundary. Braces that do not begin with a letter or hyphen
belong to a repetition and are left alone. -/
def readBoundaryKind (verbose : Bool) (t : Text) : Except Fault (Assertion × Text) := do
  match t with
  | '{' :: r =>
    let inner := skipSpace verbose r
    match inner with
    | [] => throw .wordBoundary
    | c :: _ =>
      if !(c.isAlpha || c == '-') then return (.wordBoundary, t)
      let (name, rest) := readBoundaryName verbose (inner.length + 1) inner
      match rest with
      | '}' :: rest =>
        if name = "start" then return (.wordStart, rest)
        else if name = "end" then return (.wordEnd, rest)
        else if name = "start-half" then return (.wordStartHalf, rest)
        else if name = "end-half" then return (.wordEndHalf, rest)
        else throw .wordBoundary
      | _ => throw .wordBoundary
  | _ => return (.wordBoundary, t)

/-- Reads what stands behind a backslash. -/
def readEscape (verbose : Bool) (t : Text) : Except Fault (Primitive × Text) := do
  match t with
  | [] => throw .escape
  | c :: r =>
    if c.isDigit then throw .backreference
    else if c == 'x' || c == 'u' || c == 'U' then
      let (l, rest) ← readHex verbose c r
      return (.literal l, rest)
    else if c == 'p' || c == 'P' then
      let ((q, negated), rest) ← readProperty verbose r
      return (.property q (negated != (c == 'P')), rest)
    else if isEscapable c then return (.literal ⟨c, false⟩, r)
    else match c with
      | 'd' => return (.shorthand .digit false, r)
      | 'D' => return (.shorthand .digit true, r)
      | 's' => return (.shorthand .space false, r)
      | 'S' => return (.shorthand .space true, r)
      | 'w' => return (.shorthand .word false, r)
      | 'W' => return (.shorthand .word true, r)
      | 'a' => return (.literal ⟨'\x07', false⟩, r)
      | 'f' => return (.literal ⟨'\x0c', false⟩, r)
      | 't' => return (.literal ⟨'\t', false⟩, r)
      | 'n' => return (.literal ⟨'\n', false⟩, r)
      | 'r' => return (.literal ⟨'\r', false⟩, r)
      | 'v' => return (.literal ⟨'\x0b', false⟩, r)
      | 'A' => return (.assertion .startText, r)
      | 'z' => return (.assertion .endText, r)
      | 'B' => return (.assertion .notWordBoundary, r)
      | '<' => return (.assertion .wordStart, r)
      | '>' => return (.assertion .wordEnd, r)
      | 'b' =>
        let (a, rest) ← readBoundaryKind verbose r
        return (.assertion a, rest)
      | _ => throw .escape

/-! ## Character classes -/

def AsciiClass.ofName? (name : Text) : Option AsciiClass :=
  (List.find? (fun (n, _) => n == String.ofList name)
    [("alnum", alnum), ("alpha", alpha), ("ascii", ascii), ("blank", blank), ("cntrl", cntrl),
      ("digit", digit), ("graph", graph), ("lower", lower), ("print", print), ("punct", punct),
      ("space", space), ("upper", upper), ("word", word), ("xdigit", xdigit)]).map (·.2)

/-- Reads a class such as `[:alpha:]`, whose opening bracket has been read. -/
def readAsciiClass? (t : Text) : Option (ClassSet × Text) :=
  match t with
  | ':' :: r =>
    let (negated, r) := match r with
      | '^' :: r => (true, r)
      | _ => (false, r)
    let name := r.takeWhile (· != ':')
    match r.dropWhile (· != ':') with
    | ':' :: ']' :: rest => (AsciiClass.ofName? name).map fun k => (.ascii k negated, rest)
    | _ => none
  | _ => none

/-- A class that is still open. -/
inductive OpenClass where
  /-- An opening bracket, with the items in front of it in the class around it. -/
  | bracket (before : List ClassSet) (negated : Bool)
  /-- An operator with what stands in front of it. -/
  | operand (operator : SetOperator) (first : ClassSet)
  deriving Repr, Inhabited

/-- Reads the hyphens that open a class and mean themselves. -/
def readLeadingHyphens (verbose : Bool) : Nat → Text → List ClassSet × Text
  | 0, t => ([], t)
  | fuel + 1, t =>
    match t with
    | '-' :: r =>
      let (items, rest) := readLeadingHyphens verbose fuel (skipSpace verbose r)
      (.range ⟨'-', false⟩ ⟨'-', false⟩ :: items, rest)
    | _ => ([], t)

/-- Reads the head of a class behind its opening bracket: a negation, hyphens, and a closing
bracket that means itself because it comes first. -/
def readClassHead (verbose : Bool) (t : Text) : Except Fault ((Bool × List ClassSet) × Text) :=
  let t := skipSpace verbose t
  let (negated, t) := match t with
    | '^' :: r => (true, skipSpace verbose r)
    | _ => (false, t)
  let (hyphens, t) := readLeadingHyphens verbose (t.length + 1) t
  match hyphens, t with
  | _, [] => .error .classUnclosed
  | [], ']' :: r =>
    let r := skipSpace verbose r
    if r.isEmpty then .error .classUnclosed
    else .ok ((negated, [.range ⟨']', false⟩ ⟨']', false⟩]), r)
  | _, _ => .ok ((negated, hyphens), t)

/-- Joins the operators that wait for their second operand. -/
def closeOperators (set : ClassSet) : List OpenClass → ClassSet × List OpenClass
  | .operand k first :: stack => closeOperators (.op k first set) stack
  | stack => (set, stack)

/-- Reads one item of a class, which may be a single character. -/
def readClassItem (verbose : Bool) (t : Text) : Except Fault (Primitive × Text) :=
  match t with
  | [] => .error .classUnclosed
  | '\\' :: r => readEscape verbose r
  | c :: r => .ok (.literal ⟨c, false⟩, r)

def Primitive.toClassSet : Primitive → Except Fault ClassSet
  | .literal l => .ok (.range l l)
  | .shorthand k n => .ok (.shorthand k n)
  | .property q n => .ok (.property q n)
  | _ => .error .classItem

def Primitive.toLiteral : Primitive → Except Fault Literal
  | .literal l => .ok l
  | _ => .error .classRange

/-- Reads an item or a range of characters. -/
def readClassRange (verbose : Bool) (t : Text) : Except Fault (ClassSet × Text) := do
  let (first, t) ← readClassItem verbose t
  match skipSpace verbose t with
  | [] => throw .classUnclosed
  | '-' :: r =>
    let behind := skipSpace verbose r
    if behind.head? == some ']' || behind.head? == some '-' then
      return (← first.toClassSet, '-' :: r)
    let (last, rest) ← readClassItem verbose behind
    let first ← first.toLiteral
    let last ← last.toLiteral
    if last.char < first.char then throw .classRange
    return (.range first last, rest)
  | rest => return (← first.toClassSet, rest)

/-- Reads a class up to the bracket that closes it. `items` are the items read so far in the
innermost open class. -/
def readClass (verbose : Bool) :
    Nat → List OpenClass → List ClassSet → Text → Except Fault (Ast × Text)
  | 0, _, _, _ => .error .classUnclosed
  | fuel + 1, stack, items, t => do
    let operator (k : SetOperator) (rest : Text) : Except Fault (Ast × Text) :=
      let (first, stack) := closeOperators (.ofItems items) stack
      readClass verbose fuel (.operand k first :: stack) [] rest
    match skipSpace verbose t with
    | [] => throw .classUnclosed
    | '[' :: r =>
      match readAsciiClass? r with
      | some (set, rest) => readClass verbose fuel stack (items ++ [set]) rest
      | none =>
        let ((negated, inner), rest) ← readClassHead verbose r
        readClass verbose fuel (.bracket items negated :: stack) inner rest
    | ']' :: r =>
      match closeOperators (.ofItems items) stack with
      | (set, [.bracket _ negated]) => return (.bracketed negated set, r)
      | (set, .bracket before negated :: stack) =>
        readClass verbose fuel stack (before ++ [.bracketed negated set]) r
      | _ => throw .classUnclosed
    | '&' :: '&' :: r => operator .inter r
    | '-' :: '-' :: r => operator .diff r
    | '~' :: '~' :: r => operator .symmDiff r
    | t =>
      let (item, rest) ← readClassRange verbose t
      readClass verbose fuel stack (items ++ [item]) rest

/-- Reads a class whose opening bracket has been read. -/
def readBracketed (verbose : Bool) (t : Text) : Except Fault (Ast × Text) := do
  let ((negated, inner), rest) ← readClassHead verbose t
  readClass verbose (rest.length + 1) [.bracket [] negated] inner rest

/-! ## Repetitions -/

/-- The digits of a count, with white space around them. -/
def readCountDigits (verbose : Bool) : Nat → Text → Text × Text
  | 0, t => ([], t)
  | fuel + 1, t =>
    match t with
    | [] => ([], [])
    | c :: r =>
      if c.isDigit then
        let (digits, rest) := readCountDigits verbose fuel (skipSpace verbose r)
        (c :: digits, rest)
      else ([], c :: r)

/-- Reads a count. White space is allowed around it. -/
def readCount (verbose : Bool) (t : Text) : Except Fault Nat × Text :=
  let t := t.dropWhile isBlank
  let (digits, rest) := readCountDigits verbose (t.length + 1) t
  let rest := skipSpace verbose (rest.dropWhile isBlank)
  let n := digits.foldl (fun n c => n * 10 + (c.toNat - '0'.toNat)) 0
  (if digits.isEmpty || 0x100000000 ≤ n then .error .repetitionCount else .ok n, rest)

/-- Drops the question mark that makes a repetition lazy; which texts match does not depend on
it. -/
def dropLazy : Text → Text
  | '?' :: r => r
  | t => t

/-- Reads the bounds of a repetition whose opening brace has been read. -/
def readBounds (verbose : Bool) (t : Text) : Except Fault ((Nat × Option Nat) × Text) := do
  let (least, rest) := readCount verbose (skipSpace verbose t)
  let least ← least
  let (most, rest) ← match rest with
    | ',' :: r =>
      match skipSpace verbose r with
      | '}' :: r => pure (none, '}' :: r)
      | r =>
        let (most, rest) := readCount verbose r
        pure (some (← most), rest)
    | _ => pure (some least, rest)
  match rest with
  | '}' :: r =>
    if most.any (· < least) then throw .repetitionCount
    return ((least, most), dropLazy (skipSpace verbose r))
  | _ => throw .repetitionCount

/-! ## Groups -/

/-- Reads flags up to the colon or the parenthesis behind them. `seen` holds the flags read so
far and `minus` the number of flags in front of the minus sign, if there was one. -/
def readFlags : List Flag → Option Nat → Text → Except Fault (FlagChange × Text)
  | _, _, [] => .error .flag
  | seen, minus, c :: r =>
    if c == ':' || c == ')' then
      if minus == some seen.length then .error .flag
      else
        let values := seen.zipIdx.map fun (f, i) => (f, !(minus.any (· ≤ i)))
        .ok (values, c :: r)
    else if c == '-' then
      if minus.isSome then .error .flag else readFlags seen (some seen.length) r
    else match Flag.ofChar? c with
      | none => .error .flag
      | some f => if seen.contains f then .error .flag else readFlags (seen ++ [f]) minus r

/-- The characters of capture names; digits and brackets do not come first. -/
def isCaptureChar (c : Char) (first : Bool) : Bool :=
  c == '_' ||
    (if first then (if c.val < 128 then c.isAlpha else Unicode.isAlphabetic c.toNat)
    else c == '.' || c == '[' || c == ']' || isAlphanumeric c)

/-- Reads a capture name up to the angle bracket that closes it. -/
def readCaptureName (t : Text) : Except Fault (Text × Text) :=
  let name := t.takeWhile (· != '>')
  match t.dropWhile (· != '>') with
  | [] => .error .groupName
  | _ :: rest =>
    match name with
    | [] => .error .groupName
    | c :: r =>
      if isCaptureChar c true && r.all (isCaptureChar · false) then .ok (name, rest)
      else .error .groupName

/-- What an opening parenthesis starts. -/
inductive Opening where
  /-- A change of flags for the rest of the group. -/
  | flags (change : FlagChange)
  | group (captures : Bool) (change : FlagChange)
  deriving Repr, Inhabited

/-- Reads the head of a group behind its parenthesis. The last component is the name of a named
capture. -/
def readOpening (verbose : Bool) (t : Text) : Except Fault ((Opening × Option Text) × Text) := do
  let t := skipSpace verbose t
  if ["?=", "?!", "?<=", "?<!"].any (Text.startsWith t ·.toList) then throw .lookAround
  match (Text.dropHead? "?P<" t).or (Text.dropHead? "?<" t) with
  | some r =>
    let (name, rest) ← readCaptureName r
    return ((.group true [], some name), rest)
  | none =>
    match t with
    | '?' :: r =>
      let (change, rest) ← readFlags [] none r
      match rest with
      | ')' :: rest =>
        if change.isEmpty then throw .repetitionTarget
        return ((.flags change, none), rest)
      | _ => return ((.group false change, none), rest.drop 1)
    | _ => return ((.group true [], none), t)

/-- A group that is still open: the alternatives and the parts in front of it, the verbose flag
there, and how the group was opened. -/
structure OpenGroup where
  alternatives : List Ast
  parts : List Ast
  verbose : Bool
  captures : Bool
  change : FlagChange
  deriving Repr, Inhabited

structure ReadState where
  groups : List OpenGroup := []
  /-- The finished alternatives of the innermost group. -/
  alternatives : List Ast := []
  /-- The parts of its current alternative. -/
  parts : List Ast := []
  verbose : Bool := false
  names : List Text := []
  deriving Repr, Inhabited

namespace ReadState

def push (s : ReadState) (a : Ast) : ReadState := { s with parts := s.parts ++ [a] }

/-- The expression of the innermost group. -/
def body (s : ReadState) : Ast := .ofAlternatives (s.alternatives ++ [.ofSequence s.parts])

/-- Repeats the last part. -/
def repeatLast (s : ReadState) (least : Nat) (most : Option Nat) : Except Fault ReadState :=
  match s.parts.getLast? with
  | none | some .empty | some (.flags _) => .error .repetitionTarget
  | some a => .ok { s with parts := s.parts.dropLast ++ [.repetition least most a] }

def flagValue? (f : Flag) (change : FlagChange) : Option Bool :=
  (change.find? (·.1 == f)).map (·.2)

def openGroup (s : ReadState) (opening : Opening) (name : Option Text) :
    Except Fault ReadState :=
  match opening with
  | .flags change =>
    .ok { s.push (.flags change) with verbose := (flagValue? .verbose change).getD s.verbose }
  | .group captures change =>
    if name.any s.names.contains then .error .groupName
    else
      .ok { groups := ⟨s.alternatives, s.parts, s.verbose, captures, change⟩ :: s.groups
            verbose := (flagValue? .verbose change).getD s.verbose
            names := name.toList ++ s.names }

def closeGroup (s : ReadState) : Except Fault ReadState :=
  match s.groups with
  | [] => .error .groupUnopened
  | g :: groups =>
    .ok { groups
          alternatives := g.alternatives
          parts := g.parts ++ [.group g.captures g.change s.body]
          verbose := g.verbose
          names := s.names }

/-- Reads the rest of an expression. -/
def read : Nat → ReadState → Text → Except Fault Ast
  | 0, _, _ => .error .groupUnclosed
  | fuel + 1, s, t => do
    match skipSpace s.verbose t with
    | [] => if s.groups.isEmpty then return s.body else throw .groupUnclosed
    | '(' :: r =>
      let ((opening, name), rest) ← readOpening s.verbose r
      read fuel (← s.openGroup opening name) rest
    | ')' :: r => read fuel (← s.closeGroup) r
    | '|' :: r =>
      read fuel { s with alternatives := s.alternatives ++ [.ofSequence s.parts], parts := [] } r
    | '[' :: r =>
      let (a, rest) ← readBracketed s.verbose r
      read fuel (s.push a) rest
    | '?' :: r => read fuel (← s.repeatLast 0 (some 1)) (dropLazy r)
    | '*' :: r => read fuel (← s.repeatLast 0 none) (dropLazy r)
    | '+' :: r => read fuel (← s.repeatLast 1 none) (dropLazy r)
    | '{' :: r =>
      let ((least, most), rest) ← readBounds s.verbose r
      read fuel (← s.repeatLast least most) rest
    | '\\' :: r =>
      let (p, rest) ← readEscape s.verbose r
      read fuel (s.push p.toAst) rest
    | '.' :: r => read fuel (s.push .dot) r
    | '^' :: r => read fuel (s.push (.assertion .startLine)) r
    | '$' :: r => read fuel (s.push (.assertion .endLine)) r
    | c :: r => read fuel (s.push (.literal ⟨c, false⟩)) r

end ReadState

/-- The deepest nesting that is accepted. -/
def depthLimit : Nat := 250

/-- Reads a regular expression. -/
def parse (t : Text) : Except Fault Ast := do
  let a ← ReadState.read (t.length + 1) {} t
  if depthLimit < a.depth then throw .nesting
  return a

end PlainSteps.Regex
