import PlainSteps.Yaml.Content

/-!
# Tokens of a file

The scanner cuts a file into tokens. Indentation shows as tokens of its own, that open and close
blocks. A key on one line is only known as a key when its colon is met, so the scanner remembers
for every bracket level where a key may have begun, and puts its token there later.
-/

namespace PlainSteps.Yaml

inductive Token where
  | documentStart
  | documentEnd
  | version (major minor : Nat)
  /-- What a tag handle stands for. -/
  | tagHandle (handle head : Text)
  | blockList
  | blockMap
  | blockEnd
  | flowListStart
  | flowListEnd
  | flowMapStart
  | flowMapEnd
  | blockEntry
  | flowEntry
  | key
  | value
  | alias (name : Text)
  | anchor (name : Text)
  | tag (handle suffix : Text)
  | scalar (isPlain : Bool) (text : Text)
  deriving Repr, DecidableEq, Inhabited

/-- A place where a key may have begun. -/
structure KeyPlace where
  /-- There has to be a key, or the block would break off. -/
  required : Bool
  /-- The number of tokens in front. -/
  token : Nat
  index : Nat
  line : Nat
  column : Nat
  deriving Repr, DecidableEq, Inhabited

structure Scan where
  cursor : Cursor
  /-- The indentation of the innermost block, and of those around it. -/
  indent : Int := -1
  outer : List Int := []
  keyAllowed : Bool := true
  /-- The place of a key on each bracket level, the innermost first. -/
  keys : List (Option KeyPlace) := [none]
  tokens : Array Token := #[]
  deriving Repr, Inhabited

namespace Scan

def isFlow (s : Scan) : Bool := s.keys.length > 1

def emit (s : Scan) (t : Token) : Scan := { s with tokens := s.tokens.push t }

def skip (s : Scan) (n : Nat) : Scan := { s with cursor := s.cursor.skip n }

/-! ## Places of keys -/

/-- Gives up a place, which must not be one that needs a key. -/
def giveUp (k : Option KeyPlace) : Except Text (Option KeyPlace) :=
  if k.any (·.required) then refuse "a key without a colon" else .ok none

/-- Gives up the place on this level. -/
def dropKey (s : Scan) : Except Text Scan := do
  let k ← giveUp (s.keys.headD none)
  return { s with keys := k :: s.keys.tail }

/-- Remembers that a key may begin here. -/
def saveKey (s : Scan) : Except Text Scan := do
  if !s.keyAllowed then return s
  let s ← s.dropKey
  let c := s.cursor
  let place : KeyPlace :=
    { required := !s.isFlow && s.indent == c.column, token := s.tokens.size
      index := c.index, line := c.line, column := c.column }
  return { s with keys := some place :: s.keys.tail }

/-- Gives up places that are on an earlier line or too far behind. -/
def dropStaleKeys (s : Scan) : Except Text Scan := do
  let c := s.cursor
  let keys ← s.keys.mapM fun k =>
    if k.any fun k => k.line < c.line || k.index + 1024 < c.index then giveUp k else .ok k
  return { s with keys }

/-! ## Blocks -/

/-- Opens a block at a column that is further in; its token is put at a place among the tokens. -/
def openBlock (s : Scan) (column : Nat) (place : Nat) (t : Token) : Scan :=
  if !s.isFlow && s.indent < column then
    { s with
      outer := s.indent :: s.outer, indent := column
      tokens := s.tokens.insertIdxIfInBounds place t }
  else s

/-- Closes one block after the other while they are further in than a column. -/
def closeWhile (column : Int) (s : Scan) : (outer : List Int) → Scan
  | [] => { s with outer := [] }
  | o :: outer =>
    if column < s.indent then closeWhile column { s.emit .blockEnd with indent := o } outer
    else { s with outer := o :: outer }

/-- Closes the blocks that are further in than a column. -/
def closeBlocks (s : Scan) (column : Int) : Scan :=
  if s.isFlow then s else closeWhile column s s.outer

/-! ## White space -/

/-- Passes white space and comments. Behind a line end a key may begin, unless between brackets;
where one may, tabs do not count as white space. -/
def toNextToken (s : Scan) : (n : Nat) → Scan
  | 0 => s
  | n + 1 =>
    let c := s.cursor
    let c := if c.index == 0 && c.peek.any (·.val == 0xFEFF) then c.skip 1 else c
    let c := c.skipWhile fun ch => ch == ' ' || (s.isFlow || !s.keyAllowed) && ch == '\t'
    let c := if c.peek == some '#' then c.skipLine else c
    if c.peek.any isBreak then
      toNextToken { s with cursor := c.takeBreak.2, keyAllowed := s.keyAllowed || !s.isFlow } n
    else { s with cursor := c }

/-! ## Names, tags and directives -/

def isNameChar (c : Char) : Bool := c.isAlphanum || c == '_' || c == '-'

/-- The characters of a tag besides those of names. -/
def isTagChar (c : Char) : Bool :=
  isNameChar c || [';', '/', '?', ':', '@', '&', '=', '+', '$', '.', '%', '!', '~', '*', '\'', '(',
    ')'].contains c

/-- Reads the name of an anchor or an alias. -/
def anchorName (c : Cursor) : Except Text (Text × Cursor) :=
  let name := c.rest.takeWhile isNameChar
  let c := c.skip name.length
  let behind := ['?', ':', ',', ']', '\x7d', '%', '@', '\x60']
  if name.isEmpty || !(endsWord c.peek || c.peek.any behind.contains) then
    refuse "no name of an anchor"
  else .ok (name, c)

/-- Replaces escapes of a percent sign and two digits. -/
def unescapeTag : Text → Except Text Text
  | [] => .ok []
  | '%' :: r =>
    match r with
    | a :: b :: r =>
      if isHexDigit a && isHexDigit b then
        (unescapeTag r).map (Char.ofNat (Unicode.Run.hexValue [a, b]) :: ·)
      else refuse "no hexadecimal number"
    | _ => refuse "no hexadecimal number"
  | c :: r => (unescapeTag r).map (c :: ·)

/-- Reads the characters of a tag; `verbatim` allows some that end a tag elsewhere. -/
def tagText (verbatim : Bool) (c : Cursor) : Except Text (Text × Cursor) := do
  let written := c.rest.takeWhile fun ch => isTagChar ch || verbatim && [',', '[', ']'].contains ch
  return (← unescapeTag written, c.skip written.length)

/-- Reads a handle: an exclamation mark, a name, and perhaps another mark. -/
def tagHandle (c : Cursor) : Except Text (Text × Cursor) :=
  match c.rest with
  | '!' :: r =>
    let name := r.takeWhile isNameChar
    let mark := (r.drop name.length).take 1
    let handle := '!' :: name ++ (if mark == ['!'] then mark else [])
    .ok (handle, c.skip handle.length)
  | _ => refuse "no tag handle"

/-- Reads a tag. -/
def tagToken (flow : Bool) (c : Cursor) : Except Text (Token × Cursor) := do
  let (t, c) ← if c.peekAt 1 == some '<' then do
      let (suffix, c) ← tagText true (c.skip 2)
      if suffix.isEmpty || c.peek != some '>' then refuse "an unfinished tag"
      pure (Token.tag [] suffix, c.skip 1)
    else do
      let (handle, c) ← tagHandle c
      let (suffix, c) ← tagText false c
      if handle.length > 1 && handle.getLast? == some '!' then
        if suffix.isEmpty then refuse "an unfinished tag"
        pure (Token.tag handle suffix, c)
      else
        let suffix := handle.drop 1 ++ suffix
        pure (if suffix.isEmpty then Token.tag [] ['!'] else Token.tag ['!'] suffix, c)
  if flow && c.peek == some ',' || endsWord c.peek then return (t, c)
  refuse "something behind a tag"

/-- Reads a number of a version. -/
def versionNumber (c : Cursor) : Except Text (Nat × Cursor) :=
  let digits := c.rest.takeWhile Char.isDigit
  if digits.isEmpty || 9 < digits.length then refuse "no version number"
  else .ok (Numeral.digitsValue digits, c.skip digits.length)

/-- Reads a directive behind its percent sign. -/
def directive (c : Cursor) : Except Text (Token × Cursor) := do
  let name := c.rest.takeWhile isNameChar
  let c := c.skip name.length
  if name.isEmpty || !endsWord c.peek then refuse "no name of a directive"
  let c := c.skipWhile isGap
  let (t, c) ← if name = "YAML" then do
      let (major, c) ← versionNumber c
      if c.peek != some '.' then refuse "no version number"
      let (minor, c) ← versionNumber (c.skip 1)
      pure (Token.version major minor, c)
    else if name = "TAG" then do
      let (handle, c) ← tagHandle c
      if handle != ['!'] && handle.getLast? != some '!' then refuse "no tag handle"
      if !c.peek.any isGap then refuse "no white space behind a tag handle"
      let (head, c) ← tagText true (c.skipWhile isGap)
      if head.isEmpty || !endsWord c.peek then refuse "no tag"
      pure (Token.tagHandle handle head, c)
    else refuse "an unknown directive"
  let c := c.skipWhile isGap
  let c := if c.peek == some '#' then c.skipLine else c
  if c.peek.any (!isBreak ·) then refuse "something behind a directive"
  return (t, c.takeBreak.2)

/-! ## Single tokens -/

/-- A mark that opens brackets. -/
def openFlow (s : Scan) (t : Token) : Except Text Scan := do
  let s ← s.saveKey
  return { s.emit t with keys := none :: s.keys, keyAllowed := true }.skip 1

/-- A mark that closes brackets. -/
def closeFlow (s : Scan) (t : Token) : Except Text Scan := do
  let s ← s.dropKey
  let keys := if s.isFlow then s.keys.tail else s.keys
  return { s.emit t with keys, keyAllowed := false }.skip 1

def flowEntry (s : Scan) : Except Text Scan := do
  return { (← s.dropKey).emit .flowEntry with keyAllowed := true }.skip 1

/-- A mark that may only stand where a key may begin, and opens a block. -/
def openBy (s : Scan) (t : Token) : Except Text Scan :=
  if s.isFlow then .ok s
  else if !s.keyAllowed then refuse "an entry is not allowed here"
  else .ok (s.openBlock s.cursor.column s.tokens.size t)

def blockEntry (s : Scan) : Except Text Scan := do
  let s ← (← s.openBy .blockList).dropKey
  return { s.emit .blockEntry with keyAllowed := true }.skip 1

def complexKey (s : Scan) : Except Text Scan := do
  let s ← (← s.openBy .blockMap).dropKey
  return { s.emit .key with keyAllowed := !s.isFlow }.skip 1

/-- The colon behind a key. -/
def keyValue (s : Scan) : Except Text Scan := do
  match s.keys.headD none with
  | some k =>
    let s := { s with tokens := s.tokens.insertIdxIfInBounds k.token .key }
    let s := s.openBlock k.column k.token .blockMap
    return { s.emit .value with keys := none :: s.keys.tail, keyAllowed := false }.skip 1
  | none =>
    let s ← s.openBy .blockMap
    return { s.emit .value with keyAllowed := !s.isFlow }.skip 1

/-- A token that a key may begin with. -/
def keyStart (s : Scan) (read : Scan → Except Text (Token × Cursor)) : Except Text Scan := do
  let s ← s.saveKey
  let (t, cursor) ← read s
  return { s.emit t with keyAllowed := false, cursor }

def plainScalar (s : Scan) : Except Text Scan := do
  let s ← s.saveKey
  let n := s.cursor.rest.length + 1
  let (text, left, cursor) ← plain s.isFlow (s.indent + 1) n [] {} s.cursor
  return { s.emit (.scalar true text) with keyAllowed := left, cursor }

def blockScalar (s : Scan) (literal : Bool) : Except Text Scan := do
  let s ← s.dropKey
  let (text, cursor) ← block literal s.indent (s.cursor.skip 1)
  return { s.emit (.scalar false text) with keyAllowed := true, cursor }

/-- A mark between documents, which ends all blocks. -/
def documentMark (s : Scan) (t : Token) : Except Text Scan := do
  let s ← (s.closeBlocks (-1)).dropKey
  return { s.emit t with keyAllowed := false }.skip 3

def directiveToken (s : Scan) : Except Text Scan := do
  let s ← (s.closeBlocks (-1)).dropKey
  let (t, cursor) ← directive (s.cursor.skip 1)
  return { s.emit t with keyAllowed := false, cursor }

/-- The marks that no plain scalar begins with. -/
def isIndicator (c : Char) : Bool :=
  ['-', '?', ':', ',', '[', ']', '\x7b', '\x7d', '#', '&', '*', '!', '|', '>', '\'', '"', '%', '@',
    '\x60'].contains c

/-- A plain scalar begins with this character before that one. -/
def startsPlain (flow : Bool) (c : Char) (next : Option Char) : Bool :=
  !isGap c && !isIndicator c || c == '-' && !next.any isGap ||
    !flow && (c == '?' || c == ':') && !endsWord next

/-- Reads the token that begins with a character. -/
def fetch (s : Scan) (c : Char) : Except Text Scan :=
  let next := s.cursor.peekAt 1
  let ends := endsWord next
  if s.cursor.column == 0 && c == '%' then s.directiveToken
  else if s.cursor.atMarker '-' then s.documentMark .documentStart
  else if s.cursor.atMarker '.' then s.documentMark .documentEnd
  else if c == '[' then s.openFlow .flowListStart
  else if c == '\x7b' then s.openFlow .flowMapStart
  else if c == ']' then s.closeFlow .flowListEnd
  else if c == '\x7d' then s.closeFlow .flowMapEnd
  else if c == ',' then s.flowEntry
  else if c == '-' && ends then s.blockEntry
  else if c == '?' && (s.isFlow || ends) then s.complexKey
  else if c == ':' && (s.isFlow || ends) then s.keyValue
  else if c == '*' then s.keyStart fun s => do
    let (name, c) ← anchorName (s.cursor.skip 1)
    return (.alias name, c)
  else if c == '&' then s.keyStart fun s => do
    let (name, c) ← anchorName (s.cursor.skip 1)
    return (.anchor name, c)
  else if c == '!' then s.keyStart fun s => tagToken s.isFlow s.cursor
  else if c == '|' && !s.isFlow then s.blockScalar true
  else if c == '>' && !s.isFlow then s.blockScalar false
  else if c == '\'' || c == '"' then s.keyStart fun s => do
    let (text, c') ← quoted (c == '\'') (s.cursor.rest.length + 1) [] (s.cursor.skip 1)
    return (.scalar false text, c')
  else if startsPlain s.isFlow c next then s.plainScalar
  else refuse "a character that begins no token"

/-- Reads all tokens; `n` bounds their number. -/
def readAll : (n : Nat) → Scan → Except Text (Array Token)
  | 0, _ => refuse "an unexpected end"
  | n + 1, s => do
    let s ← (s.toNextToken (s.cursor.rest.length + 1)).dropStaleKeys
    match s.cursor.peek with
    | none => return (← (s.closeBlocks (-1)).dropKey).tokens
    | some c => readAll n (← (s.closeBlocks s.cursor.column).fetch c)

end Scan

/-- The characters that a file may hold. -/
def isAllowed (c : Char) : Bool :=
  c == '\t' || c == '\n' || c == '\r' || (0x20 ≤ c.val && c.val ≤ 0x7E) || c.val == 0x85 ||
    (0xA0 ≤ c.val && c.val ≤ 0xFFFD) || 0x10000 ≤ c.val

/-- The tokens of a file, in order. -/
def tokens (t : Text) : Except Text (List Token) := do
  if !t.all isAllowed then refuse "a control character"
  let t := if t.head?.any (·.val == 0xFEFF) then t.tail else t
  return (← Scan.readAll (t.length + 2) { cursor := { rest := t } }).toList

end PlainSteps.Yaml
