import PlainSteps.Numeral.Decimal
import PlainSteps.Unicode.Runs
import PlainSteps.Yaml.Cursor

/-!
# Scalars

The readers of the four ways of writing a scalar: plain, between quotes of either kind, and as a
block of lines. Each takes a bound on the number of characters that are left.
-/

namespace PlainSteps.Yaml

/-! ## Plain scalars -/

/-- The characters that end a plain scalar between brackets. -/
def isFlowMark (c : Char) : Bool := [',', '[', ']', '\x7b', '\x7d'].contains c

/-- The next word of a plain scalar. -/
def plainWord (flow : Bool) : Text → Except Text Text
  | [] => .ok []
  | c :: r =>
    if isGap c || isBreak c then .ok []
    else if flow && c == ':' && r.head?.any (fun d => isFlowMark d || d == '?') then
      refuse "an unexpected colon"
    else if c == ':' && endsWord r.head? || flow && isFlowMark c then .ok []
    else (plainWord flow r).map (c :: ·)

/-- Reads on in a plain scalar behind some text and a gap. The flag says that the scalar has been
left on a later line. -/
def plain (flow : Bool) (indent : Int) :
    (n : Nat) → (text : Text) → Gap → Cursor → Except Text (Text × Bool × Cursor)
  | 0, text, g, c => .ok (text, g.broken, c)
  | n + 1, text, g, c => do
    if c.atDocumentMarker || c.peek == some '#' then return (text, g.broken, c)
    let word ← plainWord flow c.rest
    if word.isEmpty then return (text, g.broken, c)
    let text := text ++ g.text ++ word
    let c := c.skip word.length
    if c.peek.isNone || !endsWord c.peek then return (text, false, c)
    let (g, c) ← Gap.read indent (n + 1) {} c
    if !flow && c.column < indent then return (text, g.broken, c)
    plain flow indent n text g c

/-! ## Quoted scalars -/

/-- The characters behind a backslash that stand for one other character. -/
def escapes : List (Char × Nat) :=
  [('0', 0), ('a', 7), ('b', 8), ('t', 9), ('\t', 9), ('n', 10), ('v', 11), ('f', 12), ('r', 13),
    ('e', 27), (' ', 32), ('"', 34), ('/', 47), ('\\', 92), ('N', 0x85), ('_', 0xA0),
    ('L', 0x2028), ('P', 0x2029)]

/-- The number of hexadecimal digits behind a backslash and a letter. -/
def codeLength? (c : Char) : Option Nat :=
  if c == 'x' then some 2 else if c == 'u' then some 4 else if c == 'U' then some 8 else none

def isHexDigit (c : Char) : Bool :=
  c.isDigit || ('a' ≤ c && c ≤ 'f') || ('A' ≤ c && c ≤ 'F')

/-- Reads an escape behind its backslash: the character, and the number of characters read. -/
def escape (t : Text) : Except Text (Char × Nat) :=
  match t with
  | [] => refuse "an unknown escape"
  | c :: r =>
    match (escapes.find? (·.1 == c)).map (·.2), codeLength? c with
    | some code, _ => .ok (Char.ofNat code, 1)
    | none, some len =>
      let digits := r.take len
      let code := Unicode.Run.hexValue digits
      if digits.length < len || !digits.all isHexDigit then refuse "no hexadecimal number"
      else if code.isValidChar then .ok (Char.ofNat code, len + 1)
      else refuse "no character has this number"
    | none, none => refuse "an unknown escape"

/-- Reads the next word of a quoted scalar behind some text. The flag says that a backslash before
a line end has ended it. -/
def quotedWord (single : Bool) :
    (n : Nat) → (text : Text) → Cursor → Except Text (Text × Bool × Cursor)
  | 0, text, c => .ok (text, false, c)
  | n + 1, text, c =>
    match c.rest with
    | [] => .ok (text, false, c)
    | ch :: r =>
      if isGap ch || isBreak ch then .ok (text, false, c)
      else if single && ch == '\'' then
        if r.head? == some '\'' then quotedWord single n (text ++ ['\'']) (c.skip 2)
        else .ok (text, false, c)
      else if !single && ch == '"' then .ok (text, false, c)
      else if !single && ch == '\\' then
        if r.head?.any isBreak then .ok (text, true, (c.skip 1).takeBreak.2)
        else do
          let (e, len) ← escape r
          quotedWord single n (text ++ [e]) (c.skip (len + 1))
      else quotedWord single n (text ++ [ch]) (c.skip 1)

/-- Reads on in a quoted scalar behind its opening quote and some text. -/
def quoted (single : Bool) : (n : Nat) → (text : Text) → Cursor → Except Text (Text × Cursor)
  | 0, _, _ => refuse "an unexpected end"
  | n + 1, text, c => do
    if c.atDocumentMarker then refuse "a document marker inside quotes"
    if c.rest.isEmpty then refuse "an unexpected end"
    let (text, broken, c) ← quotedWord single (n + 1) text c
    if !broken && c.peek == some (if single then '\'' else '"') then return (text, c.skip 1)
    let (g, c) ← Gap.read 0 (n + 1) { broken } c
    quoted single n (text ++ g.text) c

/-! ## Block scalars -/

/-- What is kept of the line ends behind a block. -/
inductive Chomping where
  | strip
  | clip
  | keep
  deriving Repr, DecidableEq, Inhabited

def chomping? (c : Option Char) : Option Chomping :=
  if c == some '+' then some .keep else if c == some '-' then some .strip else none

/-- Reads the digit that says how far a block is indented. -/
def increment? (c : Option Char) : Except Text (Option Nat) :=
  match c with
  | some d =>
    if d == '0' then refuse "an indentation of zero"
    else .ok (if d.isDigit then some (Numeral.digitValue d) else none)
  | none => .ok none

/-- Reads what stands behind the mark of a block, up to and with the line end. -/
def blockHeader (c : Cursor) : Except Text (Chomping × Option Nat × Cursor) := do
  let (chomp, increment, c) ← match chomping? c.peek with
    | some chomp =>
      let increment ← increment? (c.peekAt 1)
      pure (chomp, increment, c.skip (if increment.isSome then 2 else 1))
    | none =>
      match ← increment? c.peek with
      | some n =>
        match chomping? (c.peekAt 1) with
        | some chomp => pure (chomp, some n, c.skip 2)
        | none => pure (.clip, some n, c.skip 1)
      | none => pure (.clip, none, c)
  let c := c.skipWhile isGap
  let c := if c.peek == some '#' then c.skipLine else c
  if c.peek.any (!isBreak ·) then refuse "something behind the mark of a block"
  return (chomp, increment, c.takeBreak.2)

/-- Passes indentation and empty lines. While the indentation is not known it is the deepest that
is met; `least` is the least that it may be. -/
def blockBreaks (least : Nat) : (n : Nat) → (indent : Option Nat) → (deepest : Nat) →
    (breaks : Text) → Cursor → Except Text (Nat × Text × Cursor)
  | 0, indent, deepest, breaks, c => .ok (indent.getD (max deepest least), breaks, c)
  | n + 1, indent, deepest, breaks, c =>
    let spaces := (c.rest.takeWhile (· == ' ')).length
    let c := c.skip (indent.elim spaces fun i => min spaces (i - c.column))
    let deepest := max deepest c.column
    if indent.all (c.column < ·) && c.peek == some '\t' then
      refuse "a tab where a space is expected"
    else if c.peek.any isBreak then
      let (b, c) := c.takeBreak
      blockBreaks least n indent deepest (breaks ++ b) c
    else .ok (indent.getD (max deepest least), breaks, c)

/-- What a reader of a block has met so far. -/
structure BlockState where
  text : Text := []
  /-- The end of the last line. -/
  ending : Text := []
  /-- The ends of the empty lines behind it. -/
  breaks : Text := []
  /-- The last line begins with a space or tab. -/
  indented : Bool := false
  deriving Repr, DecidableEq, Inhabited

/-- Reads the lines of a block. -/
def blockLines (literal : Bool) (indent : Nat) :
    (n : Nat) → BlockState → Cursor → Except Text (BlockState × Cursor)
  | 0, s, c => .ok (s, c)
  | n + 1, s, c => do
    if c.column != indent || c.rest.isEmpty then return (s, c)
    let indented := c.peek.any isGap
    let fold := !literal && s.ending == ['\n'] && !s.indented && !indented
    let joint := if fold then (if s.breaks.isEmpty then [' '] else []) else s.ending
    let line := c.rest.takeWhile (!isBreak ·)
    let (ending, c) := (c.skip line.length).takeBreak
    let (_, breaks, c) ← blockBreaks indent (n + 1) (some indent) 0 [] c
    blockLines literal indent n
      { text := s.text ++ joint ++ s.breaks ++ line, ending, breaks, indented } c

/-- Reads a block behind its mark; `parent` is the indentation around it. -/
def block (literal : Bool) (parent : Int) (c : Cursor) : Except Text (Text × Cursor) := do
  let n := c.rest.length
  let (chomp, increment, c) ← blockHeader c
  let least := max 1 (parent + 1).toNat
  let indent := increment.map fun i => (max parent 0).toNat + i
  let (indent, breaks, c) ← blockBreaks least (n + 1) indent 0 [] c
  let (s, c) ← blockLines literal indent (n + 1) { breaks } c
  let ending := if chomp = .strip then [] else s.ending
  let breaks := if chomp = .keep then s.breaks else []
  return (s.text ++ ending ++ breaks, c)

end PlainSteps.Yaml
