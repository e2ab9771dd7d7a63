import PlainSteps.Text

/-!
# Reading positions

A cursor is the rest of a file with the place where it begins. Line ends of every kind count, and
those that are not Unicode separators are read as line feeds. Lines of a scalar are joined by
folding: a single line end becomes a space, and of several all but the first stay.
-/

namespace PlainSteps.Yaml

/-- The end of a reading that found something else than the rules of the format allow. -/
def refuse {α : Type} (reason : Text) : Except Text α := .error reason

/-- A space or a tab. -/
def isGap (c : Char) : Bool := c == ' ' || c == '\t'

def isUnicodeBreak (c : Char) : Bool := c.val == 0x2028 || c.val == 0x2029

def isBreak (c : Char) : Bool := c == '\n' || c == '\r' || c.val == 0x85 || isUnicodeBreak c

/-- A word ends before this character, or with the file. -/
def endsWord (c : Option Char) : Bool := c.all fun c => isGap c || isBreak c

structure Cursor where
  rest : Text
  index : Nat := 0
  line : Nat := 0
  column : Nat := 0
  deriving Repr, DecidableEq, Inhabited

namespace Cursor

def peek (c : Cursor) : Option Char := c.rest.head?

def peekAt (c : Cursor) (n : Nat) : Option Char := c.rest[n]?

/-- Passes characters of one line. -/
def skip (c : Cursor) (n : Nat) : Cursor :=
  { c with rest := c.rest.drop n, index := c.index + n, column := c.column + n }

/-- Passes characters of one line that satisfy `p`. -/
def skipWhile (p : Char → Bool) (c : Cursor) : Cursor := c.skip (c.rest.takeWhile p).length

/-- Passes the rest of a line. -/
def skipLine (c : Cursor) : Cursor := c.skipWhile (!isBreak ·)

/-- Reads a line end, if there is one. -/
def takeBreak (c : Cursor) : Text × Cursor :=
  let behind (rest : Text) (n : Nat) : Cursor :=
    { rest, index := c.index + n, line := c.line + 1, column := 0 }
  match c.rest with
  | '\r' :: '\n' :: r => (['\n'], behind r 2)
  | b :: r => if isBreak b then ([if isUnicodeBreak b then b else '\n'], behind r 1) else ([], c)
  | [] => ([], c)

/-- A line that begins with three equal characters and nothing directly behind them. -/
def atMarker (c : Cursor) (mark : Char) : Bool :=
  c.column == 0 && c.rest.take 3 == [mark, mark, mark] && endsWord (c.peekAt 3)

/-- A line that ends or begins a document. -/
def atDocumentMarker (c : Cursor) : Bool := c.atMarker '-' || c.atMarker '.'

end Cursor

/-- What stands between two words of a scalar. -/
structure Gap where
  spaces : Text := []
  /-- A line end has been passed, or a backslash before one. -/
  broken : Bool := false
  /-- The first line end. -/
  first : Text := []
  /-- The line ends behind the first. -/
  more : Text := []
  deriving Repr, DecidableEq, Inhabited

namespace Gap

/-- What a gap amounts to in the text of the scalar. -/
def text (g : Gap) : Text :=
  if !g.broken then g.spaces
  else if g.first = ['\n'] then (if g.more.isEmpty then [' '] else g.more)
  else g.first ++ g.more

def addBreak (g : Gap) (b : Text) : Gap :=
  if g.broken then { g with more := g.more ++ b } else { broken := true, first := b }

/-- Reads on to the next word. At the head of a line no tab may stand before column `indent`; `n`
bounds the number of characters. -/
def read (indent : Int) : (n : Nat) → Gap → Cursor → Except Text (Gap × Cursor)
  | 0, g, c => .ok (g, c)
  | n + 1, g, c =>
    match c.peek with
    | none => .ok (g, c)
    | some ch =>
      if isGap ch then
        if !g.broken then read indent n { g with spaces := g.spaces ++ [ch] } (c.skip 1)
        else if ch == '\t' && c.column < indent then refuse "a tab violates the indentation"
        else read indent n g (c.skip 1)
      else if isBreak ch then
        let (b, c) := c.takeBreak
        read indent n (g.addBreak b) c
      else .ok (g, c)

end Gap

end PlainSteps.Yaml
