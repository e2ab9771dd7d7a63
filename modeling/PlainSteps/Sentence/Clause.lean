import PlainSteps.Unicode.Letter

/-!
# Clauses of a sentence

A sentence holds one or more clauses, cut at full stops, commas and line ends. A separator inside
a double-quoted span or inside braces does not cut, and neither does a full stop directly before a
letter or digit, as in `3.14`. A quote behind a backslash neither opens nor closes a span.

`clauses` trims each piece, drops blank ones and ends every clause with one full stop.
-/

namespace PlainSteps.Sentence

/-- What the characters before a place leave open there. -/
structure Nesting where
  inQuote : Bool := false
  escaped : Bool := false
  depth : Nat := 0
  deriving Repr, DecidableEq, Inhabited

/-- What becomes of a character: it stays in its piece, ends the piece, or is dropped. -/
inductive Verdict where
  | keep
  | cut
  | drop
  deriving Repr, DecidableEq

def isSeparator (c : Char) : Bool := c == '.' || c == ',' || c == '\n'

namespace Nesting

/-- The verdict on `c` when `next` is the character behind it. -/
def verdict (s : Nesting) (c : Char) (next : Option Char) : Verdict :=
  if s.escaped || s.inQuote then .keep
  else if c == '.' && next.any isAlphanumeric then .keep
  else if s.depth == 0 && isSeparator c then .cut
  else if c == '\r' then .drop
  else .keep

/-- The state behind `c`. -/
def step (s : Nesting) (c : Char) : Nesting :=
  if s.escaped then { s with escaped := false }
  else if c == '\\' then { s with escaped := true }
  else if c == '"' then { s with inQuote := !s.inQuote }
  else if s.inQuote then s
  else if c == '{' then { s with depth := s.depth + 1 }
  else if c == '}' then { s with depth := s.depth - 1 }
  else s

/-- The state behind a whole text. -/
def run (s : Nesting) (t : Text) : Nesting := t.foldl step s

end Nesting

/-- Puts a character in front of the first piece. -/
def consFirst (c : Char) : List Text → List Text
  | [] => [[c]]
  | p :: ps => (c :: p) :: ps

/-- The raw pieces of a text between its cuts; there is always at least one. -/
def pieces : Nesting → Text → List Text
  | _, [] => [[]]
  | s, c :: r =>
    match s.verdict c r.head? with
    | .keep => consFirst c (pieces (s.step c) r)
    | .cut => [] :: pieces (s.step c) r
    | .drop => pieces (s.step c) r

/-- A piece as a clause: trimmed and ended with a full stop, or nothing if it is blank. -/
def closeClause (piece : Text) : Option Text :=
  let t := Text.trim piece
  if t.isEmpty then none else some (t ++ ['.'])

def clauses (sentence : Text) : List Text :=
  (pieces {} sentence).filterMap closeClause

end PlainSteps.Sentence
