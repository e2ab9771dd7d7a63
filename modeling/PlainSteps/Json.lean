import PlainSteps.Text

/-!
# JSON values

JSON values whose numbers are integers, with the fields of an object in order, and the two ways
of writing them: on one line, and indented by two spaces a level.
-/

namespace PlainSteps

inductive Json where
  | null
  | bool (b : Bool)
  | int (n : Int)
  | text (t : Text)
  | list (items : List Json)
  | object (fields : List (Text × Json))
  deriving Repr, Inhabited

namespace Json

/-- The value of the first field with a name. -/
def field? (name : Text) : Json → Option Json
  | object fields => (fields.find? (·.1 == name)).map (·.2)
  | _ => none

/-- An object of the fields that have a value. -/
def record (fields : List (String × Option Json)) : Json :=
  .object (fields.filterMap fun (name, value) => value.map (name.toList, ·))

def hexDigit (n : Nat) : Char := (Nat.toDigits 16 n).headD '0'

/-- A character of a string as JSON writes it. -/
def escapeChar (c : Char) : Text :=
  if c = '"' then ['\\', '"']
  else if c = '\\' then ['\\', '\\']
  else if c = '\n' then ['\\', 'n']
  else if c = '\r' then ['\\', 'r']
  else if c = '\t' then ['\\', 't']
  else if c.toNat = 8 then ['\\', 'b']
  else if c.toNat = 12 then ['\\', 'f']
  else if c.toNat < 32 then
    ['\\', 'u', '0', '0', hexDigit (c.toNat / 16), hexDigit (c.toNat % 16)]
  else [c]

def writeText (t : Text) : Text := '"' :: t.flatMap escapeChar ++ ['"']

def indentation (level : Nat) : Text := '\n' :: List.replicate (2 * level) ' '

mutual

/-- Writes a value; `level` is the depth of indentation, if there is any. -/
def write (level : Option Nat) : Json → Text
  | null => "null"
  | bool b => if b then "true" else "false"
  | int n => Text.ofInt n
  | text t => writeText t
  | list [] => "[]"
  | list (j :: r) =>
    '[' :: writeItems (level.map (· + 1)) (j :: r) ++ (level.elim [] indentation) ++ [']']
  | object [] => ['\x7b', '\x7d']
  | object (f :: r) =>
    '\x7b' :: writeFields (level.map (· + 1)) (f :: r) ++ (level.elim [] indentation) ++ ['\x7d']

def writeItems (level : Option Nat) : List Json → Text
  | [] => []
  | [j] => level.elim [] indentation ++ write level j
  | j :: k :: r =>
    level.elim [] indentation ++ write level j ++ [','] ++ writeItems level (k :: r)

def writeFields (level : Option Nat) : List (Text × Json) → Text
  | [] => []
  | [(name, j)] => writeField level name j
  | (name, j) :: f :: r => writeField level name j ++ [','] ++ writeFields level (f :: r)

def writeField (level : Option Nat) (name : Text) (j : Json) : Text :=
  level.elim [] indentation ++ writeText name ++ (if level.isSome then [':', ' '] else [':']) ++
    write level j

end

/-- The value on one line. -/
def compact (j : Json) : Text := write none j

/-- The value over several lines. -/
def pretty (j : Json) : Text := write (some 0) j

end Json

end PlainSteps
