import PlainSteps.Failure
import PlainSteps.Regex

/-!
# Patterns of addresses and titles

A pattern is written as a text. Between slashes, with flags behind them, it is a regular
expression; with a star in it, it is a glob, where every star stands for any run of characters;
otherwise it means itself.
-/

namespace PlainSteps

inductive Pattern where
  | exact (text : Text)
  | glob (text : Text)
  | regex (r : Regex)
  deriving Inhabited

namespace Pattern

/-- The letters that set a flag; any other letter behind the last slash is passed over. -/
def isFlag (c : Char) : Bool := c == 'i' || c == 'm' || c == 's'

/-- The source between slashes with its flags in front, if the text is written so. -/
def slashed? : Text → Option Text
  | '/' :: body =>
    (Text.splitAtLast? '/' body).map fun (source, letters) =>
      let flags := letters.filter isFlag
      if flags.isEmpty then source else "(?".toList ++ flags ++ ")" ++ source
  | _ => none

def parse [Regex.Engine] (t : Text) : Except Failure Pattern :=
  match slashed? t with
  | some source =>
    match Regex.compile source with
    | .ok r => .ok (regex r)
    | .error message => .error (.invalidPattern t message)
  | none => .ok (if List.elem '*' t then glob t else exact t)

/-- The parts of a glob behind its first star match a text: each part but the last occurs, in
order and apart, and the last ends the text. -/
def partsMatch : List Text → Text → Bool
  | [], t => t.isEmpty
  | [last], t => Text.endsWith t last
  | part :: rest, t =>
    match Text.splitAt? part t with
    | some (_, behind) => partsMatch rest behind
    | none => false

def globMatches (pattern t : Text) : Bool :=
  match Text.splitWith (· == '*') pattern with
  | [] => t.isEmpty
  | [only] => t == only
  | first :: rest =>
    match Text.dropHead? first t with
    | some behind => partsMatch rest behind
    | none => false

def isMatch : Pattern → Text → Bool
  | exact p, t => t == p
  | glob p, t => globMatches p t
  | regex r, t => r.isMatch t

/-- The written form. -/
def render : Pattern → Text
  | exact p | glob p => p
  | regex r => '/' :: r.source ++ ['/']

end Pattern

end PlainSteps
