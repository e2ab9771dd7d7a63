import PlainSteps.Text

/-!
# Written regular expressions

The syntax tree of a regular expression as it is written, before flags are applied and names of
character classes are looked up, and the faults that reading one can meet.
-/

namespace PlainSteps.Regex

/-- Why a text is no regular expression. -/
inductive Fault where
  | groupUnclosed
  | groupUnopened
  | groupName
  | lookAround
  | backreference
  | repetitionTarget
  | repetitionCount
  | flag
  | escape
  | hexadecimal
  | wordBoundary
  | classUnclosed
  | classRange
  | classItem
  | propertyName
  | property
  | unicodeOff
  | nesting
  | size
  deriving Repr, DecidableEq, Inhabited

def Fault.reason : Fault → Text
  | .groupUnclosed => "unclosed group"
  | .groupUnopened => "unopened group"
  | .groupName => "invalid capture group name"
  | .lookAround => "look-around is not supported"
  | .backreference => "backreferences are not supported"
  | .repetitionTarget => "repetition operator missing expression"
  | .repetitionCount => "invalid repetition count"
  | .flag => "invalid flags"
  | .escape => "unrecognized escape sequence"
  | .hexadecimal => "invalid hexadecimal character"
  | .wordBoundary => "invalid word boundary assertion"
  | .classUnclosed => "unclosed character class"
  | .classRange => "invalid character class range"
  | .classItem => "invalid escape sequence in character class"
  | .propertyName => "invalid Unicode character class"
  | .property => "Unicode property not found"
  | .unicodeOff => "pattern can match invalid UTF-8"
  | .nesting => "exceeded the maximum nesting depth"
  | .size => "Compiled regex exceeds size limit of 10485760 bytes."

def Fault.message : Fault → Text
  | .size => Fault.reason .size
  | f => "regex parse error: " ++ f.reason

inductive Flag where
  | caseInsensitive
  | multiLine
  | dotMatchesNewLine
  | swapGreed
  | unicode
  | crlf
  | verbose
  deriving Repr, DecidableEq, Inhabited

def Flag.ofChar? : Char → Option Flag
  | 'i' => some .caseInsensitive
  | 'm' => some .multiLine
  | 's' => some .dotMatchesNewLine
  | 'U' => some .swapGreed
  | 'u' => some .unicode
  | 'R' => some .crlf
  | 'x' => some .verbose
  | _ => none

/-- Flags with the values that they are set to. -/
abbrev FlagChange := List (Flag × Bool)

structure Literal where
  char : Char
  /-- Written with two hexadecimal digits, which mean a byte where Unicode is off. -/
  isByte : Bool := false
  deriving Repr, DecidableEq, Inhabited

inductive Assertion where
  | startLine
  | endLine
  | startText
  | endText
  | wordBoundary
  | notWordBoundary
  | wordStart
  | wordEnd
  | wordStartHalf
  | wordEndHalf
  deriving Repr, DecidableEq, Inhabited

inductive Shorthand where
  | digit
  | space
  | word
  deriving Repr, DecidableEq, Inhabited

inductive AsciiClass where
  | alnum | alpha | ascii | blank | cntrl | digit | graph | lower | print | punct | space | upper
  | word | xdigit
  deriving Repr, DecidableEq, Inhabited

inductive Property where
  | named (name : Text)
  | valued (name value : Text)
  deriving Repr, DecidableEq, Inhabited

inductive SetOperator where
  | inter
  | diff
  | symmDiff
  deriving Repr, DecidableEq, Inhabited

/-- What may stand between the brackets of a character class. -/
inductive ClassSet where
  | empty
  | range (first last : Literal)
  | ascii (kind : AsciiClass) (negated : Bool)
  | property (query : Property) (negated : Bool)
  | shorthand (kind : Shorthand) (negated : Bool)
  | bracketed (negated : Bool) (set : ClassSet)
  /-- Items side by side, as one level of nesting. -/
  | items (set : ClassSet)
  | both (first second : ClassSet)
  | op (operator : SetOperator) (first second : ClassSet)
  deriving Repr, Inhabited

inductive Ast where
  | empty
  | flags (change : FlagChange)
  | literal (l : Literal)
  | dot
  | assertion (a : Assertion)
  | shorthand (kind : Shorthand) (negated : Bool)
  | property (query : Property) (negated : Bool)
  | bracketed (negated : Bool) (set : ClassSet)
  | repetition (least : Nat) (most : Option Nat) (body : Ast)
  | group (captures : Bool) (change : FlagChange) (body : Ast)
  /-- Several parts in a row, as one level of nesting. -/
  | sequence (parts : Ast)
  /-- Several alternatives, as one level of nesting. -/
  | alternatives (parts : Ast)
  | andThen (first second : Ast)
  | orElse (first second : Ast)
  deriving Repr, Inhabited

/-- The deepest nesting of a class: each bracket, operator and row of items is one level. -/
def ClassSet.depth : ClassSet → Nat
  | .bracketed _ s | .items s => s.depth + 1
  | .both a b => max a.depth b.depth
  | .op _ a b => max a.depth b.depth + 1
  | _ => 0

/-- The deepest nesting of an expression. -/
def Ast.depth : Ast → Nat
  | .bracketed _ s => s.depth + 1
  | .repetition _ _ r | .group _ _ r | .sequence r | .alternatives r => r.depth + 1
  | .andThen a b | .orElse a b => max a.depth b.depth
  | _ => 0

/-- Parts in a row; a single part stands for itself. -/
def Ast.ofSequence : List Ast → Ast
  | [] => .empty
  | [a] => a
  | a :: rest => .sequence (rest.foldl .andThen a)

/-- Alternatives; a single one stands for itself. -/
def Ast.ofAlternatives : List Ast → Ast
  | [] => .empty
  | [a] => a
  | a :: rest => .alternatives (rest.foldl .orElse a)

/-- Items side by side; a single item stands for itself. -/
def ClassSet.ofItems : List ClassSet → ClassSet
  | [] => .empty
  | [a] => a
  | a :: rest => .items (rest.foldl .both a)

end PlainSteps.Regex
