import PlainSteps.Regex.Parser
import PlainSteps.Unicode.Property

/-!
# Regular expressions with flags applied

`Program` is a regular expression whose characters are sets and whose flags have been applied.
A written expression has a program unless it names an unknown property or could match a part of
a character.
-/

namespace PlainSteps.Regex

open Unicode (CharSet)

/-- A test of the place between two characters. -/
inductive Look where
  | textStart
  | textEnd
  | lineStart
  | lineEnd
  | crlfStart
  | crlfEnd
  /-- A word boundary, or the absence of one, of Unicode or ASCII words. -/
  | boundary (negated : Bool) (unicode : Bool)
  | wordStart (unicode : Bool)
  | wordEnd (unicode : Bool)
  /-- No word character in front. -/
  | wordStartHalf (unicode : Bool)
  /-- No word character behind. -/
  | wordEndHalf (unicode : Bool)
  deriving Repr, DecidableEq, Inhabited

inductive Program where
  | empty
  | char (set : CharSet)
  | look (l : Look)
  | capture (body : Program)
  | andThen (first second : Program)
  | orElse (first second : Program)
  | repetition (least : Nat) (most : Option Nat) (body : Program)
  deriving Repr, Inhabited

structure Flags where
  caseInsensitive : Bool := false
  multiLine : Bool := false
  dotMatchesNewLine : Bool := false
  unicode : Bool := true
  crlf : Bool := false
  deriving Repr, DecidableEq, Inhabited

namespace Flags

def set (f : Flags) : Flag × Bool → Flags
  | (.caseInsensitive, b) => { f with caseInsensitive := b }
  | (.multiLine, b) => { f with multiLine := b }
  | (.dotMatchesNewLine, b) => { f with dotMatchesNewLine := b }
  | (.unicode, b) => { f with unicode := b }
  | (.crlf, b) => { f with crlf := b }
  | (.swapGreed, _) | (.verbose, _) => f

def change (f : Flags) (c : FlagChange) : Flags := c.foldl set f

end Flags

def AsciiClass.set : AsciiClass → CharSet
  | alnum => .ofRuns (Unicode.runs "30-39 41-5A 61-7A")
  | alpha => .ofRuns (Unicode.runs "41-5A 61-7A")
  | ascii => .ofRuns (Unicode.runs "0-7F")
  | blank => .ofRuns (Unicode.runs "9 20")
  | cntrl => .ofRuns (Unicode.runs "0-1F 7F")
  | digit => .ofRuns (Unicode.runs "30-39")
  | graph => .ofRuns (Unicode.runs "21-7E")
  | lower => .ofRuns (Unicode.runs "61-7A")
  | print => .ofRuns (Unicode.runs "20-7E")
  | punct => .ofRuns (Unicode.runs "21-2F 3A-40 5B-60 7B-7E")
  | space => .ofRuns (Unicode.runs "9-D 20")
  | upper => .ofRuns (Unicode.runs "41-5A")
  | word => .ofRuns (Unicode.runs "30-39 41-5A 5F 61-7A")
  | xdigit => .ofRuns (Unicode.runs "30-39 41-46 61-66")

def asciiLetters : CharSet := AsciiClass.alpha.set

namespace Flags

/-- Adds the other case where case is ignored. Without Unicode only ASCII letters have one. -/
def fold (f : Flags) (s : CharSet) : CharSet :=
  if !f.caseInsensitive then s
  else if f.unicode then s.foldCase
  else s.union ((s.inter asciiLetters).foldCase.inter asciiLetters)

/-- Without Unicode a set has to stay within ASCII, or it would match parts of characters. The
complement of any set of bytes that leaves out only ASCII does not. -/
def foldAndNegate (f : Flags) (negated : Bool) (s : CharSet) : CharSet :=
  if negated then (f.fold s).negate else f.fold s

def checkAscii (f : Flags) (s : CharSet) : Except Fault CharSet :=
  if f.unicode || s.isAscii then .ok s else .error .unicodeOff

/-- The single character of a literal. Without Unicode a literal written as a byte beyond ASCII
is no character. -/
def literal (f : Flags) (l : Literal) : Except Fault Nat :=
  if !f.unicode && l.isByte && 128 ≤ l.char.toNat then .error .unicodeOff
  else .ok l.char.toNat

/-- A character inside brackets, which without Unicode has to be an ASCII one. -/
def classLiteral (f : Flags) (l : Literal) : Except Fault Nat :=
  if !f.unicode && 128 ≤ l.char.toNat then .error .unicodeOff else .ok l.char.toNat

def shorthand (f : Flags) (k : Shorthand) (negated : Bool) : CharSet :=
  let s := match k, f.unicode with
    | .digit, true => CharSet.digit
    | .space, true => CharSet.whiteSpace
    | .word, true => CharSet.word
    | .digit, false => AsciiClass.digit.set
    | .space, false => AsciiClass.space.set
    | .word, false => AsciiClass.word.set
  if negated then s.negate else s

def property (f : Flags) (q : Property) (negated : Bool) : Except Fault CharSet := do
  unless f.unicode do throw .unicodeOff
  let found := match q with
    | .named name => CharSet.named? name
    | .valued name value => CharSet.valued? name value
  match found with
  | some s => return f.foldAndNegate negated s
  | none => throw .property

end Flags

def SetOperator.apply : SetOperator → CharSet → CharSet → CharSet
  | .inter, s, t => s.inter t
  | .diff, s, t => s.diff t
  | .symmDiff, s, t => s.symmDiff t

def ClassSet.set (f : Flags) : ClassSet → Except Fault CharSet
  | .empty => .ok ⟨[]⟩
  | .range a b => do return .ofRanges [(← f.classLiteral a, ← f.classLiteral b)]
  | .ascii k negated => .ok (f.foldAndNegate negated k.set)
  | .property q negated => f.property q negated
  | .shorthand k negated => .ok (f.shorthand k negated)
  | .bracketed negated s => do return f.foldAndNegate negated (← s.set f)
  | .items s => s.set f
  | .both a b => do return (← a.set f).union (← b.set f)
  | .op k a b => do return k.apply (f.fold (← a.set f)) (f.fold (← b.set f))

def Assertion.look (f : Flags) : Assertion → Look
  | .startLine => if !f.multiLine then .textStart else if f.crlf then .crlfStart else .lineStart
  | .endLine => if !f.multiLine then .textEnd else if f.crlf then .crlfEnd else .lineEnd
  | .startText => .textStart
  | .endText => .textEnd
  | .wordBoundary => .boundary false f.unicode
  | .notWordBoundary => .boundary true f.unicode
  | .wordStart => .wordStart f.unicode
  | .wordEnd => .wordEnd f.unicode
  | .wordStartHalf => .wordStartHalf f.unicode
  | .wordEndHalf => .wordEndHalf f.unicode

def dotSet (f : Flags) : CharSet :=
  if f.dotMatchesNewLine then .full
  else if f.crlf then (CharSet.ofRuns (Unicode.runs "A D")).negate
  else (CharSet.single 0xA).negate

/-- The program of an expression, and the flags for what stands behind it in its group. -/
def Ast.program (f : Flags) : Ast → Except Fault (Program × Flags)
  | .empty => .ok (.empty, f)
  | .flags c => .ok (.empty, f.change c)
  | .literal l => do return (.char (f.fold (.single (← f.literal l))), f)
  | .dot => do return (.char (← f.checkAscii (dotSet f)), f)
  | .assertion a => .ok (.look (a.look f), f)
  | .shorthand k negated => do return (.char (← f.checkAscii (f.shorthand k negated)), f)
  | .property q negated => do return (.char (← f.property q negated), f)
  | .bracketed negated s => do
    return (.char (← f.checkAscii (f.foldAndNegate negated (← s.set f))), f)
  | .repetition least most r => do
    let (p, f') ← r.program f
    return (.repetition least most p, f')
  | .group captures c r => do
    let (p, _) ← r.program (f.change c)
    return (if captures then .capture p else p, f)
  | .sequence r | .alternatives r => r.program f
  | .andThen a b => do
    let (p, f) ← a.program f
    let (q, f) ← b.program f
    return (.andThen p q, f)
  | .orElse a b => do
    let (p, f) ← a.program f
    let (q, f) ← b.program f
    return (.orElse p q, f)

end PlainSteps.Regex
