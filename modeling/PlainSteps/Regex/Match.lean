import PlainSteps.Regex.Size

/-!
# Matching

`ends` gives the places where a match that starts at a given place can end. A regular expression
matches a text if some place in it has an end.
-/

namespace PlainSteps.Regex

open Unicode (CharSet)

/-- A text with its places counted from zero. -/
structure Subject where
  chars : Array Char
  deriving Inhabited

namespace Subject

def charAt? (s : Subject) (i : Nat) : Option Nat := s.chars[i]?.map Char.toNat

/-- The character in front of a place. -/
def before? (s : Subject) (i : Nat) : Option Nat := if i = 0 then none else s.charAt? (i - 1)

end Subject

def wordSet : CharSet := CharSet.word

def asciiWordSet : CharSet := AsciiClass.word.set

def isWord (unicode : Bool) (c : Option Nat) : Bool :=
  c.any fun n => if unicode && 128 ≤ n then wordSet.contains n else asciiWordSet.contains n

/-- The test holds at a place. -/
def Look.holds (l : Look) (s : Subject) (i : Nat) : Bool :=
  let before := s.before? i
  let behind := s.charAt? i
  match l with
  | .textStart => before.isNone
  | .textEnd => behind.isNone
  | .lineStart => before.isNone || before == some 0xA
  | .lineEnd => behind.isNone || behind == some 0xA
  | .crlfStart =>
    before.isNone || before == some 0xA || (before == some 0xD && behind != some 0xA)
  | .crlfEnd => behind.isNone || behind == some 0xD || (behind == some 0xA && before != some 0xD)
  | .boundary negated u => (isWord u before != isWord u behind) != negated
  | .wordStart u => !isWord u before && isWord u behind
  | .wordEnd u => isWord u before && !isWord u behind
  | .wordStartHalf u => !isWord u before
  | .wordEndHalf u => !isWord u behind

/-- Applies a step to every place of a list and drops repeated results. -/
def advance (step : Nat → List Nat) (places : List Nat) : List Nat :=
  (places.flatMap step).eraseDups

/-- Applies a step `n` times. -/
def advanceExactly (step : Nat → List Nat) : Nat → List Nat → List Nat
  | 0, places => places
  | n + 1, places =>
    if places.isEmpty then []
    else
      let next := advance step places
      if next == places then places else advanceExactly step n next

/-- All places reached by at most `n` steps. -/
def advanceUpTo (step : Nat → List Nat) : Nat → List Nat → List Nat → List Nat
  | 0, reached, _ => reached
  | n + 1, reached, fresh =>
    let next := (advance step fresh).filter (!reached.contains ·)
    if next.isEmpty then reached else advanceUpTo step n (reached ++ next) next

/-- The places where a match from `i` on can end. -/
def Program.ends (s : Subject) : Program → Nat → List Nat
  | .empty, i => [i]
  | .char set, i => if (s.charAt? i).any set.contains then [i + 1] else []
  | .look l, i => if l.holds s i then [i] else []
  | .capture p, i => p.ends s i
  | .andThen a b, i => advance (b.ends s) (a.ends s i)
  | .orElse a b, i => (a.ends s i ++ b.ends s i).eraseDups
  | .repetition least most p, i =>
    let first := advanceExactly (p.ends s) least [i]
    let more := match most with
      | some most => most - least
      | none => s.chars.size + 1
    advanceUpTo (p.ends s) more first first

end PlainSteps.Regex
