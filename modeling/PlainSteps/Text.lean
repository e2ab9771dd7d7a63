/-!
# Text

A text is a list of characters, so that scanners over it are plain recursions. This module holds
what every reader of sentences needs: white space, trimming, words, joining, and the tests for a
head, a tail or a part of a text.

White space is the Unicode property `White_Space`.
-/

namespace PlainSteps

abbrev Text := List Char

instance : Coe String Text := ⟨String.toList⟩

/-- The characters with the Unicode property `White_Space`. -/
def isBlank (c : Char) : Bool :=
  c = ' ' || (9 ≤ c.val && c.val ≤ 13) || c.val = 0x85 || c.val = 0xA0 || c.val = 0x1680 ||
    (0x2000 ≤ c.val && c.val ≤ 0x200A) || c.val = 0x2028 || c.val = 0x2029 || c.val = 0x202F ||
    c.val = 0x205F || c.val = 0x3000

namespace Text

/-- The decimal digits of a number. -/
def ofNat (n : Nat) : Text := Nat.toDigits 10 n

/-- The decimal digits of an integer, with a minus sign if it is negative. -/
def ofInt (n : Int) : Text := if n < 0 then '-' :: ofNat n.natAbs else ofNat n.natAbs

/-- Drops the characters at the end that satisfy `p`. -/
def dropEndWhile (p : Char → Bool) (t : Text) : Text :=
  (t.reverse.dropWhile p).reverse

/-- The characters at the end that satisfy `p`. -/
def takeEndWhile (p : Char → Bool) (t : Text) : Text :=
  (t.reverse.takeWhile p).reverse

/-- Drops the characters at both ends that satisfy `p`. -/
def trimMatches (p : Char → Bool) (t : Text) : Text :=
  dropEndWhile p (t.dropWhile p)

def trim (t : Text) : Text := trimMatches isBlank t

/-- A text of white space alone, the empty text included. -/
def blank (t : Text) : Bool := t.all isBlank

/-- The pieces between the characters that satisfy `p`, empty ones included. -/
def splitWith (p : Char → Bool) : Text → List Text
  | [] => [[]]
  | c :: r =>
    if p c then [] :: splitWith p r
    else match splitWith p r with
      | [] => [[c]]
      | w :: ws => (c :: w) :: ws

/-- The maximal runs of characters that are not white space. -/
def words (t : Text) : List Text :=
  (splitWith isBlank t).filter (!·.isEmpty)

/-- The texts in order, with `sep` between neighbours. -/
def join (sep : Text) : List Text → Text
  | [] => []
  | [t] => t
  | t :: u :: r => t ++ sep ++ join sep (u :: r)

/-- The texts in order, with one space between neighbours. -/
def unwords (ts : List Text) : Text := join [' '] ts

/-- The rest of `t` behind `head`, if `t` begins with it. -/
def dropHead? : (head t : Text) → Option Text
  | [], t => some t
  | _ :: _, [] => none
  | h :: hs, c :: cs => if h = c then dropHead? hs cs else none

def startsWith (t head : Text) : Bool := (dropHead? head t).isSome

/-- The part of `t` before `tail`, if `t` ends with it. -/
def dropTail? (tail t : Text) : Option Text :=
  (dropHead? tail.reverse t.reverse).map List.reverse

def endsWith (t tail : Text) : Bool := (dropTail? tail t).isSome

/-- The texts before and behind the first occurrence of `part`. -/
def splitAt? (part : Text) : Text → Option (Text × Text)
  | [] => if part.isEmpty then some ([], []) else none
  | c :: r =>
    match dropHead? part (c :: r) with
    | some rest => some ([], rest)
    | none => (splitAt? part r).map fun (a, b) => (c :: a, b)

def contains (t part : Text) : Bool := (splitAt? part t).isSome

/-- The texts before and behind the last occurrence of the character `c`. -/
def splitAtLast? (c : Char) (t : Text) : Option (Text × Text) :=
  match t.reverse.dropWhile (· != c) with
  | [] => none
  | _ :: before => some (before.reverse, takeEndWhile (· != c) t)

end Text

end PlainSteps
