import PlainSteps.Regex.Program

/-!
# The size of a regular expression

Expressions whose automaton would be too large are refused. The automaton works on the bytes of
UTF-8 and is counted in bytes of storage, once reading forward and once reading backward; counted
repetitions are written out, so the count grows with them.
-/

namespace PlainSteps.Regex

open Unicode (CharSet)

/-- A range of bytes. -/
abbrev ByteRange := Nat × Nat

/-- Where a range of code points has to be cut so that the UTF-8 forms of the lower part are one
range at every place: the last code point of the lower part. -/
def cut? (lo hi : Nat) : Option Nat :=
  match [0x7F, 0x7FF, 0xFFFF].find? fun m => lo ≤ m && m < hi with
  | some m => some m
  | none =>
    if hi ≤ 0x7F then none
    else [0x40, 0x1000, 0x40000].findSome? fun m =>
      if lo / m = hi / m then none
      else if lo % m ≠ 0 then some (lo / m * m + m - 1)
      else if hi % m ≠ m - 1 then some (hi / m * m - 1)
      else none

/-- Cuts a range into parts whose UTF-8 forms are one range at every place. -/
def uniformRanges : Nat → Nat × Nat → List (Nat × Nat)
  | 0, r => [r]
  | fuel + 1, (lo, hi) =>
    match cut? lo hi with
    | none => [(lo, hi)]
    | some m => uniformRanges fuel (lo, m) ++ uniformRanges fuel (m + 1, hi)

/-- The bytes of a code point. -/
def utf8 (n : Nat) : List Nat :=
  if n < 0x80 then [n]
  else if n < 0x800 then [0xC0 + n / 0x40, 0x80 + n % 0x40]
  else if n < 0x10000 then [0xE0 + n / 0x1000, 0x80 + n / 0x40 % 0x40, 0x80 + n % 0x40]
  else
    [0xF0 + n / 0x40000, 0x80 + n / 0x1000 % 0x40, 0x80 + n / 0x40 % 0x40, 0x80 + n % 0x40]

/-- The UTF-8 forms of a set, as sequences of byte ranges. -/
def byteSequences (s : CharSet) : List (List ByteRange) :=
  (s.ranges.flatMap (uniformRanges 64)).map fun (lo, hi) => (utf8 lo).zip (utf8 hi)

/-- The storage of one state, of one transition and of one branch. -/
def stateSize : Nat := 32

def transitionSize : Nat := 8

def branchSize : Nat := 4

/-- The sequences that begin with the same range, in neighbouring groups, without that range. -/
def groupByHead : List (List ByteRange) → List (ByteRange × List (List ByteRange))
  | [] => []
  | [] :: rest => groupByHead rest
  | (b :: tail) :: rest =>
    match groupByHead rest with
    | (b', tails) :: groups =>
      if b = b' then (b, tail :: tails) :: groups else (b, [tail]) :: (b', tails) :: groups
    | [] => [(b, [tail])]

/-- The states of the smallest tree that reads the sequences, each given by what it still reads. -/
def treeStates : Nat → List (List ByteRange) → List (List (List ByteRange))
  | 0, _ => []
  | fuel + 1, sequences =>
    if sequences.all (·.isEmpty) then []
    else sequences :: (groupByHead sequences).flatMap fun (_, tails) => treeStates fuel tails

/-- The length of the longest common head. -/
def commonLength : List ByteRange → List ByteRange → Nat
  | a :: as, b :: bs => if a = b then commonLength as bs + 1 else 0
  | _, _ => 0

/-- The states of a backward reader, which shares the states of common heads. -/
def backwardStates : List ByteRange → List (List ByteRange) → Nat
  | _, [] => 0
  | previous, s :: rest => s.length - commonLength previous s + backwardStates s rest

/-- The storage for one character of a set. -/
def charSize (backward : Bool) (s : CharSet) : Nat :=
  match s.ranges with
  | [] => stateSize
  | [(lo, hi)] =>
    if lo = hi then (utf8 lo).length * stateSize else general
  | _ => general
where
  general : Nat :=
    let sequences := byteSequences s
    if s.isAscii then 2 * stateSize + s.ranges.length * transitionSize
    else if backward then
      (2 + backwardStates [] sequences) * stateSize + sequences.length * branchSize
    else
      let states := (treeStates 5 sequences).eraseDups
      (1 + states.length) * stateSize + (states.flatMap groupByHead).length * transitionSize

/-- The program matches the empty text somewhere. -/
def Program.nullable : Program → Bool
  | .empty | .look _ => true
  | .char _ => false
  | .capture p => p.nullable
  | .andThen a b => a.nullable && b.nullable
  | .orElse a b => a.nullable || b.nullable
  | .repetition least _ p => least == 0 || p.nullable

/-- The storage of a program, and the same with one branch for each of its alternatives. -/
def Program.sizes (backward : Bool) : Program → Nat × Nat
  | .empty => (stateSize, stateSize + branchSize)
  | .char s => let n := charSize backward s; (n, n + branchSize)
  | .look _ => (stateSize, stateSize + branchSize)
  | .capture p =>
    let n := (p.sizes backward).1 + (if backward then 0 else 2 * stateSize)
    (n, n + branchSize)
  | .andThen a b =>
    let n := (a.sizes backward).1 + (b.sizes backward).1
    (n, n + branchSize)
  | .orElse a b =>
    let branches := (a.sizes backward).2 + (b.sizes backward).2
    (2 * stateSize + branches, branches)
  | .repetition least most p =>
    let n := (p.sizes backward).1
    let fork := stateSize + 2 * branchSize
    let total := match most with
      | none =>
        if least = 0 then (if p.nullable then n + 2 * fork + stateSize else n + fork)
        else least * n + fork
      | some most =>
        if most = 0 then stateSize
        else if least = most then least * n
        else if least = 0 && most = 1 then n + fork + stateSize
        else
          (if least = 0 then stateSize else least * n) + stateSize +
            (most - least) * (n + fork)
    (total, total + branchSize)

/-- The largest automaton that is accepted, in bytes. -/
def sizeLimit : Nat := 10 * 1024 * 1024

/-- The storage around every program: the whole match, the search for its start, and the end. -/
def frameSize : Nat := 7 * stateSize

def Program.fits (p : Program) : Bool :=
  [false, true].all fun backward => (p.sizes backward).1 + frameSize ≤ sizeLimit

end PlainSteps.Regex
