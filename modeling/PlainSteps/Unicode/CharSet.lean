import PlainSteps.Unicode.Fold

/-!
# Sets of characters

A set of characters is a list of ranges of code points, in order and apart from each other.
Surrogates belong to no set.
-/

namespace PlainSteps.Unicode

structure CharSet where
  ranges : List (Nat × Nat)
  deriving Repr, DecidableEq, Inhabited

namespace CharSet

def contains (s : CharSet) (n : Nat) : Bool := s.ranges.any fun (lo, hi) => lo ≤ n && n ≤ hi

/-- Joins ranges that overlap or touch; `current` is the first of a list ordered by lower ends. -/
def mergeFrom (current : Nat × Nat) : List (Nat × Nat) → List (Nat × Nat)
  | [] => [current]
  | (lo, hi) :: r =>
    if lo ≤ current.2 + 1 then mergeFrom (current.1, max current.2 hi) r
    else current :: mergeFrom (lo, hi) r

/-- Joins the ranges of a list ordered by lower ends. -/
def mergeSorted : List (Nat × Nat) → List (Nat × Nat)
  | [] => []
  | first :: r => mergeFrom first r

/-- The part of a range that holds no surrogates. -/
def withoutSurrogates : Nat × Nat → List (Nat × Nat)
  | (lo, hi) =>
    let below := (lo, min hi 0xD7FF)
    let above := (max lo 0xE000, min hi 0x10FFFF)
    (if below.1 ≤ below.2 then [below] else []) ++ (if above.1 ≤ above.2 then [above] else [])

/-- The set of all characters of some ranges, which may overlap and stand in any order. -/
def ofRanges (rs : List (Nat × Nat)) : CharSet :=
  ⟨mergeSorted ((rs.flatMap withoutSurrogates).mergeSort fun a b => a.1 ≤ b.1)⟩

def single (n : Nat) : CharSet := ofRanges [(n, n)]

def full : CharSet := ofRanges [(0, 0x10FFFF)]

def ofRuns (rs : List Run) : CharSet :=
  ofRanges (rs.flatMap fun r =>
    if r.step = 1 then [(r.first, r.last)]
    else (List.range ((r.last - r.first) / r.step + 1)).map fun i =>
      (r.first + i * r.step, r.first + i * r.step))

def union (s t : CharSet) : CharSet := ofRanges (s.ranges ++ t.ranges)

/-- The gaps of a list of ranges from `start` on. -/
def gaps (start : Nat) : List (Nat × Nat) → List (Nat × Nat)
  | [] => if start ≤ 0x10FFFF then [(start, 0x10FFFF)] else []
  | (lo, hi) :: r => (if start < lo then [(start, lo - 1)] else []) ++ gaps (hi + 1) r

def negate (s : CharSet) : CharSet := ofRanges (gaps 0 s.ranges)

def inter (s t : CharSet) : CharSet := (s.negate.union t.negate).negate

def diff (s t : CharSet) : CharSet := s.inter t.negate

def symmDiff (s t : CharSet) : CharSet := (s.diff t).union (t.diff s)

/-- All case-folding pairs of a code point and its image. -/
def foldPairs : List (Nat × Nat) :=
  foldRuns.flatMap fun r =>
    (List.range ((r.last - r.first) / r.step + 1)).map fun i =>
      let n := r.first + i * r.step
      (n, ((n : Int) + r.shift).toNat)

/-- The characters that equal a member apart from case. -/
def foldCase (s : CharSet) : CharSet :=
  let images := (foldPairs.filter fun (n, m) => s.contains n || s.contains m).map (·.2)
  let hit : CharSet := ofRanges (images.map fun m => (m, m))
  let more := (foldPairs.filter fun (_, m) => hit.contains m).map (·.1)
  ofRanges (s.ranges ++ hit.ranges ++ more.map fun n => (n, n))

def isAscii (s : CharSet) : Bool := s.ranges.all fun (_, hi) => hi < 128

end CharSet

end PlainSteps.Unicode
