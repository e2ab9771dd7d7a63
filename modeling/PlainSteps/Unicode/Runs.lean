import PlainSteps.Text

/-!
# Runs of code points

Tables of Unicode properties are written as a text of runs, for instance `41-5A 100-12E/2 AA`:
hexadecimal first and last member, and a step where members lie apart. A run of a mapping also
names the image of its first member, `41-5A>61`; the other members move by the same amount.
-/

namespace PlainSteps.Unicode

/-- The code points `first`, `first + step`, … up to `last`, and how far a mapping moves them. -/
structure Run where
  first : Nat
  last : Nat
  step : Nat
  shift : Int
  deriving Repr, DecidableEq, Inhabited

namespace Run

def contains (r : Run) (n : Nat) : Bool :=
  r.first ≤ n && n ≤ r.last && (n - r.first) % r.step == 0

/-- The value of a hexadecimal digit, zero for any other character. -/
def digitValue (c : Char) : Nat :=
  if '0' ≤ c ∧ c ≤ '9' then c.toNat - '0'.toNat
  else if 'A' ≤ c ∧ c ≤ 'F' then c.toNat - 'A'.toNat + 10
  else if 'a' ≤ c ∧ c ≤ 'f' then c.toNat - 'a'.toNat + 10
  else 0

def hexValue (t : Text) : Nat := t.foldl (fun n c => n * 16 + digitValue c) 0

/-- Reads one run, such as `41-5A`, `100-12E/2` or `41-5A>61`. -/
def ofText (t : Text) : Run :=
  let members := t.takeWhile (· != '>')
  let image := (t.dropWhile (· != '>')).drop 1
  let span := members.takeWhile (· != '/')
  let step := (members.dropWhile (· != '/')).drop 1
  let first := hexValue (span.takeWhile (· != '-'))
  let last := (span.dropWhile (· != '-')).drop 1
  { first
    last := if last.isEmpty then first else hexValue last
    step := if step.isEmpty then 1 else hexValue step
    shift := if image.isEmpty then 0 else hexValue image - first }

end Run

/-- The runs of a table. -/
def runs (table : String) : List Run := (Text.words table).map Run.ofText

/-- Reads sets with names. An entry begins with its names, which have `=` between them, and entries
have a semicolon between them. -/
def namedRuns (table : String) : List (List Text × List Run) :=
  (Text.splitWith (· == ';') table.toList).map fun entry =>
    match Text.words entry with
    | [] => ([], [])
    | names :: members => (Text.splitWith (· == '=') names, members.map Run.ofText)

/-- The members of the set with a name. -/
def findRuns? (table : List (List Text × List Run)) (name : Text) : Option (List Run) :=
  (table.find? (·.1.contains name)).map (·.2)

/-- Membership of a code point in a table. -/
def member (table : List Run) (n : Nat) : Bool := table.any (·.contains n)

/-- The image of a code point under a mapping; a code point outside every run is its own image. -/
def image (table : List Run) (n : Nat) : Nat :=
  match table.find? (·.contains n) with
  | some r => ((n : Int) + r.shift).toNat
  | none => n

end PlainSteps.Unicode
