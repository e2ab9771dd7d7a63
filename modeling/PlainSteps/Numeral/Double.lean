/-!
# Double-precision numbers, exactly

`Double` holds the value of a double-precision number as an integer times a power of two, so that
rounding and comparison can be reasoned about. `ofRatio` rounds a quotient to the nearest double,
a tie to the even mantissa. Conversions to whole numbers stay within the signed 64-bit range.
-/

namespace PlainSteps.Numeral

/-- A double-precision value: `finite negative m e` is `±m * 2 ^ e`. -/
inductive Double where
  | nan
  | infinity (negative : Bool)
  | finite (negative : Bool) (mantissa : Nat) (exponent : Int)
  deriving Repr, DecidableEq, Inhabited

/-- The quotient rounded to the nearest whole number, a half to the even neighbour. -/
def roundHalfEven (num den : Nat) : Nat :=
  let q := num / den
  let r := num % den
  if 2 * r < den then q else if den < 2 * r then q + 1 else if q % 2 = 0 then q else q + 1

/-- The smallest exponent of a double. -/
def leastExponent : Int := -1074

/-- The greatest exponent of a double whose mantissa has 53 bits. -/
def greatestExponent : Int := 971

/-- One above the greatest mantissa of 52 bits. -/
def mantissaBound : Nat := 0x10000000000000

/-- One above the greatest signed 64-bit number. -/
def int64Bound : Nat := 0x8000000000000000

/-- One above the greatest 64-bit number without a sign. -/
def nat64Bound : Nat := 0x10000000000000000

/-- A number of the signed 64-bit range. -/
def IsInt64 (n : Int) : Prop := -(int64Bound : Int) ≤ n ∧ n < int64Bound

instance (n : Int) : Decidable (IsInt64 n) := inferInstanceAs (Decidable (_ ∧ _))

/-- A power as a quotient: `base ^ e`, where `e` may be negative. -/
def power (base : Nat) (e : Int) : Nat × Nat :=
  if 0 ≤ e then (base.pow e.toNat, 1) else (1, base.pow (-e).toNat)

namespace Double

def zero : Double := finite false 0 leastExponent

/-- The double nearest to a quotient. -/
def ofRatio (negative : Bool) (num den : Nat) : Double :=
  if num = 0 then finite negative 0 leastExponent
  else
    let guess : Int := (Nat.log2 num : Int) - (Nat.log2 den : Int) - 52
    let quotient (e : Int) : Nat × Nat :=
      let (a, b) := power 2 e
      (num * b, den * a)
    let (n, d) := quotient guess
    let e := max leastExponent (if n / d < mantissaBound then guess - 1 else guess)
    let (n, d) := quotient e
    let m := roundHalfEven n d
    let (m, e) := if m = 2 * mantissaBound then (mantissaBound, e + 1) else (m, e)
    if greatestExponent < e then infinity negative else finite negative m e

def ofInt (n : Int) : Double := ofRatio (n < 0) n.natAbs 1

/-- The absolute value as a quotient; zero for what is not finite. -/
def ratio : Double → Nat × Nat
  | finite _ m e =>
    let (a, b) := power 2 e
    (m * a, b)
  | _ => (0, 1)

def isFinite : Double → Bool
  | finite _ _ _ => true
  | _ => false

/-- Keeps a whole number within the signed 64-bit range. -/
def clamp64 (n : Int) : Int := max (-(int64Bound : Int)) (min n (int64Bound - 1))

def signed (negative : Bool) (n : Nat) : Int := if negative then -n else n

/-- The whole number toward zero; what is no number counts as zero. -/
def truncate : Double → Int
  | nan => 0
  | infinity negative => clamp64 (signed negative nat64Bound)
  | x@(finite negative _ _) =>
    let (n, d) := x.ratio
    clamp64 (signed negative (n / d))

/-- The nearest whole number, a half away from zero; what is no number counts as zero. -/
def round : Double → Int
  | x@(finite negative _ _) =>
    let (n, d) := x.ratio
    clamp64 (signed negative ((2 * n + d) / (2 * d)))
  | x => x.truncate

/-- A finite value without a fractional part. -/
def isWhole (x : Double) : Bool :=
  x.isFinite && x.ratio.1 % x.ratio.2 == 0

/-- The value with the given bits. -/
def ofBits (bits : Nat) : Double :=
  let negative := bits / int64Bound % 2 == 1
  let e : Nat := bits / mantissaBound % 2048
  let m := bits % mantissaBound
  if e = 2047 then if m = 0 then infinity negative else nan
  else if e = 0 then finite negative m leastExponent
  else finite negative (m + mantissaBound) ((e : Int) - 1075)

def toBits : Double → Nat
  | nan => 0x7FF8000000000000
  | infinity negative => (if negative then int64Bound else 0) + 2047 * mantissaBound
  | finite negative m e =>
    (if negative then int64Bound else 0) +
      (if m < mantissaBound then m
      else (e + 1075).toNat * mantissaBound + (m - mantissaBound))

def ofFloat (x : Float) : Double := ofBits x.toBits.toNat

def toFloat (x : Double) : Float := Float.ofBits (UInt64.ofNat x.toBits)

end Double

end PlainSteps.Numeral
