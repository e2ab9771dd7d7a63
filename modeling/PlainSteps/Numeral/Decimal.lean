import PlainSteps.Numeral.Double
import PlainSteps.Text

/-!
# Decimal texts of numbers

`Double.read?` reads a decimal text, rounding to the nearest double. `Double.write` writes the
fewest digits that read back as the same value, always positionally.
-/

namespace PlainSteps.Numeral

def digitValue (c : Char) : Nat := c.toNat - '0'.toNat

/-- The value of a text of digits. -/
def digitsValue (t : Text) : Nat := t.foldl (fun n c => n * 10 + digitValue c) 0

/-- Digits with a sign in front or none, as a whole number. -/
def readInt? (t : Text) : Option Int :=
  let (negative, digits) := match t with
    | '-' :: r => (true, r)
    | '+' :: r => (false, r)
    | _ => (false, t)
  if digits.isEmpty || !digits.all Char.isDigit then none
  else some (Double.signed negative (digitsValue digits))

/-- Digits with a plus sign in front or none, as a natural number. -/
def readNat? (t : Text) : Option Nat :=
  let digits := match t with
    | '+' :: r => r
    | _ => t
  if digits.isEmpty || !digits.all Char.isDigit then none else some (digitsValue digits)

/-- A whole number in the signed 64-bit range. -/
def readInt64? (t : Text) : Option Int :=
  (readInt? t).filter fun n => -(int64Bound : Int) ≤ n && n < int64Bound

/-- A text of digits with at most one point among them and an exponent behind them. -/
structure Decimal where
  /-- All digits, without the point. -/
  digits : Nat
  /-- The power of ten of the last digit. -/
  exponent : Int
  deriving Repr, DecidableEq, Inhabited

/-- Reads an unsigned decimal: digits, a point, digits, and an exponent, of which the point and
the exponent may be absent, but not all digits. -/
def Decimal.read? (t : Text) : Option Decimal :=
  let whole := t.takeWhile Char.isDigit
  let rest := t.dropWhile Char.isDigit
  let (fraction, rest) := match rest with
    | '.' :: r => (r.takeWhile Char.isDigit, r.dropWhile Char.isDigit)
    | _ => ([], rest)
  if whole.isEmpty && fraction.isEmpty then none
  else
    let decimal (e : Int) : Decimal := ⟨digitsValue (whole ++ fraction), e - fraction.length⟩
    match rest with
    | [] => some (decimal 0)
    | c :: r => if c == 'e' || c == 'E' then (readInt? r).map decimal else none

/-- The double nearest to a decimal. Exponents beyond every double are not worked out. -/
def Decimal.toDouble (negative : Bool) (d : Decimal) : Double :=
  let size : Int := d.exponent + (Nat.log2 d.digits : Int)
  if d.digits = 0 then .finite negative 0 leastExponent
  else if 400 < d.exponent then .infinity negative
  else if size < -400 then .finite negative 0 leastExponent
  else
    let (a, b) := power 10 d.exponent
    .ofRatio negative (d.digits * a) b

namespace Double

/-- Reads a number: a decimal with a sign or none, or the words for infinity and for no number
in any case. -/
def read? (t : Text) : Option Double :=
  let (negative, unsigned) := match t with
    | '-' :: r => (true, r)
    | '+' :: r => (false, r)
    | _ => (false, t)
  let word := unsigned.map Char.toLower
  if word = "inf" || word = "infinity" then some (infinity negative)
  else if word = "nan" then some nan
  else (Decimal.read? unsigned).map (·.toDouble negative)

/-- The decimal point of a positive quotient: the number of digits in front of it, negative where
zeros follow the point. -/
def pointPlace (num den : Nat) : Int :=
  if den ≤ num then (Nat.toDigits 10 (num / den)).length
  else 1 - ((Nat.toDigits 10 ((den - 1) / num)).length : Int)

/-- The nearest decimal of `n` digits that reads back as the value: its digits and the power of
ten of the last one. -/
def decimalOfLength? (m : Nat) (e : Int) (n : Nat) : Option (Nat × Int) :=
  let x := finite false m e
  let (num, den) := x.ratio
  let last := pointPlace num den - n
  let (a, b) := power 10 last
  let q := num * b / (den * a)
  let reads (q : Nat) : Bool := ofRatio false (q * a) b == ofRatio false num den
  let near := roundHalfEven (num * b) (den * a)
  let far := if near = q then q + 1 else q
  if reads near then some (near, last) else if reads far then some (far, last) else none

/-- The shortest decimal that reads back as a positive value, the nearest of those. -/
def shortest (m : Nat) (e : Int) : Nat × Int :=
  ((List.range 17).findSome? fun n => decimalOfLength? m e (n + 1)).getD (m, e)

/-- Digits with a point before the last `places` of them. -/
def withPoint (digits : Text) (places : Nat) : Text :=
  let padded := List.replicate (places + 1 - digits.length) '0' ++ digits
  let whole := padded.take (padded.length - places)
  let fraction := Text.dropEndWhile (· == '0') (padded.drop (padded.length - places))
  if fraction.isEmpty then whole else whole ++ '.' :: fraction

/-- The text of a value: the fewest digits that read back, without an exponent. -/
def write : Double → Text
  | nan => "NaN"
  | infinity negative => if negative then "-inf" else "inf"
  | finite negative m e =>
    let sign : Text := if negative then ['-'] else []
    if m = 0 then sign ++ ['0']
    else
      let (digits, last) := shortest m e
      let digits := Nat.toDigits 10 digits
      sign ++
        (if 0 ≤ last then digits ++ List.replicate last.toNat '0'
        else withPoint digits (-last).toNat)

end Double

end PlainSteps.Numeral
