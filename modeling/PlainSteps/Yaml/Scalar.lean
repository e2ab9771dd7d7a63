import PlainSteps.Datum
import PlainSteps.Numeral.Decimal
import PlainSteps.Unicode.Runs

/-!
# Types of scalars

A plain scalar without a tag is null, a truth value, a number or a text by the way it is written.
A tag of the core types asks for one of them; a tag of the file's own stays around the value.
-/

namespace PlainSteps.Yaml

def isNullWord (t : Text) : Bool :=
  [("~" : Text), "null", "Null", "NULL"].contains t

def boolWord? (t : Text) : Option Bool :=
  if [("true" : Text), "True", "TRUE"].contains t then some true
  else if [("false" : Text), "False", "FALSE"].contains t then some false
  else none

def dropSign (sign : Char) : Text → Text
  | [] => []
  | c :: r => if c == sign then r else c :: r

def beginsSigned (t : Text) : Bool := t.head?.any fun c => c == '+' || c == '-'

/-- Digits behind a leading zero, which are no number. -/
def isZeroPadded (t : Text) : Bool :=
  let t := if beginsSigned t then t.tail else t
  1 < t.length && t.head? == some '0' && t.all Char.isDigit

/-- Reads digits of a radix. -/
def digits? (radix : Nat) (t : Text) : Option Nat :=
  let value (c : Char) : Nat :=
    if c.isDigit then c.toNat - '0'.toNat
    else if c.isAlpha then Unicode.Run.digitValue c.toLower + (if 'f' < c.toLower then 36 else 0)
    else 36
  if t.isEmpty || !t.all (value · < radix) then none
  else some (t.foldl (fun n c => n * radix + value c) 0)

/-- Reads digits behind the mark of a radix. -/
def marked? (t : Text) : Option Nat :=
  match t with
  | '0' :: 'x' :: r => digits? 16 r
  | '0' :: 'o' :: r => digits? 8 r
  | '0' :: 'b' :: r => digits? 2 r
  | _ => none

/-- Reads a whole number with a sign or none. Zero with a minus sign is left to the other numbers,
since it is no natural number. -/
def int? (t : Text) : Option Int :=
  let unsigned := if beginsSigned t then t.tail else t
  let magnitude :=
    (marked? unsigned).or (if isZeroPadded t then none else digits? 10 unsigned)
  if t.head? == some '-' then (magnitude.filter (0 < ·)).map fun n => -n
  else magnitude.map Int.ofNat

/-- A number with a point or an exponent, or one of the words for infinity and for no number. -/
def isFloat (t : Text) : Bool :=
  let unpositive := dropSign '+' t
  if t.head? == some '+' && beginsSigned unpositive then false
  else
    let infinity : List Text := [".inf", ".Inf", ".INF"]
    infinity.contains unpositive || infinity.contains (dropSign '-' t) && t.head? == some '-' ||
      [(".nan" : Text), ".NaN", ".NAN"].contains t ||
      (Numeral.Double.read? unpositive).any (·.isFinite)

/-- The value of a plain scalar without a tag. -/
def plainValue (t : Text) : ScalarValue :=
  if t.isEmpty || isNullWord t then .null
  else match boolWord? t, int? t with
    | some b, _ => .bool b
    | none, some n => .int n
    | none, none => if !isZeroPadded t && isFloat t then .float else .text t

def coreTag (name : String) : Text := "tag:yaml.org,2002:" ++ name

/-- The value that a tag asks for. -/
def taggedValue (isPlain : Bool) (tag t : Text) : ScalarValue :=
  if tag = coreTag "bool" then (boolWord? t).elim .unfit .bool
  else if tag = coreTag "int" then (int? t).elim .unfit .int
  else if tag = coreTag "float" then if isFloat t then .float else .unfit
  else if tag = coreTag "null" then
    if isNullWord t then .null else if isPlain then .notNull else .unfit
  else .text t

/-- The name in a tag of the file's own. -/
def ownTag? (tag : Text) : Option Text :=
  match tag with
  | ['!'] => some tag
  | '!' :: name => some name
  | _ => none

/-- A value with a tag, which counts if it is of the file's own. -/
def withTag (tag : Option Text) (d : Datum) : Datum := (tag.bind ownTag?).elim d (.tagged · d)

/-- The datum of a scalar. A plain one keeps the type of its text for a reader who asks for it. -/
def scalar (isPlain : Bool) (tag : Option Text) (t : Text) : Datum :=
  let untagged : ScalarValue := if isPlain then plainValue t else .text t
  match tag with
  | none => .scalar untagged untagged (some t)
  | some name =>
    if (ownTag? name).isSome then withTag tag (.scalar untagged untagged (some t))
    else .scalar (taggedValue isPlain name t) untagged (some t)

end PlainSteps.Yaml
