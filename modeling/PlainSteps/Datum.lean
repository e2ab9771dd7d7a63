import PlainSteps.Json

/-!
# Values of data files

A value as the readers of files see it. A scalar has a value of its own type and the value that a
reader gets who asks for a truth value or a number; only the first of them follows a tag. It may
also have a text that stands for it where a text is asked for: in a file of plain scalars every
scalar has one, in JSON only a string has. A tag of a file's own stands around the value that it is
put on.
-/

namespace PlainSteps

inductive ScalarValue where
  | null
  | bool (b : Bool)
  | int (n : Int)
  | float
  | text (t : Text)
  /-- The text is none of the type that its tag asks for. -/
  | unfit
  /-- The tag of a plain text asks for null, and the text is not null. -/
  | notNull
  deriving Repr, DecidableEq, Inhabited

inductive Datum where
  | scalar (own asked : ScalarValue) (written : Option Text)
  | list (items : List Datum)
  | map (entries : List (Datum × Datum))
  | tagged (tag : Text) (value : Datum)
  deriving Repr, Inhabited

namespace Datum

/-- A scalar of one type that has no text. -/
def ofScalar (value : ScalarValue) : Datum := .scalar value value none

def ofText (t : Text) : Datum := .scalar (.text t) (.text t) (some t)

/-- The value without its tag. -/
def bare : Datum → Datum
  | .tagged _ d => d
  | d => d

/-- The text of a value where a text is asked for. -/
def text? (d : Datum) : Option Text :=
  match d.bare with
  | .scalar _ _ written => written
  | _ => none

def bool? (d : Datum) : Option Bool :=
  match d.bare with
  | .scalar _ (.bool b) _ => some b
  | _ => none

/-- A number that fits into 64 bits without a sign. -/
def natural? (d : Datum) : Option Nat :=
  match d.bare with
  | .scalar _ (.int n) _ => if 0 ≤ n ∧ n < 0x10000000000000000 then some n.toNat else none
  | _ => none

def isNull : Datum → Bool
  | .scalar .null .null _ => true
  | _ => false

/-- A scalar that was left empty stands for an empty list. -/
def list? (d : Datum) : Option (List Datum) :=
  match d.bare with
  | .list items => some items
  | .scalar _ .null (some []) => some []
  | _ => none

/-- A scalar that was left empty stands for an empty map. -/
def map? (d : Datum) : Option (List (Datum × Datum)) :=
  match d.bare with
  | .map entries => some entries
  | .scalar _ .null (some []) => some []
  | _ => none

/-! ## Values by their own types -/

mutual

/-- The value with every scalar taken by its own type alone. Tags are not allowed. -/
def typed? : Datum → Option Datum
  | .scalar .unfit _ _ | .scalar .notNull _ _ => none
  | .scalar (.text t) _ _ => some (ofText t)
  | .scalar value _ _ => some (ofScalar value)
  | .list items => (typedItems? items).map .list
  | .map entries => (typedEntries? entries).map .map
  | .tagged _ _ => none

def typedItems? : List Datum → Option (List Datum)
  | [] => some []
  | d :: r => do return (← typed? d) :: (← typedItems? r)

def typedEntries? : List (Datum × Datum) → Option (List (Datum × Datum))
  | [] => some []
  | (k, d) :: r => do return (← typed? k, ← typed? d) :: (← typedEntries? r)

end

mutual

def ofJson : Json → Datum
  | .null => ofScalar .null
  | .bool b => ofScalar (.bool b)
  | .int n => ofScalar (.int n)
  | .text t => ofText t
  | .list items => .list (ofJsonList items)
  | .object fields => .map (ofJsonFields fields)

def ofJsonList : List Json → List Datum
  | [] => []
  | j :: r => ofJson j :: ofJsonList r

def ofJsonFields : List (Text × Json) → List (Datum × Datum)
  | [] => []
  | (k, j) :: r => (ofText k, ofJson j) :: ofJsonFields r

end

/-! ## Readers

A loose reader takes a list for a record, by the order of its fields, and a map of one name to
nothing for that name. -/

/-- Reads an optional value; null counts as none. -/
def option? {α : Type} (read : Datum → Option α) (d : Datum) : Option (Option α) :=
  match d with
  | .scalar .notNull _ _ => none
  | d => if d.isNull then some none else (read d).map some

/-- Reads one of some names. A strict reader also takes a name from the tag of an empty value. -/
def choice? {α : Type} (loose : Bool) (all : List α) (name : α → Text) (d : Datum) :
    Option α :=
  let pick (t : Text) : Option α := all.find? (name · == t)
  match d with
  | .map [(k, v)] => if loose && v.isNull then k.text?.bind pick else none
  | .tagged tag v => if !loose && v.isNull then pick tag else none
  | d => d.text?.bind pick

/-- The name of a field as a key gives it. A number by its own type gives the place of a field. -/
def fieldName? (names : List Text) (key : Datum) : Option Text :=
  match key with
  | .scalar (.int n) _ none => if 0 ≤ n then names[n.toNat]? else none
  | key => key.text?.filter names.contains

/-- The fields of a record with some names and no others. -/
def record? (loose : Bool) (names : List Text) (d : Datum) : Option (List (Text × Datum)) :=
  match loose, d with
  | true, .list items => if items.length ≤ names.length then some (names.zip items) else none
  | _, d => d.map?.bind (·.mapM fun (k, v) => (fieldName? names k).map (·, v))

/-- The value of a field, which at most one entry may have. A field that is absent is left to the
caller. -/
def unique? (name : Text) (fields : List (Text × Datum)) : Option (Option Datum) :=
  match fields.filter (·.1 == name) with
  | [] => some none
  | [(_, d)] => some (some d)
  | _ => none

/-- Reads a field that must be there. -/
def required? {α : Type} (name : Text) (read : Datum → Option α)
    (fields : List (Text × Datum)) : Option α :=
  (unique? name fields).bind fun d => d.bind read

/-- Reads a field that may be absent or null. -/
def optional? {α : Type} (name : Text) (read : Datum → Option α)
    (fields : List (Text × Datum)) : Option (Option α) :=
  (unique? name fields).bind fun d => d.elim (some none) (option? read)

end Datum

end PlainSteps
