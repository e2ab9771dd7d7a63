import PlainSteps.Failure
import PlainSteps.Unicode.Letter

/-!
# Variables

The values that a run has stored, by name and in the order of names. Settings come first, under
names with a head of their own, and are referred to by a token that is all of a text.
-/

namespace PlainSteps

/-- The order of texts by code points. -/
def Text.precedes : Text → Text → Bool
  | [], [] => false
  | [], _ :: _ => true
  | _ :: _, [] => false
  | a :: s, b :: t => a.val < b.val || (a == b && precedes s t)

structure Variables where
  /-- Names and values, in the order of names. -/
  entries : List (Text × Text) := []
  deriving Repr, DecidableEq, Inhabited

/-- The head of the names of settings. -/
def globalHead : Text := "globalEnv."

/-- The name in a token such as `\x7b\x7bglobalEnv.NAME\x7d\x7d`. -/
def globalName? (t : Text) : Option Text := do
  let name ← Text.dropTail? ['\x7d', '\x7d'] (← Text.dropHead? ['\x7b', '\x7b'] t)
  let own ← Text.dropHead? globalHead name
  if !own.isEmpty && own.all fun c => isAlphanumeric c || c == '_' || c == '.' then some name
  else none

namespace Variables

/-- Puts an entry in its place in the order, over an entry of the same name. -/
def put {α : Type} (name : Text) (value : α) : List (Text × α) → List (Text × α)
  | [] => [(name, value)]
  | (n, v) :: r =>
    if n = name then (name, value) :: r
    else if Text.precedes name n then (name, value) :: (n, v) :: r
    else (n, v) :: put name value r

/-- Stores a value, over any value of the same name. -/
def insert (vs : Variables) (name value : Text) : Variables := ⟨put name value vs.entries⟩

def get? (vs : Variables) (name : Text) : Option Text :=
  (vs.entries.find? (·.1 == name)).map (·.2)

/-- Stores a setting, if it has a value. -/
def insertGlobal (vs : Variables) (name : Text) (value : Option Text) : Variables :=
  value.elim vs (vs.insert (globalHead ++ name))

/-- The variables of a list of settings. -/
def ofGlobals (settings : List (Text × Option Text)) : Variables :=
  settings.foldl (fun vs (name, value) => vs.insertGlobal name value) {}

/-- The value of a variable that has to be there. -/
def lookup (vs : Variables) (name : Text) : Except Failure Text :=
  match vs.get? name with
  | some value => .ok value
  | none => .error (.unknownVariable name)

/-- The value of a settings token; any other text is its own value. -/
def substitute (vs : Variables) (t : Text) : Except Failure Text :=
  match globalName? t with
  | some name => vs.lookup name
  | none => .ok t

end Variables

end PlainSteps
