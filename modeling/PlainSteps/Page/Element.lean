import PlainSteps.Locator
import PlainSteps.Numeral.Decimal

/-!
# Elements of a page

An element has a place in the document by its parent, a role and a name, a text, a form value and
attributes. A slider element turns pointer positions into values. Clicking or hovering an element
may change the page by a list of effects.
-/

namespace PlainSteps.Page

/-- The state of a slider. -/
structure SliderState where
  kind : SliderKind
  min : Float
  max : Float
  /-- The distance of neighbouring values. -/
  step : Float
  value : Float
  /-- The value before any drag, which the value attribute of a native slider keeps. -/
  initial : Float
  /-- How far the pointer stands right of the position that its value belongs to. -/
  skew : Float := 0
  deriving Repr, Inhabited

/-- Brings a number into a range. -/
def clamp (x low high : Float) : Float := if x < low then low else if high < x then high else x

/-- The value at a pointer position: a whole number of steps above the least value. -/
def SliderState.valueAt (s : SliderState) (b : Box) (x : Float) : Float :=
  if b.width ≤ 0 || s.max ≤ s.min then s.min
  else
    let ratio := clamp ((x - b.x - s.skew) / b.width) 0 1
    let raw := s.min + ratio * (s.max - s.min)
    let step := if 0 < s.step then s.step else 1
    clamp (((raw - s.min) / step).round * step + s.min) s.min s.max

/-- What a click or a hover does. -/
inductive Effect where
  | navigate (url : Text) (title : Option Text)
  | setText (target : Handle) (text : Text)
  | setVisible (target : Handle) (visible : Bool)
  /-- Puts the form value of one element into the text of another. -/
  | copyValue (source target : Handle)
  deriving Repr, DecidableEq, Inhabited

structure Element where
  tag : Text
  role : Option Text := none
  name : Text := []
  label : Option Text := none
  text : Text := []
  value : Option Text := none
  attributes : List (Text × Text) := []
  /-- The element itself is visible, whatever holds it. -/
  visible : Bool := true
  parent : Option Handle := none
  box : Option Box := none
  slider : Option SliderState := none
  /-- The slider that the element is the thumb of. -/
  thumbOf : Option Handle := none
  onClick : List Effect := []
  onHover : List Effect := []
  deriving Repr, Inhabited

namespace Element

/-- Sets the label, and with it the name if there is none. -/
def withLabel (e : Element) (label : Text) : Element :=
  { e with label := some label, name := if e.name.isEmpty then label else e.name }

def withSkew (e : Element) (skew : Float) : Element :=
  { e with slider := e.slider.map ({ · with skew }) }

def attributeValue? (e : Element) (name : Text) : Option Text :=
  (e.attributes.find? (·.1 == name)).map (·.2)

def hasAttribute (e : Element) (name value : Text) : Bool := e.attributeValue? name == some value

/-- The tag, in any case of its letters. -/
def hasTag (e : Element) (tag : Text) : Bool :=
  e.tag.map Char.toLower == tag.map Char.toLower

end Element

/-- A text contains another, in any case of their letters. -/
def containsFolded (t part : Text) : Bool := Text.contains (Text.toLower t) (Text.toLower part)

/-- The text of a reading: whole numbers without a point. -/
def readingText (x : Float) : Text :=
  let x := Numeral.Double.ofFloat x
  if x.isWhole then Text.ofInt x.truncate else x.write

/-! ## Simple selectors -/

/-- A selector of the form `tag`, `[name=value]` or `tag[name=value]`. -/
structure Selector where
  tag : Option Text
  condition : Option (Text × Text)
  deriving Repr, DecidableEq, Inhabited

namespace Selector

def isTagChar (c : Char) : Bool := c.isAlphanum || c == '-'

/-- Reads a condition between brackets, without the opening one. -/
def condition? (t : Text) : Option (Text × Text) := do
  let inner ← Text.dropTail? [']'] t
  let (name, value) ← Text.splitAt? ['='] inner
  return (Text.trim name, Text.trimMatches (fun c => c == '"' || c == '\'') (Text.trim value))

def ofText? (t : Text) : Option Selector :=
  let t := Text.trim t
  let tag := t.takeWhile (· != '[')
  if !tag.all isTagChar then none
  else
    let named := if tag.isEmpty then none else some tag
    match t.dropWhile (· != '[') with
    | [] => some ⟨named, none⟩
    | _ :: rest => (condition? rest).map fun c => ⟨named, some c⟩

def fits (s : Selector) (e : Element) : Bool :=
  s.tag.all e.hasTag && s.condition.all fun (name, value) => e.hasAttribute name value

end Selector

end PlainSteps.Page
