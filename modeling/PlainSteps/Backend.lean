import PlainSteps.Failure

/-!
# Backends

What a run needs of a page. A backend is a record of calls on pages of some type `σ`; every call
may change the page and may fail, and a page keeps what a failed call has done to it. Looking
something up fails only if the page cannot be asked; that nothing fits is an answer.
-/

namespace PlainSteps

/-- An element of a page, as the page names it. -/
structure Handle where
  id : Text
  deriving Repr, DecidableEq, Inhabited

structure Point where
  x : Float
  y : Float
  deriving Repr, Inhabited

/-- The place and extent of an element. -/
structure Box where
  x : Float
  y : Float
  width : Float
  height : Float
  deriving Repr, Inhabited

namespace Box

def center (b : Box) : Point := ⟨b.x + b.width / 2, b.y + b.height / 2⟩

def contains (b : Box) (p : Point) : Bool :=
  p.x ≥ b.x && p.x ≤ b.x + b.width && p.y ≥ b.y && p.y ≤ b.y + b.height

end Box

/-- A computation on a page. A failure keeps the page. -/
abbrev Session (σ : Type) := ExceptT Failure (StateM σ)

structure Backend (σ : Type) where
  /-- The first element of a role whose name contains a text. -/
  resolveByRole : (role name : Text) → Option Handle → Session σ (Option Handle)
  /-- The first element with a value of an attribute. -/
  resolveByAttribute : (attr value : Text) → Session σ (Option Handle)
  /-- The first element whose label contains a text. -/
  resolveByLabel : Text → Option Handle → Session σ (Option Handle)
  /-- The first element that a simple selector picks. -/
  resolveByCss : Text → Option Handle → Session σ (Option Handle)
  /-- The first section with a heading whose name contains a text. -/
  resolveSection : Text → Session σ (Option Handle)
  isVisible : Handle → Session σ Bool
  click : Handle → Session σ Unit
  hover : Handle → Session σ Unit
  /-- Replaces the value of an element. -/
  fill : Handle → Text → Session σ Unit
  value : Handle → Session σ Text
  text : Handle → Session σ Text
  readAttribute : Handle → Text → Session σ (Option Text)
  /-- The extent of an element, if it is rendered. -/
  boundingBox : Handle → Session σ (Option Box)
  pointerMove : Point → Session σ Unit
  pointerDown : Session σ Unit
  pointerUp : Session σ Unit
  currentUrl : Session σ Text
  title : Session σ Text
  /-- Brings the page back to its first state. -/
  reload : Session σ Unit

end PlainSteps
