import PlainSteps.Backend

/-!
# Scripted backends

A script makes a backend fail or answer otherwise at chosen calls. Calls of each kind are counted
from one; the first rule for a kind whose range holds the count answers, and every other call
reaches the backend.
-/

namespace PlainSteps

/-- The kinds of calls on a backend. -/
inductive Call where
  | resolveByRole
  | resolveByAttribute
  | resolveByLabel
  | resolveByCss
  | resolveSection
  | isVisible
  | click
  | hover
  | fill
  | value
  | text
  | readAttribute
  | boundingBox
  | pointerMove
  | pointerDown
  | pointerUp
  | currentUrl
  | title
  | reload
  deriving Repr, DecidableEq, Inhabited

namespace Call

def all : List Call :=
  [resolveByRole, resolveByAttribute, resolveByLabel, resolveByCss, resolveSection, isVisible,
    click, hover, fill, value, text, readAttribute, boundingBox, pointerMove, pointerDown,
    pointerUp, currentUrl, title, reload]

def name : Call → Text
  | resolveByRole => "resolve_by_role"
  | resolveByAttribute => "resolve_by_attribute"
  | resolveByLabel => "resolve_by_label"
  | resolveByCss => "resolve_by_css"
  | resolveSection => "resolve_section"
  | isVisible => "is_visible"
  | click => "click"
  | hover => "hover"
  | fill => "fill"
  | value => "value"
  | text => "text"
  | readAttribute => "attribute"
  | boundingBox => "bounding_box"
  | pointerMove => "pointer_move"
  | pointerDown => "pointer_down"
  | pointerUp => "pointer_up"
  | currentUrl => "current_url"
  | title => "title"
  | reload => "reload"

end Call

/-- What happens at some calls of a kind: they fail, or they give an answer. Calls that only act
can be made to fail, but not to answer. -/
structure Rule where
  call : Call
  first : Nat := 1
  last : Option Nat := none
  error : Option Text := none
  /-- The text, or the handle of the element, that is answered. -/
  text : Option Text := none
  visible : Bool := false
  deriving Repr, DecidableEq, Inhabited

/-- The rule is for the `n`th call of its kind. -/
def Rule.covers (r : Rule) (call : Call) (n : Nat) : Bool :=
  r.call == call && r.first ≤ n && r.last.all (n ≤ ·)

/-- A page behind a script, with the number of calls of each kind so far. -/
structure Scripted (σ : Type) where
  page : σ
  rules : List Rule := []
  counts : List (Call × Nat) := []

namespace Scripted

variable {σ α : Type}

def count (s : Scripted σ) (call : Call) : Nat :=
  ((s.counts.find? (·.1 == call)).map (·.2)).getD 0

/-- Counts one more call of a kind. -/
def tick (s : Scripted σ) (call : Call) : Scripted σ :=
  { s with counts := (call, s.count call + 1) :: s.counts.filter (·.1 != call) }

/-- Runs a computation on the page behind the script. -/
def inner (m : Session σ α) : Session (Scripted σ) α :=
  ExceptT.mk fun s =>
    let (result, page) := m.run.run s.page
    (result, { s with page })

/-- A call that a rule may answer. -/
def answered (call : Call) (answer : Rule → Option α) (m : Session σ α) :
    Session (Scripted σ) α := do
  modify (·.tick call)
  let s ← get
  match s.rules.find? (·.covers call (s.count call)) with
  | some r =>
    match r.error, answer r with
    | some message, _ => throw (.backend message)
    | none, some x => return x
    | none, none => inner m
  | none => inner m

/-- A call that a rule can only make fail. -/
def acting (call : Call) (m : Session σ Unit) : Session (Scripted σ) Unit :=
  answered call (fun _ => none) m

def resolving (call : Call) (m : Session σ (Option Handle)) :
    Session (Scripted σ) (Option Handle) :=
  answered call (fun r => some (r.text.map Handle.mk)) m

def reading (call : Call) (m : Session σ Text) : Session (Scripted σ) Text :=
  answered call (fun r => some (r.text.getD [])) m

/-- A backend behind a script. -/
def backend (b : Backend σ) : Backend (Scripted σ) where
  resolveByRole role name scope := resolving .resolveByRole (b.resolveByRole role name scope)
  resolveByAttribute name value := resolving .resolveByAttribute (b.resolveByAttribute name value)
  resolveByLabel name scope := resolving .resolveByLabel (b.resolveByLabel name scope)
  resolveByCss css scope := resolving .resolveByCss (b.resolveByCss css scope)
  resolveSection heading := resolving .resolveSection (b.resolveSection heading)
  isVisible h := answered .isVisible (fun r => some r.visible) (b.isVisible h)
  click h := acting .click (b.click h)
  hover h := acting .hover (b.hover h)
  fill h text := acting .fill (b.fill h text)
  value h := reading .value (b.value h)
  text h := reading .text (b.text h)
  readAttribute h name := answered .readAttribute (fun r => some r.text) (b.readAttribute h name)
  boundingBox h := answered .boundingBox (fun _ => some none) (b.boundingBox h)
  pointerMove place := acting .pointerMove (b.pointerMove place)
  pointerDown := acting .pointerDown b.pointerDown
  pointerUp := acting .pointerUp b.pointerUp
  currentUrl := reading .currentUrl b.currentUrl
  title := reading .title b.title
  reload := acting .reload b.reload

end Scripted

end PlainSteps
