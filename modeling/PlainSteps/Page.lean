import PlainSteps.Page.Element

/-!
# Pages in memory

A page is a list of elements in document order, an address, a title and a pointer. Handles name
elements by position, as `e0`, `e1` and so on. The first call that may change the document keeps a
copy of it, which `reload` brings back. `Page.backend` are the calls on a page.
-/

namespace PlainSteps

/-- What a reload brings back. -/
structure Page.Snapshot where
  elements : List Page.Element
  url : Text
  title : Text
  deriving Repr, Inhabited

structure Page where
  /-- The elements in document order. -/
  elements : List Page.Element := []
  url : Text := "about:blank"
  title : Text := []
  /-- The calls that act on the page, the latest first. -/
  calls : List Text := []
  pointer : Option Point := none
  /-- The slider that follows the pointer. -/
  grabbed : Option Nat := none
  pristine : Option Page.Snapshot := none
  deriving Repr, Inhabited

namespace Page

/-! ## The document -/

/-- The handle of the element at a position. -/
def handle (i : Nat) : Handle := ⟨'e' :: Text.ofNat i⟩

/-- Appends an element, and behind a slider of the second kind its thumb. -/
def add (p : Page) (e : Element) : Page :=
  let owner := handle p.elements.length
  let thumb : Element :=
    { tag := "span", attributes := [("data-slot", "slider-thumb")]
      parent := some owner, thumbOf := some owner }
  let isThumbed := e.slider.any (·.kind == .shadcn)
  { p with elements := p.elements ++ e :: (if isThumbed then [thumb] else []) }

/-- The calls in the order in which they were made. -/
def history (p : Page) : List Text := p.calls.reverse

/-- The number of calls that begin with a text. -/
def callCount (p : Page) (head : Text) : Nat := p.calls.countP (Text.startsWith · head)

/-- The position that a handle names. -/
def index? (p : Page) (h : Handle) : Option Nat :=
  match h.id with
  | 'e' :: digits => (Numeral.readNat? digits).filter (· < p.elements.length)
  | _ => none

def index (p : Page) (h : Handle) : Except Failure Nat :=
  match p.index? h with
  | some i => .ok i
  | none => .error (.backend ("stale element handle " ++ h.id))

/-- The element that a handle names, with its position. -/
def element (p : Page) (h : Handle) : Except Failure (Nat × Element) := do
  let i ← p.index h
  return (i, p.elements.getD i default)

def parent? (p : Page) (i : Nat) : Option Nat :=
  ((p.elements[i]?).bind (·.parent)).bind p.index?

/-- The first `n` ancestors of an element, the nearest first. -/
def ancestorsUpTo (p : Page) : (n i : Nat) → List Nat
  | 0, _ => []
  | n + 1, i =>
    match p.parent? i with
    | some j => j :: ancestorsUpTo p n j
    | none => []

/-- The elements that hold an element, the nearest first. A chain of parents without a repetition
is no longer than the page. -/
def ancestors (p : Page) (i : Nat) : List Nat := p.ancestorsUpTo p.elements.length i

def isWithin (p : Page) (i ancestor : Nat) : Bool := (p.ancestors i).contains ancestor

/-- An element and all that hold it are visible. -/
def isShown (p : Page) (i : Nat) : Bool :=
  (i :: p.ancestors i).all fun j => (p.elements[j]?).all (·.visible)

/-- The first element that fits, inside the scope if there is one. -/
def find (p : Page) (scope : Option Handle) (fits : Element → Bool) :
    Except Failure (Option Handle) := do
  let scope ← scope.mapM p.index
  let inScope (i : Nat) : Bool := scope.all (p.isWithin i)
  return (p.elements.zipIdx.find? fun (e, i) => fits e && inScope i).map fun (_, i) => handle i

/-- The first section that holds a heading whose name contains a text. -/
def findSection (p : Page) (heading : Text) : Option Handle :=
  let isHeading (e : Element) : Bool := e.role == some "heading" && containsFolded e.name heading
  let holdsHeading (i : Nat) : Bool :=
    p.elements.zipIdx.any fun (e, j) => isHeading e && p.isWithin j i
  (p.elements.zipIdx.find? fun (e, i) => e.hasTag "section" && holdsHeading i).map
    fun (_, i) => handle i

/-- The texts of an element and of what it holds, with spaces between. -/
def textOf (p : Page) (i : Nat) : Text :=
  let own := p.elements.zipIdx.filter fun (e, j) => !e.text.isEmpty && (j == i || p.isWithin j i)
  Text.unwords (own.map (·.1.text))

/-- The attributes that a slider has of itself. Those of the second kind stand on the thumb. -/
def sliderAttribute? (p : Page) (e : Element) (name : Text) : Option Text := do
  let ofThumb : Option SliderState :=
    e.thumbOf.bind fun owner => (p.index? owner).bind fun i => (p.elements[i]?).bind (·.slider)
  let (s, kind) ← match e.slider with
    | some s => if s.kind = .native then some (s, .native) else ofThumb.map (·, SliderKind.shadcn)
    | none => ofThumb.map (·, SliderKind.shadcn)
  if name = kind.valueAttribute then
    return readingText (if kind = .native then s.initial else s.value)
  else if name = kind.minAttribute then return readingText s.min
  else if name = kind.maxAttribute then return readingText s.max
  else none

/-! ## Changes -/

def updateElement (p : Page) (i : Nat) (f : Element → Element) : Page :=
  { p with elements := p.elements.modify i f }

/-- Keeps a copy of the document unless there is one. -/
def keepPristine (p : Page) : Page :=
  { p with pristine := some (p.pristine.getD ⟨p.elements, p.url, p.title⟩) }

def record (p : Page) (call : Text) : Page := { p with calls := call :: p.calls }

def applyEffect (p : Page) : Effect → Except Failure Page
  | .navigate url title => .ok { p with url, title := title.getD p.title }
  | .setText target text => do
    let i ← p.index target
    return p.updateElement i ({ · with text })
  | .setVisible target visible => do
    let i ← p.index target
    return p.updateElement i ({ · with visible })
  | .copyValue source target => do
    let (_, e) ← p.element source
    let i ← p.index target
    return p.updateElement i ({ · with text := e.value.getD [] })

/-- Applies effects in order up to the first that fails. -/
def applyEffects (p : Page) : List Effect → Page × Except Failure Unit
  | [] => (p, .ok ())
  | e :: r =>
    match p.applyEffect e with
    | .ok p => p.applyEffects r
    | .error f => (p, .error f)

/-- The pointer at a new place, with the grabbed slider behind it. -/
def movePointer (p : Page) (place : Point) : Page :=
  let follow (e : Element) : Element :=
    match e.slider, e.box with
    | some s, some b => { e with slider := some { s with value := s.valueAt b place.x } }
    | _, _ => e
  let p := { p with pointer := some place }
  p.grabbed.elim p fun i => p.updateElement i follow

/-- The first slider under the pointer. -/
def sliderUnderPointer (p : Page) : Option Nat :=
  p.pointer.bind fun at_ =>
    p.elements.findIdx? fun e => e.slider.isSome && e.box.any (·.contains at_)

/-- The document as it was before the first change, without pointer. -/
def reloaded (p : Page) : Page :=
  let p := match p.pristine with
    | some s => { p with elements := s.elements, url := s.url, title := s.title, pristine := none }
    | none => p
  { p with pointer := none, grabbed := none }

/-! ## Calls -/

/-- An answer that leaves the page as it is. -/
def ask {α : Type} (f : Page → Except Failure α) : Session Page α := do
  match f (← get) with
  | .ok x => return x
  | .error e => throw e

def change (f : Page → Page × Except Failure Unit) : Session Page Unit := do
  let (p, result) := f (← get)
  set p
  match result with
  | .ok _ => return ()
  | .error e => throw e

def click (h : Handle) : Session Page Unit := do
  let (_, e) ← ask (·.element h)
  change fun p => (p.keepPristine.record ("click:" ++ h.id)).applyEffects e.onClick

def hover (h : Handle) : Session Page Unit := do
  let (_, e) ← ask (·.element h)
  change fun p =>
    let p := p.keepPristine.record ("hover:" ++ h.id)
    { p with pointer := (e.box.map Box.center).or p.pointer }.applyEffects e.onHover

def fill (h : Handle) (text : Text) : Session Page Unit := do
  let i ← ask (·.index h)
  modify fun p =>
    (p.keepPristine.record ("fill:" ++ h.id ++ "=" ++ text)).updateElement i
      ({ · with value := some text })

/-- The calls on a page in memory. -/
def backend : Backend Page where
  resolveByRole role name scope :=
    ask (·.find scope fun e => e.role == some role && containsFolded e.name name)
  resolveByAttribute name value := ask (·.find none (·.hasAttribute name value))
  resolveByLabel name scope := ask (·.find scope fun e => e.label.any (containsFolded · name))
  resolveByCss css scope :=
    match Selector.ofText? css with
    | some s => ask (·.find scope s.fits)
    | none => throw (.backend ("unsupported selector " ++ css))
  resolveSection heading := ask fun p => .ok (p.findSection heading)
  isVisible h := ask fun p => (p.index h).map p.isShown
  click := click
  hover := hover
  fill := fill
  value h := ask fun p => (p.element h).map fun (_, e) =>
    match e.slider with
    | some s => readingText s.value
    | none => e.value.getD []
  text h := ask fun p => (p.index h).map p.textOf
  readAttribute h name := ask fun p => (p.element h).map fun (_, e) =>
    (p.sliderAttribute? e name).or (e.attributeValue? name)
  boundingBox h := ask fun p => (p.element h).map (·.2.box)
  pointerMove place := modify fun p => (p.record "pointer_move").movePointer place
  pointerDown := modify fun p =>
    let p := p.keepPristine.record "pointer_down"
    { p with grabbed := p.sliderUnderPointer }
  pointerUp := modify fun p => { p.record "pointer_up" with grabbed := none }
  currentUrl := ask fun p => .ok p.url
  title := ask fun p => .ok p.title
  reload := modify fun p => (p.record "reload").reloaded

end Page

end PlainSteps
