import PlainSteps.Yaml.Scalar
import PlainSteps.Yaml.Token

/-!
# Documents

The reader builds the value of a document from its tokens. An alias stands for the value of its
anchor, which has to be complete. A file holds one document; an empty file counts as a document
that was left empty.
-/

namespace PlainSteps.Yaml

/-- What is left to read, and what names and handles stand for. -/
structure Source where
  tokens : List Token
  /-- The values of anchors, the latest first. One that is not complete has none. -/
  anchors : List (Text × Option Datum) := []
  handles : List (Text × Text) := []
  deriving Repr, Inhabited

namespace Source

def next (s : Source) : Source := { s with tokens := s.tokens.tail }

def peek (s : Source) : Option Token := s.tokens.head?

def setAnchor (s : Source) (name : Option Text) (d : Option Datum) : Source :=
  name.elim s fun name => { s with anchors := (name, d) :: s.anchors }

/-- The full tag that a handle and a suffix stand for. -/
def resolveTag (s : Source) (handle suffix : Text) : Except Text Text :=
  if handle.isEmpty then .ok suffix
  else
    let defaults : List (Text × Text) := [("!", "!"), ("!!", "tag:yaml.org,2002:")]
    match (s.handles ++ defaults).find? (·.1 == handle) with
    | some (_, head) => .ok (head ++ suffix)
    | none => refuse "an unknown tag handle"

/-- Reads the anchor and the tag in front of a value, in either order. -/
def properties (s : Source) : Except Text (Option Text × Option Text × Source) := do
  let tag (h t : Text) : Except Text (Option Text) := (s.resolveTag h t).map some
  match s.tokens with
  | .anchor a :: .tag h t :: r => return (some a, ← tag h t, { s with tokens := r })
  | .tag h t :: .anchor a :: r => return (some a, ← tag h t, { s with tokens := r })
  | .anchor a :: r => return (some a, none, { s with tokens := r })
  | .tag h t :: r => return (none, ← tag h t, { s with tokens := r })
  | _ => return (none, none, s)

end Source

def empty : Datum := scalar true none []

/-- The tokens before which a value may be left out. -/
def endsBlockItem (t : Option Token) : Bool :=
  t == some .blockEntry || t == some .key || t == some .value || t == some .blockEnd

def endsBlockValue (t : Option Token) : Bool :=
  t == some .key || t == some .value || t == some .blockEnd

def endsFlowItem (t : Option Token) : Bool := t == some .flowEntry || t == some .flowListEnd

def endsFlowValue (t : Option Token) : Bool := t == some .flowEntry || t == some .flowMapEnd

mutual

/-- Reads a value. Outside brackets it may be a block; `level` allows a list at the indentation of
the map around it. -/
def node (isBlock level : Bool) : (n : Nat) → Source → Except Text (Datum × Source)
  | 0, _ => refuse "an unexpected end"
  | n + 1, s =>
    match s.peek with
    | some (.alias name) =>
      match (s.anchors.find? (·.1 == name)).bind (·.2) with
      | some d => .ok (d, s.next)
      | none => refuse "an unknown anchor"
    | _ => do
      let (anchor, tag, s) ← s.properties
      let s := s.setAnchor anchor none
      let (d, s) ← content isBlock level tag (anchor.isSome || tag.isSome) n s
      return (d, s.setAnchor anchor (some d))

/-- Reads a value behind its tag; `hasProperties` allows it to be left out. -/
def content (isBlock level : Bool) (tag : Option Text) (hasProperties : Bool) :
    (n : Nat) → Source → Except Text (Datum × Source)
  | 0, _ => refuse "an unexpected end"
  | n + 1, s => do
    let list (r : List Datum × Source) : Datum × Source := (withTag tag (.list r.1), r.2)
    let map (r : List (Datum × Datum) × Source) : Datum × Source := (withTag tag (.map r.1), r.2)
    match s.peek with
    | some (.scalar isPlain t) =>
      return (scalar isPlain (if tag == some ['!'] then none else tag) t, s.next)
    | some .flowListStart => return list (← flowList true n s.next)
    | some .flowMapStart => return map (← flowMap true n s.next)
    | t =>
      if level && t == some .blockEntry then return list (← levelList n s)
      else if isBlock && t == some .blockList then return list (← blockList n s.next)
      else if isBlock && t == some .blockMap then return map (← blockMap n s.next)
      else if hasProperties then return (scalar true tag [], s)
      else refuse "no value where one is expected"

/-- Reads the items of a list in a block of its own. -/
def blockList : (n : Nat) → Source → Except Text (List Datum × Source)
  | 0, _ => refuse "an unexpected end"
  | n + 1, s => do
    match s.peek with
    | some .blockEntry =>
      let s := s.next
      let (d, s) ← if s.peek == some .blockEntry || s.peek == some .blockEnd then pure (empty, s)
        else node true false n s
      let (r, s) ← blockList n s
      return (d :: r, s)
    | some .blockEnd => return ([], s.next)
    | _ => refuse "no item where one is expected"

/-- Reads the items of a list at the indentation of the map around it. -/
def levelList : (n : Nat) → Source → Except Text (List Datum × Source)
  | 0, _ => refuse "an unexpected end"
  | n + 1, s => do
    match s.peek with
    | some .blockEntry =>
      let s := s.next
      let (d, s) ← if endsBlockItem s.peek then pure (empty, s) else node true false n s
      let (r, s) ← levelList n s
      return (d :: r, s)
    | _ => return ([], s)

/-- Reads the entries of a map in a block. -/
def blockMap : (n : Nat) → Source → Except Text (List (Datum × Datum) × Source)
  | 0, _ => refuse "an unexpected end"
  | n + 1, s => do
    match s.peek with
    | some .key =>
      let s := s.next
      let (k, s) ← if endsBlockValue s.peek then pure (empty, s) else node true true n s
      let (d, s) ← blockValue n s
      let (r, s) ← blockMap n s
      return ((k, d) :: r, s)
    | some .blockEnd => return ([], s.next)
    | _ => refuse "no key where one is expected"

/-- Reads the value behind a key in a block; it may be left out. -/
def blockValue : (n : Nat) → Source → Except Text (Datum × Source)
  | 0, _ => refuse "an unexpected end"
  | n + 1, s =>
    if s.peek == some .value then
      let s := s.next
      if endsBlockValue s.peek then .ok (empty, s) else node true true n s
    else .ok (empty, s)

/-- Reads the items of a list between brackets; behind the first they are set apart by commas. An
item may be a map of one entry. -/
def flowList (first : Bool) : (n : Nat) → Source → Except Text (List Datum × Source)
  | 0, _ => refuse "an unexpected end"
  | n + 1, s => do
    if s.peek == some .flowListEnd then return ([], s.next)
    if !first && s.peek != some .flowEntry then refuse "no comma between items"
    let s := if first then s else s.next
    if s.peek == some .flowListEnd then return ([], s.next)
    let (d, s) ← if s.peek == some .key then pair n s.next else node false false n s
    let (r, s) ← flowList false n s
    return (d :: r, s)

/-- Reads a map of one entry inside a list, behind the mark of its key. -/
def pair : (n : Nat) → Source → Except Text (Datum × Source)
  | 0, _ => refuse "an unexpected end"
  | n + 1, s => do
    let (k, s) ← if s.peek == some .value || endsFlowItem s.peek then pure (empty, s.next)
      else node false false n s
    let (d, s) ← if s.peek != some .value then pure (empty, s)
      else if endsFlowItem s.next.peek then pure (empty, s.next)
      else node false false n s.next
    return (.map [(k, d)], s)

/-- Reads the entries of a map between braces; behind the first they are set apart by commas. -/
def flowMap (first : Bool) : (n : Nat) → Source → Except Text (List (Datum × Datum) × Source)
  | 0, _ => refuse "an unexpected end"
  | n + 1, s => do
    if s.peek == some .flowMapEnd then return ([], s.next)
    if !first && s.peek != some .flowEntry then refuse "no comma between entries"
    let s := if first then s else s.next
    if s.peek == some .flowMapEnd then return ([], s.next)
    let (entry, s) ← flowMapEntry n s
    let (r, s) ← flowMap false n s
    return (entry :: r, s)

/-- Reads an entry between braces. Without the mark of a key it has no value. -/
def flowMapEntry : (n : Nat) → Source → Except Text ((Datum × Datum) × Source)
  | 0, _ => refuse "an unexpected end"
  | n + 1, s => do
    if s.peek != some .key then
      let (k, s) ← node false false n s
      return ((k, empty), s)
    let s := s.next
    let (k, s) ← if s.peek == some .value || endsFlowValue s.peek then pure (empty, s)
      else node false false n s
    let (d, s) ← if s.peek != some .value then pure (empty, s)
      else if endsFlowValue s.next.peek then pure (empty, s.next)
      else node false false n s.next
    return ((k, d), s)

end

/-! ## Files -/

/-- Reads the directives in front of a document. -/
def directives (versioned : Bool) : (n : Nat) → Source → Except Text Source
  | 0, s => .ok s
  | n + 1, s =>
    match s.peek with
    | some (.version major minor) =>
      if versioned then refuse "a second version"
      else if major != 1 || (minor != 1 && minor != 2) then refuse "an unknown version"
      else directives true n s.next
    | some (.tagHandle handle head) =>
      if s.handles.any (·.1 == handle) then refuse "a second tag for a handle"
      else directives versioned n { s.next with handles := (handle, head) :: s.handles }
    | _ => .ok s

/-- The tokens that end the content of a document that was left empty. -/
def endsDocument (t : Option Token) : Bool :=
  match t with
  | none | some .documentStart | some .documentEnd => true
  | some (.version ..) | some (.tagHandle ..) => true
  | _ => false

def skipEnds (s : Source) : Source :=
  { s with tokens := s.tokens.dropWhile (· == .documentEnd) }

/-- Reads the documents of a file; `n` bounds their number. -/
def documents (first : Bool) : (n : Nat) → Source → Except Text (List Datum)
  | 0, _ => refuse "an unexpected end"
  | n + 1, s => do
    let fuel := 4 * s.tokens.length + 4
    let s := if first then s else skipEnds s
    if s.tokens.isEmpty then return []
    let (d, s) ← if first && !(endsDocument s.peek && s.peek != some .documentEnd) then
        node true false fuel s
      else do
        let s ← directives false fuel { s with handles := [] }
        if s.peek != some .documentStart then refuse "no mark of a document where one is expected"
        let s := s.next
        if endsDocument s.peek then pure (empty, s) else node true false fuel s
    let s := if s.peek == some .documentEnd then s.next else s
    return d :: (← documents false n { s with anchors := [] })

/-- The value of a file that holds one document. -/
def read (t : Text) : Except Text Datum := do
  let tokens ← tokens t
  match ← documents true (tokens.length + 2) { tokens } with
  | [] => return empty
  | [d] => return d
  | _ => refuse "more than one document"

end PlainSteps.Yaml
