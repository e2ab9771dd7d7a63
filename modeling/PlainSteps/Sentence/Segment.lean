import PlainSteps.Sentence.Term
import PlainSteps.Vocabulary

/-!
# Segments of a clause

The terms of an instruction are gathered into segments: runs of verbs, runs of nouns, and runs
that a connector word opens and that last until the next connector. A quoted span always lands in
one segment, and ends it unless a connector opened it.
-/

namespace PlainSteps.Sentence

inductive Connector where
  | with_
  | on_
  | to_
  | into_
  deriving Repr, DecidableEq, Inhabited

namespace Connector

def all : List Connector := [with_, on_, to_, into_]

def word : Connector → Text
  | with_ => "with"
  | on_ => "on"
  | to_ => "to"
  | into_ => "into"

def ofWord? (w : Text) : Option Connector := all.find? (·.word == w)

end Connector

inductive SegmentKind where
  | verb
  | noun
  | connector (k : Connector)
  deriving Repr, DecidableEq, Inhabited

/-- The segments that stand for action, object and element type. -/
def SegmentKind.isPositional : SegmentKind → Bool
  | .connector _ => false
  | _ => true

structure Segment where
  kind : SegmentKind
  words : List Text
  deriving Repr, DecidableEq, Inhabited

/-- Appends a word. A later part of a hyphenated word joins the word that ends in its hyphen. -/
def Segment.push (s : Segment) (word : Text) (hyphenated : Bool) : Segment :=
  match s.words.getLast? with
  | some last =>
    if hyphenated && last.getLast? == some '-' then
      { s with words := s.words.dropLast ++ [last ++ word] }
    else { s with words := s.words ++ [word] }
  | none => { s with words := s.words ++ [word] }

/-- Where a reading stands in its clause. -/
inductive Place where
  /-- No segment is open. -/
  | between
  /-- A segment takes words. -/
  | inside (s : Segment)
  /-- A quoted span of the segment is open. -/
  | quoted (s : Segment)
  deriving Repr, DecidableEq, Inhabited

def Place.segments : Place → List Segment
  | .between => []
  | .inside s | .quoted s => [s]

/-- What the terms read so far amount to. -/
structure Reading where
  place : Place := .between
  /-- The finished segments, in order. -/
  closed : List Segment := []
  /-- A negation has been met. -/
  negated : Bool := false
  deriving Repr, DecidableEq, Inhabited

/-- The term opens a connector segment: it is a connector word, tagged so or followed by `the`. -/
def beginsConnected (t : Term) (next : Option Term) : Bool :=
  (Connector.ofWord? t.lower).isSome &&
    (t.role == .connector || next.any fun (n : Term) => n.lower = "the")

/-- The one word that two neighbouring terms stand for. -/
def joined? (t next : Term) : Option Text :=
  if t.hasQuote || next.hasQuote || !t.post.isEmpty then none else pairWord? t.text next.text

namespace Reading

/-- All segments, the open one included. -/
def segments (r : Reading) : List Segment := r.closed ++ r.place.segments

/-- Closes the open segment and opens another. -/
def start (r : Reading) (s : Segment) : Reading :=
  { r with place := .inside s, closed := r.segments }

/-- A quoted span has ended. -/
def endQuote (r : Reading) (s : Segment) : Reading :=
  if s.kind.isPositional then { r with place := .between, closed := r.closed ++ [s] }
  else { r with place := .inside s }

/-- Takes a term with quotes outside a quoted span, in a noun or connector segment. -/
def takeQuoted (r : Reading) (t : Term) : Reading :=
  let (s, closed) : Segment × List Segment := match r.place with
    | .inside s => if s.kind = .verb then (⟨.noun, []⟩, r.segments) else (s, r.closed)
    | _ => (⟨.noun, []⟩, r.segments)
  let s := s.push t.raw t.hyphenated
  let r := { r with closed }
  if t.togglesQuote then { r with place := .quoted s } else r.endQuote s

/-- Takes a word of a role. Words other than verbs and nouns count only behind a connector. -/
def takeWord (r : Reading) (word : Text) (hyphenated : Bool) (role : Role) : Reading :=
  let begun : Reading := match role with
    | .verb => r.start ⟨.verb, [word]⟩
    | .noun => r.start ⟨.noun, [word]⟩
    | _ => r
  match r.place with
  | .inside s =>
    match s.kind, role with
    | .connector _, _ | .verb, .verb | .noun, .noun =>
      { r with place := .inside (s.push word hyphenated) }
    | _, _ => begun
  | _ => begun

/-- Takes one term, or with it the next one if the two stand for one word; the second component
says so. -/
def take (r : Reading) (t : Term) (next : Option Term) : Reading × Bool :=
  match r.place with
  | .quoted s =>
    let s := s.push t.raw t.hyphenated
    (if t.togglesQuote then r.endQuote s else { r with place := .quoted s }, false)
  | _ =>
    if t.hasQuote then (r.takeQuoted t, false)
    else if beginsConnected t next then
      match Connector.ofWord? t.lower with
      | some k => (r.start ⟨.connector k, [t.lower]⟩, false)
      | none => ({ r with place := .between, closed := r.segments }, false)
    else if t.role == .negation || t.negative then ({ r with negated := true }, false)
    else match next.bind (joined? t) with
      | some word => (r.takeWord word false .noun, true)
      | none => (r.takeWord t.raw t.hyphenated t.role, false)

/-- Takes all terms. -/
def read (r : Reading) : List Term → Reading
  | [] => r
  | [t] => (r.take t none).1
  | t :: u :: rest =>
    match r.take t (some u) with
    | (r, true) => r.read rest
    | (r, false) => r.read (u :: rest)

end Reading

end PlainSteps.Sentence
