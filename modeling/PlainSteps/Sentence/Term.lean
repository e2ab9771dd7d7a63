import PlainSteps.Sentence.Quoted
import PlainSteps.Unicode.Lower

/-!
# Terms

A clause is tagged into terms: words with the punctuation around them, a coarse grammatical role
and two flags. `instructions` cuts a list of terms where a conjunction outside quotes joins two
instructions. A tagger makes terms of a clause, and may cut them in another way.
-/

namespace PlainSteps.Sentence

inductive Role where
  | verb
  | noun
  | connector
  | determiner
  | negation
  | conjunction
  | other
  deriving Repr, DecidableEq, Inhabited

structure Term where
  /-- Punctuation in front, such as opening quotes. -/
  pre : Text := []
  /-- The word itself. -/
  text : Text
  /-- Punctuation behind, such as closing quotes, full stops and hyphens. -/
  post : Text := []
  role : Role
  /-- A later part of a hyphenated word. -/
  hyphenated : Bool := false
  /-- The word negates its assertion. -/
  negative : Bool := false
  deriving Repr, DecidableEq, Inhabited

namespace Term

/-- The word as written. -/
def raw (t : Term) : Text := t.pre ++ t.text ++ t.post

def lower (t : Term) : Text := Text.toLower t.text

def hasQuote (t : Term) : Bool := quoteCount t.raw > 0

/-- The term opens or closes a quoted span. -/
def togglesQuote (t : Term) : Bool := quoteCount t.raw % 2 == 1

end Term

/-- Puts a term in front of the first part. -/
def consPart (t : Term) : List (List Term) → List (List Term)
  | [] => [[t]]
  | p :: ps => (t :: p) :: ps

/-- The terms between the conjunctions outside quotes that stand directly before a verb. -/
def rawParts (inQuote : Bool) : List Term → List (List Term)
  | [] => [[]]
  | t :: r =>
    let rest := rawParts (inQuote != t.togglesQuote) r
    if !inQuote && t.role == .conjunction && r.head?.any (·.role == .verb) then [] :: rest
    else consPart t rest

/-- Drops the conjunctions at the end of a part. -/
def dropTrailingConjunctions (p : List Term) : List Term :=
  (p.reverse.dropWhile (·.role == .conjunction)).reverse

/-- The instructions that a list of terms holds. -/
def instructions (terms : List Term) : List (List Term) :=
  ((rawParts false terms).map dropTrailingConjunctions).filter (!·.isEmpty)

structure Tagger where
  /-- The terms of a clause. -/
  tag : Text → List Term
  /-- The instructions that the terms of a clause hold. -/
  split : List Term → List (List Term) := instructions

end PlainSteps.Sentence
