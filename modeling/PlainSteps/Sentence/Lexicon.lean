import PlainSteps.Sentence.Term

/-!
# The lexicon

`lexicon` tags a clause by lists of words. Quoted words are nouns, the first word of a
clause is a verb unless a list says otherwise, and every other unknown word is a noun. A hyphenated
word of letters and digits becomes one term per part.
-/

namespace PlainSteps.Sentence

def verbs : List Text :=
  ["click", "hover", "fill", "ensure", "store", "slide", "have", "has", "be", "is", "equal",
    "equals", "contain", "contains", "include", "includes", "match", "matches", "exist", "exists"]

def connectors : List Text := ["with", "on", "to", "into"]

def determiners : List Text := ["the", "a", "an", "this", "that"]

def negations : List Text := ["not", "never"]

def conjunctions : List Text := ["and", "then"]

def otherWords : List Text :=
  ["of", "in", "at", "for", "from", "by", "does", "do", "should", "must", "will", "also"]

/-- The punctuation that is split off the end of a word. -/
def isTrailing (c : Char) : Bool := ['"', '.', ',', '!', '?', ';', ':'].contains c

/-- The role of a lower-cased word outside quotes. -/
def roleOf (lower : Text) (first : Bool) : Role :=
  if negations.contains lower || Text.endsWith lower "n't" then .negation
  else if verbs.contains lower then .verb
  else if connectors.contains lower then .connector
  else if determiners.contains lower then .determiner
  else if conjunctions.contains lower then .conjunction
  else if otherWords.contains lower then .other
  else if first then .verb
  else .noun

/-- A part of a word as a term. -/
def tagPart (pre part post : Text) (first quoted hyphenated : Bool) : Term :=
  let role := if quoted then .noun else roleOf (Text.toLower part) first
  { pre, text := part, post, role, hyphenated, negative := role == .negation }

/-- The parts of a hyphenated word of letters and digits; any other word whole. -/
def hyphenParts (word : Text) : List Text :=
  let parts := Text.splitWith (· == '-') word
  if parts.all (fun p => !p.isEmpty && p.all isAlphanumeric) then parts else [word]

/-- The later parts of a hyphenated word, each but the last ending in its hyphen. -/
def tagLaterParts (post : Text) (quoted : Bool) : List Text → List Term
  | [] => []
  | [p] => [tagPart [] p post false quoted true]
  | p :: q :: r => tagPart [] p ['-'] false quoted true :: tagLaterParts post quoted (q :: r)

/-- Tags the parts of one word. -/
def tagParts (pre post : Text) (first quoted : Bool) : List Text → List Term
  | [] => []
  | [p] => [tagPart pre p post first quoted false]
  | p :: q :: r => tagPart pre p ['-'] first quoted false :: tagLaterParts post quoted (q :: r)

/-- Tags one word; `quoted` says that it stands inside a quoted span or has a quote itself. -/
def tagWord (first quoted : Bool) (word : Text) : List Term :=
  let rest := word.dropWhile (· == '"')
  tagParts (word.takeWhile (· == '"')) (Text.takeEndWhile isTrailing rest) first quoted
    (hyphenParts (Text.dropEndWhile isTrailing rest))

def tagWords (first inQuote : Bool) : List Text → List Term
  | [] => []
  | w :: r =>
    let quotes := quoteCount w
    tagWord first (inQuote || quotes > 0) w ++ tagWords false (inQuote != (quotes % 2 == 1)) r

/-- Tags a clause from the word lists. -/
def lexicon (clause : Text) : List Term := tagWords true false (Text.words clause)

/-- The tagger that goes by the lexicon. -/
def Tagger.standard : Tagger := { tag := lexicon }

end PlainSteps.Sentence
