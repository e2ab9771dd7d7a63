import PlainSteps.Text

/-!
# Regular expressions

An engine reads texts as regular expressions, or says why they are none. A regular expression is
known by its text and by the texts in which it matches; nothing else is asked of an engine, and no
engine is chosen here.
-/

namespace PlainSteps

structure Regex where
  source : Text
  /-- Some part of the text matches. -/
  isMatch : Text → Bool
  deriving Inhabited

namespace Regex

class Engine where
  /-- The regular expression of a text, or why it is none. -/
  compile : Text → Except Text Regex
  source_of_compile {source : Text} {r : Regex} : compile source = .ok r → r.source = source

export Engine (compile source_of_compile)

/-- The text is a regular expression. -/
def compiles [Engine] (source : Text) : Bool := (compile source).isOk

/-- The characters that have a meaning of their own. -/
def isMeta (c : Char) : Bool := "\\.+*?()|[]\x7b\x7d^$#&-~".toList.contains c

/-- Puts a backslash before every character with a meaning of its own. -/
def escape (t : Text) : Text := t.flatMap fun c => if isMeta c then ['\\', c] else [c]

end Regex

end PlainSteps
