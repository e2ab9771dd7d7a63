import PlainSteps.Text

/-!
# Quoted spans

A text in double quotes is taken as it stands. A double quote behind a backslash neither opens nor
closes a span, unless the backslash itself stands behind one. `unquote?` gives the text that a
span means.
-/

namespace PlainSteps.Sentence

/-- The number of double quotes without a backslash before them; `escaped` says that a backslash
stands directly before the text. -/
def countQuotes (escaped : Bool) : Text → Nat
  | [] => 0
  | c :: r =>
    if escaped then countQuotes false r
    else if c == '\\' then countQuotes true r
    else if c == '"' then countQuotes false r + 1
    else countQuotes false r

def quoteCount (t : Text) : Nat := countQuotes false t

/-- The text behind the first double quote without a backslash before it. -/
def behindQuote (escaped : Bool) : Text → Option Text
  | [] => none
  | c :: r =>
    if !escaped && c == '"' then some r else behindQuote (!escaped && c == '\\') r

/-- The text before the last double quote without a backslash before it. -/
def beforeLastQuote (escaped : Bool) : Text → Option Text
  | [] => none
  | c :: r =>
    match beforeLastQuote (!escaped && c == '\\') r with
    | some t => some (c :: t)
    | none => if !escaped && c == '"' then some [] else none

/-- Takes the backslash away from every double quote that has one before it. -/
def unescapeQuotes : Text → Text
  | [] => []
  | [c] => [c]
  | c :: d :: r =>
    if c = '\\' ∧ d = '"' then '"' :: unescapeQuotes r else c :: unescapeQuotes (d :: r)

/-- What stands between the first and the last unescaped double quote, unescaped. -/
def unquote? (t : Text) : Option Text :=
  (behindQuote false t).bind fun rest => (beforeLastQuote false rest).map unescapeQuotes

end PlainSteps.Sentence
