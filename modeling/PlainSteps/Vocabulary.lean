import PlainSteps.Command
import PlainSteps.Unicode.Lower

/-!
# The vocabulary

The words that sentences are written in: roles and their informal names, assertion verbs, regions
of a page, and pairs of words that stand for one word.
-/

namespace PlainSteps

/-- The roles that a command may target. -/
def standardRoles : List Text :=
  ["alert", "alertdialog", "application", "article", "banner", "blockquote", "button", "caption",
    "cell", "checkbox", "code", "columnheader", "combobox", "complementary", "contentinfo",
    "definition", "deletion", "dialog", "directory", "document", "emphasis", "feed", "figure",
    "form", "generic", "grid", "gridcell", "group", "heading", "img", "insertion", "link",
    "list", "listbox", "listitem", "log", "main", "marquee", "math", "meter", "menu", "menubar",
    "menuitem", "menuitemcheckbox", "menuitemradio", "navigation", "none", "note", "option",
    "paragraph", "presentation", "progressbar", "radio", "radiogroup", "region", "row",
    "rowgroup", "rowheader", "scrollbar", "search", "searchbox", "separator", "slider",
    "spinbutton", "status", "strong", "subscript", "superscript", "switch", "tab", "table",
    "tablist", "tabpanel", "term", "textbox", "time", "timer", "toolbar", "tooltip", "tree",
    "treegrid", "treeitem"].map String.toList

/-- Informal names of roles. -/
def roleSynonyms : List (Text × Text) :=
  [("input", "textbox"), ("textfield", "textbox"), ("field", "textbox"), ("textarea", "textbox"),
    ("element", "generic"), ("text", "generic"), ("div", "generic"), ("span", "generic"),
    ("dropdown", "combobox"), ("select", "combobox"), ("image", "img"), ("picture", "img"),
    ("icon", "img"), ("title", "heading"), ("header", "heading"), ("anchor", "link"),
    ("hyperlink", "link"), ("toggle", "switch"), ("range", "slider"), ("item", "listitem"),
    ("modal", "dialog"), ("popup", "dialog"), ("section", "region"), ("nav", "navigation"),
    ("navbar", "navigation")]

/-- The role that a written element type means. -/
def roleNamed? (word : Text) : Option Text :=
  let lower := Text.toLower word
  match roleSynonyms.find? (·.1 == lower) with
  | some (_, role) => some role
  | none => standardRoles.find? (· == lower)

def isStandardRole (role : Text) : Bool := standardRoles.contains role

/-- Roles whose readable content is a form value. -/
def valueRoles : List Text := ["textbox", "searchbox", "combobox", "spinbutton", "slider"]

/-- The verbs of assertions. -/
def assertionVerbs : List (Text × Assertion) :=
  [("have", .exact), ("has", .exact), ("be", .exact), ("is", .exact), ("equal", .exact),
    ("equals", .exact), ("exact", .exact), ("exactly", .exact), ("contain", .contain),
    ("contains", .contain), ("include", .contain), ("includes", .contain), ("match", .fits),
    ("matches", .fits), ("exist", .exist), ("exists", .exist), ("appear", .exist)]

/-- The assertion that a verb means. -/
def Assertion.ofVerb? (word : Text) : Option Assertion :=
  let lower := Text.toLower word
  (assertionVerbs.find? (·.1 == lower)).map (·.2)

/-- Region names that are landmark elements. -/
def regions : List Text := ["nav", "main", "header", "footer", "aside"]

/-- Informal names of regions. -/
def regionSynonyms : List (Text × Text) :=
  [("nav", "nav"), ("navbar", "nav"), ("sidebar", "nav"), ("navigation", "nav"), ("menu", "nav"),
    ("main", "main"), ("content", "main"), ("header", "header"), ("banner", "header"),
    ("footer", "footer"), ("aside", "aside")]

/-- The region that an informal name means. -/
def regionNamed? (word : Text) : Option Text :=
  (regionSynonyms.find? (·.1 == word)).map (·.2)

/-- Two words and the one word that they stand for. -/
def wordPairs : List (Text × Text × Text) :=
  [("text", "box", "textbox"), ("text", "field", "textbox"), ("text", "area", "textbox"),
    ("input", "field", "textbox"), ("check", "box", "checkbox"), ("radio", "button", "radio"),
    ("drop", "down", "combobox"), ("menu", "item", "menuitem"), ("nav", "bar", "navbar"),
    ("side", "bar", "sidebar"), ("search", "box", "searchbox"), ("list", "item", "listitem"),
    ("tab", "panel", "tabpanel"), ("progress", "bar", "progressbar"),
    ("spin", "button", "spinbutton")]

/-- The one word that two words stand for. -/
def pairWord? (first second : Text) : Option Text :=
  let first := Text.toLower first
  let second := Text.toLower second
  (wordPairs.find? fun (a, b, _) => a == first && b == second).map (·.2.2)

end PlainSteps
