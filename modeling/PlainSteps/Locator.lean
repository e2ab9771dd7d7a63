import PlainSteps.Backend
import PlainSteps.Vocabulary

/-!
# Locating targets

A command names its target by role and name, perhaps inside a scope. `Query.plan` makes of that a
query that no page is needed for, and `Query.resolve` asks a page for the visible element.
-/

namespace PlainSteps

/-- How the name of a target is compared with the page. -/
inductive SelectorMode where
  | label
  | dataQaId
  | id
  deriving Repr, DecidableEq, Inhabited

namespace SelectorMode

def all : List SelectorMode := [label, dataQaId, id]

def name : SelectorMode → Text
  | label => "label"
  | dataQaId => "data-qa-id"
  | id => "id"

/-- The attribute that is compared, if the mode compares one. -/
def comparedAttribute? : SelectorMode → Option Text
  | label => none
  | dataQaId => some "data-qa-id"
  | id => some "id"

end SelectorMode

/-- How a slider is marked up. -/
inductive SliderKind where
  | native
  | shadcn
  deriving Repr, DecidableEq, Inhabited

namespace SliderKind

def all : List SliderKind := [native, shadcn]

def name : SliderKind → Text
  | native => "native"
  | shadcn => "shadcn"

/-- The selector of the element inside the slider that reports its value, if it has one. -/
def thumbCss? : SliderKind → Option Text
  | native => none
  | shadcn => some "span[data-slot=slider-thumb]"

def valueAttribute : SliderKind → Text
  | native => "value"
  | shadcn => "aria-valuenow"

def minAttribute : SliderKind → Text
  | native => "min"
  | shadcn => "aria-valuemin"

def maxAttribute : SliderKind → Text
  | native => "max"
  | shadcn => "aria-valuemax"

end SliderKind

/-- The container that a target is looked for in. -/
inductive Scope where
  | titled (title : Text)
  | region (tag : Text)
  | labelled (label : Text)
  deriving Repr, DecidableEq, Inhabited

namespace Scope

/-- The container that a specifier means. -/
def ofSpecifier (specifier : Text) (isSection : Bool) : Scope :=
  if isSection || Text.contains (Text.toLower specifier) "section" then titled specifier
  else if regions.contains specifier then region specifier
  else labelled specifier

def text : Scope → Text
  | titled t | region t | labelled t => t

end Scope

inductive Query where
  /-- An attribute has a value. -/
  | byAttribute (attr value : Text)
  | byRole (role name : Text) (scope : Option Scope)
  | byLabel (name : Text) (scope : Option Scope)
  deriving Repr, DecidableEq, Inhabited

namespace Query

/-- The query for the target of a command. Modes that compare an attribute ignore the scope. -/
def plan (mode : SelectorMode) (c : Command) : Query :=
  match mode.comparedAttribute? with
  | some attr => byAttribute attr c.object
  | none =>
    let scope := c.specifier.map (Scope.ofSpecifier · c.isSection)
    if c.elementType = "generic" then byLabel c.object scope
    else byRole c.elementType c.object scope

def notFound : Query → Failure
  | byAttribute attr value => .targetNotFound ('[' :: attr ++ [']']) value none
  | byRole role name scope => .targetNotFound role name (scope.map Scope.text)
  | byLabel name scope => .targetNotFound "element labelled" name (scope.map Scope.text)

variable {σ : Type}

/-- Asks for the element inside a scope, which is not found if the scope is not. -/
def withinScope (b : Backend σ) (scope : Option Scope)
    (find : Option Handle → Session σ (Option Handle)) : Session σ (Option Handle) := do
  match scope with
  | none => find none
  | some scope =>
    let container ← match scope with
      | .titled title => b.resolveSection title
      | .region tag => b.resolveByCss tag none
      | .labelled label => b.resolveByLabel label none
    match container with
    | some c => find (some c)
    | none => return none

/-- The first element that fits, visible or not. -/
def candidate (b : Backend σ) : Query → Session σ (Option Handle)
  | byAttribute attr value => b.resolveByAttribute attr value
  | byRole role name scope => withinScope b scope (b.resolveByRole role name)
  | byLabel name scope => withinScope b scope (b.resolveByLabel name)

/-- The first element that fits, if it is visible. -/
def resolve (b : Backend σ) (q : Query) : Session σ Handle := do
  match ← q.candidate b with
  | some h => if ← b.isVisible h then return h else throw q.notFound
  | none => throw q.notFound

end Query

end PlainSteps
