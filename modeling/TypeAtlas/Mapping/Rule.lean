import TypeAtlas.Pattern.Reader
import TypeAtlas.Mapping.Template

/-!
Definitions and rules of a type mapping.
-/

namespace TypeAtlas

/-- A type, the other names it goes by, and what it is in the target notation. -/
structure Definition where
  name : Text
  target : Text
  category : Text
  description : Option Text
  aliases : List Text
  deriving DecidableEq, Repr

namespace Definition

/-- What a definition read from a configuration satisfies. -/
def IsValid (d : Definition) : Prop := d.name ≠ [] ∧ d.target ≠ [] ∧ d.category ≠ []

instance (d : Definition) : Decidable d.IsValid := inferInstanceAs (Decidable (_ ∧ _ ∧ _))

end Definition

/-- Replaces an instance of a generic type. Of the pattern only the part before the first angle is
matched: it names the generic type. -/
structure GenericRule where
  pattern : Text
  replacement : Text
  description : Option Text
  deriving DecidableEq, Repr

namespace GenericRule

def withoutAnchors (pattern : Text) : Text :=
  let pattern := if pattern.head? = some '^' then pattern.tail else pattern
  if pattern.getLast? = some '$' then pattern.dropLast else pattern

def baseText (pattern : Text) : Text := (withoutAnchors pattern).takeWhile (· ≠ '<')

def base? (r : GenericRule) : Except PatternError Pattern := Pattern.ofText (baseText r.pattern)

/-- A base that cannot be read names nothing. -/
def isNamedBy (name : Text) (base : Except PatternError Pattern) : Bool :=
  match base with
  | .ok p => p.matchesAll name
  | .error _ => false

def covers (r : GenericRule) (name : Text) : Bool := isNamedBy name r.base?

end GenericRule

/-- Maps a scope onto another one or drops it. -/
structure ScopeRule where
  source : Text
  target : Text
  isStripped : Bool
  deriving DecidableEq, Repr

inductive CustomAction
  /-- searches a pattern and fills its groups into a template -/
  | search (pattern template : Text)
  /-- replaces one exact type -/
  | equal (text replacement : Text)
  deriving DecidableEq, Repr

structure CustomRule where
  name : Text
  priority : Int
  action : CustomAction
  description : Option Text
  deriving DecidableEq, Repr

namespace CustomRule

def groups? (pattern t : Text) : Option (List (Option Text)) :=
  match Pattern.ofText pattern with
  | .ok p => p.search? t
  | .error _ => none

/-- What the rule makes of a type, if it matches. -/
def result? (r : CustomRule) (t : Text) : Option Text :=
  match r.action with
  | .search pattern template =>
    (groups? pattern t).map fun groups => substitute template (groups.map (·.getD []))
  | .equal text replacement => if t = text then some replacement else none

def fires (r : CustomRule) (t : Text) : Bool := (r.result? t).isSome

/-- Higher priorities first; rules of one priority keep their order. -/
def byPriority (rules : List CustomRule) : List CustomRule :=
  rules.mergeSort fun a b => decide (b.priority ≤ a.priority)

end CustomRule

/-- A complete type mapping. -/
structure MappingConfig where
  definitions : List Definition
  genericRules : List GenericRule
  scopeRules : List ScopeRule
  customRules : List CustomRule
  deriving DecidableEq, Repr

end TypeAtlas
