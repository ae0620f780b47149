import TypeAtlas.Mapping.Config
import TypeAtlas.Signature.Canonical
import TypeAtlas.Store.Keyed

/-!
Definitions by name and alias, and the rules beside them. An alias leads to the definition that
claimed it last; a definition that is replaced gives up the aliases that still lead to it. Answers
that need a generic rule are written over any way to find it, so that one step serves those that
remember and those that do not.
-/

namespace TypeAtlas

structure Registry where
  definitions : Keyed Text Definition
  aliases : Keyed Text Text
  genericRules : List GenericRule
  scopeRules : List ScopeRule
  customRules : List CustomRule

namespace Registry

def empty : Registry := ⟨.empty, .empty, [], [], []⟩

instance : Inhabited Registry := ⟨empty⟩

/-- The aliases without those of `d` that still lead to it. -/
def released (aliases : Keyed Text Text) (d : Definition) : Keyed Text Text :=
  d.aliases.foldl (fun known a => if known.get? a = some d.name then known.erase a else known) aliases

def claimed (aliases : Keyed Text Text) (d : Definition) : Keyed Text Text :=
  d.aliases.foldl (fun known a => known.set a d.name) aliases

/-- The registry with a definition added, or replaced in its place. -/
def register (r : Registry) (d : Definition) : Registry :=
  let free := match r.definitions.get? d.name with
    | some previous => released r.aliases previous
    | none => r.aliases
  { r with definitions := r.definitions.set d.name d, aliases := claimed free d }

def addRule (r : Registry) (rule : CustomRule) : Registry :=
  { r with customRules := CustomRule.byPriority (r.customRules ++ [rule]) }

/-- The registry of a configuration. -/
def ofConfig (c : MappingConfig) : Registry :=
  { c.definitions.foldl register empty with
    genericRules := c.genericRules
    scopeRules := c.scopeRules
    customRules := CustomRule.byPriority c.customRules }

/-- The configuration that holds the present definitions and rules. -/
def toConfig (r : Registry) : MappingConfig :=
  ⟨r.definitions.values, r.genericRules, r.scopeRules, r.customRules⟩

/-- The name an alias leads to; any other name leads to itself. -/
def owner (r : Registry) (name : Text) : Text := (r.aliases.get? name).getD name

def get? (r : Registry) (name : Text) : Option Definition := r.definitions.get? (r.owner name)

def has (r : Registry) (name : Text) : Bool := r.definitions.contains (r.owner name)

def ofCategory (r : Registry) (category : Text) : List Definition :=
  r.definitions.values.filter (·.category = category)

/-- Names and aliases in order. -/
def names (r : Registry) : List Text := Text.sortedSet (r.definitions.keys ++ r.aliases.keys)

/-- Every name and alias that leads to a definition, with the target it leads to. -/
def targets (r : Registry) : List (Text × Text) :=
  r.names.filterMap fun name => (r.get? name).map fun d => (name, d.target)

/-- The first rule for a generic type, found by its base name with or without its scope. -/
def genericRule? (r : Registry) (t : TypeTree) : Option GenericRule :=
  if t.isGeneric then r.genericRules.find? fun rule => rule.covers t.base || rule.covers t.qualifiedName
  else none

def scopeRule? (r : Registry) (scope : Text) : Option ScopeRule :=
  r.scopeRules.find? (·.source = scope)

variable {m : Type → Type} [Monad m]

/-- Whether a rule or a definition accounts for a type; `ruleFor` finds the rule. -/
def hasTreeStep (r : Registry) (ruleFor : TypeTree → m (Option GenericRule)) (t : TypeTree) :
    m Bool := do
  return (← ruleFor t).isSome || r.has t.qualifiedName || r.has t.base

def isBuiltinStep (r : Registry) (ruleFor : TypeTree → m (Option GenericRule)) (t : Text) :
    m Bool :=
  match parse? t with
  | some tree => r.hasTreeStep ruleFor tree
  | none => pure (r.has (undecorated (cleaned t)))

/-- Whether the registry itself accounts for a type. Qualifiers, array suffix and arguments do not
matter. -/
def isBuiltin (r : Registry) (t : Text) : Bool :=
  Id.run (r.isBuiltinStep (fun tree => pure (r.genericRule? tree)) t)

end Registry

end TypeAtlas
