import TypeAtlas.Mapping.Registry

/-!
Conversion of signatures into the target notation. The first custom rule that fires decides; then
the rules for generic types, the rules for scopes, and the definitions. The step is written over
any way to find a generic rule and to convert the arguments, so that one step serves plain and
remembered conversion.
-/

namespace TypeAtlas

namespace Registry

/-- The base name under its scope in the target notation, without arguments or suffix. -/
def mappedBase (r : Registry) (t : TypeTree) : Text :=
  match t.namespace? with
  | none => t.base
  | some scope =>
    match r.scopeRule? scope with
    | none => Text.replaceAll "::" "." scope ++ "." ++ t.base
    | some rule =>
      if rule.isStripped || rule.target.isEmpty then t.base else rule.target ++ "." ++ t.base

/-- A generic type of the target notation. -/
def applied (r : Registry) (t : TypeTree) (args : List Text) : Text :=
  r.mappedBase t ++ "<" ++ Text.join ", " args ++ ">"

/-- A generic type, given the rule for it and what its arguments became. -/
def generic (r : Registry) (t : TypeTree) (rule? : Option GenericRule) (args : List Text) : Text :=
  TypeTree.suffixed (match rule? with
    | some rule => substitute rule.replacement args
    | none => r.applied t args) t.isArray

def element? (r : Registry) (name : Text) : Option Definition :=
  if Text.endsWith TypeTree.arraySuffix name then r.get? (Text.strip (name.take (name.length - 2)))
  else none

/-- What stands for a type of which nothing is left. -/
def fallback : Text := "any"

/-- The target of a name, or of the elements of an array; other names stay. -/
def lookup (r : Registry) (name : Text) : Text :=
  match r.get? name <|> r.get? (Text.collapse name) with
  | some d => d.target
  | none =>
    match r.element? name with
    | some d => d.target ++ TypeTree.arraySuffix
    | none => if name.isEmpty then fallback else name

/-- A converted generic type, given what its arguments became: containers of the target notation
keep their own forms. -/
def container (r : Registry) (t : TypeTree) (args : List Text) : Text :=
  let name := if t.namespace?.isSome then [] else t.base
  TypeTree.suffixed (match args with
    | a :: b :: rest =>
      if name = "Array".toList then a ++ "[]"
      else if name = "Map".toList then "Map<" ++ a ++ ", " ++ b ++ ">"
      else if name = "Set".toList then "Set<" ++ a ++ ">"
      else r.applied t (a :: b :: rest)
    | [a] =>
      if name = "Array".toList then a ++ "[]"
      else if name = "Set".toList then "Set<" ++ a ++ ">"
      else r.applied t [a]
    | [] => r.applied t []) t.isArray

variable {m : Type → Type} [Monad m]

def convertArguments (again : Text → m Text) (t : TypeTree) : m (List Text) :=
  t.arguments.mapM fun a => again a.fullName

/-- Converts the arguments of a type that is otherwise converted already. -/
def resolveGenericsStep (r : Registry) (again : Text → m Text) (t : Text) : m Text :=
  match parse? t with
  | some tree =>
    if tree.isGeneric then do
      return r.container tree (← convertArguments again tree)
    else pure t
  | none => pure t

/-- Conversion of a cleaned type that no custom rule fires on. -/
def convertCleaned (r : Registry) (ruleFor : TypeTree → m (Option GenericRule))
    (again : Text → m Text) (clean : Text) : m Text :=
  match parse? clean with
  | some tree =>
    if tree.isGeneric then do
      let args ← convertArguments again tree
      return r.generic tree (← ruleFor tree) args
    else if tree.namespace?.isSome then pure (TypeTree.suffixed (r.mappedBase tree) tree.isArray)
    else pure (r.lookup clean)
  | none => pure (r.lookup clean)

/-- What the first custom rule that fires makes of a cleaned type. -/
def customResult? (r : Registry) (clean : Text) : Option Text :=
  r.customRules.findSome? (·.result? clean)

/-- One step of a conversion; `ruleFor` finds generic rules and `again` converts the arguments. -/
def convertStep (r : Registry) (ruleFor : TypeTree → m (Option GenericRule))
    (again : Text → m Text) (raw : Text) : m Text :=
  let clean := normalize raw
  match r.customResult? clean with
  | some t => r.resolveGenericsStep again t
  | none => r.convertCleaned ruleFor again clean

/-- Conversion through at most `depth` nested steps. -/
def convert (r : Registry) : Nat → Text → Option Text
  | 0, _ => none
  | depth + 1, raw => r.convertStep (fun t => pure (r.genericRule? t)) (r.convert depth) raw

def resolveGenerics (r : Registry) (depth : Nat) (t : Text) : Option Text :=
  r.resolveGenericsStep (r.convert depth) t

/-- Whether some rule or definition applies. -/
def canConvertStep (r : Registry) (ruleFor : TypeTree → m (Option GenericRule)) (raw : Text) :
    m Bool :=
  let clean := normalize raw
  if (r.customResult? clean).isSome then pure true
  else match parse? clean with
    | some tree => r.hasTreeStep ruleFor tree
    | none => pure (r.has clean || r.has (Text.collapse clean))

def canConvert (r : Registry) (raw : Text) : Bool :=
  Id.run (r.canConvertStep (fun t => pure (r.genericRule? t)) raw)

def definitionOf? (r : Registry) (raw : Text) : Option Definition :=
  let clean := normalize raw
  match r.get? clean with
  | some d => some d
  | none => (parse? clean).bind fun tree => r.get? tree.qualifiedName

end Registry

end TypeAtlas
