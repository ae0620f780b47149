import TypeAtlas.Json.Basic

/-!
Types as trees: a name with its scope, generic arguments, and qualifiers. The canonical name of a
tree leaves the qualifiers out; its signature writes those of the root.
-/

namespace TypeAtlas

structure Qualifiers where
  isConst : Bool
  isPointer : Bool
  isReference : Bool
  deriving DecidableEq, Repr

namespace Qualifiers

def none : Qualifiers := ⟨false, false, false⟩

end Qualifiers

inductive TypeTree
  | mk (scope : List Text) (base : Text) (arguments : List TypeTree) (isArray : Bool)
      (qualifiers : Qualifiers)
  deriving Repr

namespace TypeTree

def scope : TypeTree → List Text
  | mk scope _ _ _ _ => scope

def base : TypeTree → Text
  | mk _ base _ _ _ => base

def arguments : TypeTree → List TypeTree
  | mk _ _ arguments _ _ => arguments

def isArray : TypeTree → Bool
  | mk _ _ _ isArray _ => isArray

def qualifiers : TypeTree → Qualifiers
  | mk _ _ _ _ qualifiers => qualifiers

def isGeneric (t : TypeTree) : Bool := !t.arguments.isEmpty

/-- The outer names as written before the base name. -/
def namespace? (t : TypeTree) : Option Text :=
  if t.scope.isEmpty then none else some (Text.join "::" t.scope)

def qualifiedName (t : TypeTree) : Text := Text.join "::" (t.scope ++ [t.base])

def arraySuffix : Text := "[]"

def suffixed (name : Text) (isArray : Bool) : Text := if isArray then name ++ arraySuffix else name

mutual
/-- The canonical name: scope, base, arguments and array suffix. -/
def fullName : TypeTree → Text
  | mk scope base arguments isArray _ =>
    let name := Text.join "::" (scope ++ [base])
    suffixed (if arguments.isEmpty then name
      else name ++ "<" ++ Text.join ", " (fullNames arguments) ++ ">") isArray

def fullNames : List TypeTree → List Text
  | [] => []
  | t :: ts => fullName t :: fullNames ts
end

/-- The canonical name with the qualifiers of the root written around it. -/
def signature (t : TypeTree) : Text :=
  Text.onlyIf t.qualifiers.isConst "const " ++ t.fullName ++
    Text.onlyIf t.qualifiers.isPointer "*" ++ Text.onlyIf t.qualifiers.isReference "&"

mutual
def toJson : TypeTree → Json
  | mk scope base arguments isArray qualifiers =>
    let t := mk scope base arguments isArray qualifiers
    .object [
      ("base_type", .text base),
      ("namespace", .ofText? t.namespace?),
      ("template_args", .list (allToJson arguments)),
      ("is_const", .bool qualifiers.isConst),
      ("is_pointer", .bool qualifiers.isPointer),
      ("is_reference", .bool qualifiers.isReference),
      ("is_array", .bool isArray),
      ("full_name", .text t.fullName)]

def allToJson : List TypeTree → List Json
  | [] => []
  | t :: ts => toJson t :: allToJson ts
end

mutual
/-- The nodes, each before its arguments. -/
def walk : TypeTree → List TypeTree
  | mk scope base arguments isArray qualifiers =>
    mk scope base arguments isArray qualifiers :: walkAll arguments

def walkAll : List TypeTree → List TypeTree
  | [] => []
  | t :: ts => walk t ++ walkAll ts
end

mutual
/-- The tree with no qualifier at any node. -/
def bare : TypeTree → TypeTree
  | mk scope base arguments isArray _ => mk scope base (bareAll arguments) isArray .none

def bareAll : List TypeTree → List TypeTree
  | [] => []
  | t :: ts => bare t :: bareAll ts
end

theorem fullNames_eq_map (ts : List TypeTree) : fullNames ts = ts.map fullName := by
  induction ts <;> simp_all [fullNames]

theorem walkAll_eq_flatMap (ts : List TypeTree) : walkAll ts = ts.flatMap walk := by
  induction ts <;> simp_all [walkAll]

theorem bareAll_eq_map (ts : List TypeTree) : bareAll ts = ts.map bare := by
  induction ts <;> simp_all [bareAll]

end TypeTree

end TypeAtlas
