import TypeAtlas.Declaration.Basic
import TypeAtlas.Mapping.Registry
import TypeAtlas.Store.Names

/-!
The types a declaration refers to, and the links that lead to their pages.
-/

namespace TypeAtlas

/-- A type named by a signature that the registry does not account for. -/
structure Reference where
  name : Text
  fullName : Text
  scope : Option Text
  deriving DecidableEq, Repr

namespace Reference

/-- A name that is no signature is cut at its last scope mark. -/
def ofName (t : Text) : Reference :=
  match Text.cutLast? "::" t with
  | some (scope, name) => ⟨name, t, if scope.isEmpty then none else some scope⟩
  | none => ⟨t, t, none⟩

def ofTree (t : TypeTree) : Reference := ⟨t.base, t.qualifiedName, t.namespace?⟩

def withoutSuffix (t : Text) : Text :=
  if Text.endsWith TypeTree.arraySuffix t then t.take (t.length - TypeTree.arraySuffix.length) else t

/-- The references of text that is no signature. -/
def ofOther (r : Registry) (t : Text) : List Reference :=
  let base := Text.strip (withoutSuffix t)
  if base.isEmpty || r.isBuiltin base then [] else [ofName base]

/-- The references of a type, its arguments read up to `depth` levels down. -/
def allFrom (r : Registry) : Nat → Text → List Reference
  | 0, _ => []
  | depth + 1, t =>
    let clean := cleaned t
    if clean.isEmpty || isRecordLiteral clean then []
    else match parse? clean with
      | none => ofOther r clean
      | some tree =>
        (if r.isBuiltin tree.fullName then [] else [ofTree tree]) ++
          tree.arguments.flatMap fun a => allFrom r depth a.fullName

/-- The references of a type. Types are nested less deeply than they are long. -/
def all (r : Registry) (t : Text) : List Reference := allFrom r (t.length + 1) t

end Reference

/-- Where a declaration names a type. -/
inductive Usage
  | property | parameter | result | signalParameter | parent
  deriving DecidableEq, Repr

namespace Usage

def word : Usage → Text
  | property => "property"
  | parameter => "method_param"
  | result => "method_return"
  | signalParameter => "signal_param"
  | parent => "inheritance"

def all : List Usage := [property, parameter, result, signalParameter, parent]

def ofWord? (t : Text) : Option Usage := all.find? (·.word = t)

end Usage

structure Dependency where
  name : Text
  fullName : Text
  source : Text
  usage : Usage
  scope : Option Text
  link : Option Text
  deriving DecidableEq, Repr

def Method.uses (m : Method) : List (Text × Usage) :=
  (m.result, .result) :: m.parameters.map fun p => (p.type, .parameter)

/-- The types of a declaration: its parents, its properties, its methods and slots, and what its
signals pass. -/
def Declaration.uses (d : Declaration) : List (Text × Usage) :=
  d.parents.map (fun t => (t, .parent)) ++ d.properties.map (fun p => (p.type, .property)) ++
    (d.methods ++ d.slots).flatMap Method.uses ++
    (d.signals.flatMap (·.parameters)).map fun p => (p.type, .signalParameter)

namespace Dependency

def ofReference (source : Text) (usage : Usage) (r : Reference) : Dependency :=
  ⟨r.name, r.fullName, source, usage, r.scope, none⟩

/-- The dependencies whose full name did not come before. -/
def distinctFrom (seen : List Text) : List Dependency → List Dependency
  | [] => []
  | d :: ds =>
    if d.fullName ∈ seen then distinctFrom seen ds
    else d :: distinctFrom (d.fullName :: seen) ds

/-- All types a declaration refers to, one dependency for each full name. -/
def ofDeclaration (r : Registry) (source : Text) (d : Declaration) : List Dependency :=
  distinctFrom [] (d.uses.flatMap fun (t, usage) =>
    (Reference.all r t).map (ofReference source usage))

end Dependency

/-- Links by their text. -/
abbrev LinkTable := Keyed Text Text

namespace LinkTable

/-- A link goes by its whole text and by the last name in it. -/
def add (t : LinkTable) (text target : Text) : LinkTable :=
  let whole := Text.collapse text
  let last := lastName whole
  let t := t.set whole target
  if last.isEmpty || last = whole then t else t.set last target

def ofLinks (links : List (Text × Text)) : LinkTable :=
  links.foldl (fun t (text, target) => add t text target) .empty

end LinkTable

namespace Dependency

def someName : Option Text → List Text
  | some t => if t.isEmpty then [] else [t]
  | none => []

/-- The texts a link to the type may have, the best one first. -/
def linkTexts (primary : Option Text) (d : Dependency) : List Text :=
  [d.fullName, d.name] ++
    (someName primary ++ someName d.scope).map (fun scope => scope ++ "::" ++ d.name) ++
    [Text.replaceAll "." "::" d.fullName, Text.replaceAll "::" "." d.fullName]

/-- An empty link leads nowhere. -/
def linkIn? (t : LinkTable) (text : Text) : Option Text :=
  (t.get? text).bind fun target => if target.isEmpty then none else some target

def linkTo? (primary : Option Text) (t : LinkTable) (d : Dependency) : Option Text :=
  (d.linkTexts primary).findSome? (linkIn? t)

def attach (primary : Option Text) (t : LinkTable) (d : Dependency) : Dependency :=
  { d with link := d.linkTo? primary t <|> d.link }

def isLinked (d : Dependency) : Bool := !(d.link.getD []).isEmpty

end Dependency

end TypeAtlas
