import TypeAtlas.Location.Basic
import TypeAtlas.Page.Enumeration
import TypeAtlas.Page.Title

/-!
What a page declares. The page of a namespace gives its enumerations; any other page gives the
class it is about, if its title names one.
-/

namespace TypeAtlas

namespace Page

open Markup (Spot)

def inheritedFrom : Text := "inherited from"

/-- The class that the head of a block of inherited members names. -/
def parentOf? (header : Spot) : Option Text :=
  (Text.cut? inheritedFrom header.text).bind fun (_, rest) =>
    match (header.descendants.filter (·.isNamed "a")).getLast? with
    | some link => Parameter.someText link.text
    | none => Parameter.someText (Text.strip rest)

/-- The classes named in a sentence of the description. -/
def parentsInText (t : Text) : List Text :=
  match Text.cut? "Inherits " t with
  | some (_, c :: rest) =>
    match Text.cut? "." rest with
    | some (names, _) => ((Text.fields ',' (c :: names)).map Text.strip).filter (!·.isEmpty)
    | none => []
  | _ => []

def parents (p : Page) : List Text :=
  let headers := p.spots.filter (·.isOf "tr" "inherit_header")
  match (headers.filterMap parentOf?).eraseDups with
  | [] => parentsInText p.description
  | found => found

def abstractWords : List Text := ["abstract", "pure virtual"]

def isAbstract (p : Page) : Bool :=
  Title.endsAbstract p.title || abstractWords.any (Text.includes · p.description.lower)

/-- Joins a scope and a name. -/
def qualified (scope name : Text) : Text := if scope.isEmpty then name else scope ++ "::" ++ name

/-- The class a page is about; `onlyScripted` keeps only the methods marked for scripts. -/
def declaration? (onlyScripted : Bool) (p : Page) : Except PageFault (Option Declaration) :=
  match Title.class? p.title with
  | none => .ok none
  | some (scope, name) => do
    let kept (m : Method) : Bool := !onlyScripted || !m.decorators.isEmpty
    let outer ← p.methods "pub-methods" .everyone
    let inner ← p.methods "pro-methods" .heirs
    let slots ← p.methods "pub-slots" .everyone
    return some {
      name
      scope
      fullName := qualified scope name
      parents := p.parents
      enums := ← p.enums
      methods := (outer ++ inner).filter kept
      slots := slots.filter kept
      signals := ← p.signals
      properties := ← p.properties
      description := Parameter.someText p.description
      isAbstract := p.isAbstract }

/-- The part behind the last scope mark. -/
def baseName (fullName : Text) : Text := ((Text.cutLast? "::" fullName).map (·.2)).getD fullName

def namespace? (p : Page) : Except PageFault (Option NamespaceInfo) :=
  match Title.namespace? p.title with
  | none => .ok none
  | some fullName => do return some ⟨baseName fullName, fullName, ← p.enums⟩

end Page

/-- Where a page was found, and its links. -/
structure PageLinks where
  source : Text
  links : List (Text × Text)
  deriving DecidableEq, Repr

def Page.pageLinks (p : Page) : PageLinks := ⟨p.source, p.links⟩

/-- A page that has been read: what it declares and, where it was kept, where it leads. -/
structure ParsedPage where
  source : Text
  isNamespace : Bool
  declaration : Option Declaration
  namespaceInfo : Option NamespaceInfo
  kept : Option PageLinks
  deriving DecidableEq, Repr

def Page.parse (onlyScripted : Bool) (p : Page) : Except PageFault ParsedPage :=
  if Location.isNamespacePage p.source then do
    return ⟨p.source, true, none, ← p.namespace?, p.pageLinks⟩
  else do
    return ⟨p.source, false, ← p.declaration? onlyScripted, none, p.pageLinks⟩

end TypeAtlas
