import TypeAtlas.Signature.Parser
import TypeAtlas.Text.Case

/-!
Canonical forms of signatures, and the forms that stand in for text that is no signature.
-/

namespace TypeAtlas

/-- The text without `const`, pointer and reference marks, its blanks collapsed. -/
def cleaned (t : Text) : Text :=
  Text.collapse ((t.eraseWords ["const"]).filter fun c => c != '&' && c != '*')

/-- The text without any bracket or mark. -/
def undecorated (t : Text) : Text :=
  Text.strip (t.filter fun c => !"<>*&[]".toList.contains c)

/-- The part behind the last `::`, or all of it when that part is empty. -/
def lastName (t : Text) : Text :=
  match Text.cutLast? "::" t with
  | some (_, name) => if name.isEmpty then t else name
  | none => t

/-- A record written out between braces. -/
def isRecordLiteral (t : Text) : Bool := t.head? == some '\x7b' && t.getLast? == some '\x7d'

/-- The canonical name of a signature; text that is none is only cleaned. -/
def normalize (t : Text) : Text :=
  match parse? t with
  | some tree => tree.fullName
  | none => cleaned t

/-- The canonical name with the qualifiers of the root. -/
def canonicalSignature (t : Text) : Text :=
  match parse? t with
  | some tree => tree.signature
  | none => t.strip

def argumentNames (t : Text) : List Text :=
  match parse? t with
  | some tree => tree.arguments.map TypeTree.fullName
  | none => []

/-- The qualified name without arguments. -/
def baseName (t : Text) : Text :=
  match parse? t with
  | some tree => tree.qualifiedName
  | none => t

def isGeneric (t : Text) : Bool :=
  match parse? t with
  | some tree => tree.isGeneric
  | none => false

/-- Scope and name; text that is no signature is cut at its last `::`. -/
def splitScope (t : Text) : Option Text × Text :=
  match parse? t with
  | some tree => (tree.namespace?, tree.base)
  | none =>
    match Text.cutLast? "::" t with
    | some (scope, name) => (some scope, name)
    | none => (none, t)

/-- The page name of a class is safe where file names ignore case: a colon, an underscore and a
capital are written with an underscore in front. -/
def escapeChar (c : Char) : Text :=
  if c = ':' then "_1"
  else if c = '_' then "__"
  else if isCapital c then '_' :: lowered c
  else [c]

def escapeName (name : Text) : Text := name.flatMap escapeChar

def pageName (fullName : Text) : Text := "class" ++ escapeName fullName ++ ".html"

end TypeAtlas
