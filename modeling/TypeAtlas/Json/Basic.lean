import TypeAtlas.Number.Binary
import TypeAtlas.Text.Quoted

/-!
JSON values. An object is the list of its entries, so that their order is part of the value.
-/

namespace TypeAtlas

inductive Json
  | null
  | bool (b : Bool)
  | int (n : Int)
  | real (x : Binary)
  | text (t : Text)
  | list (items : List Json)
  | object (entries : List (Text × Json))
  deriving Repr

namespace Json

def entry (key : Text) (v : Json) : Text × Json := (key, v)

def lookup? (key : Text) (entries : List (Text × Json)) : Option Json :=
  (entries.find? (·.1 = key)).map (·.2)

def field? (key : Text) : Json → Option Json
  | object entries => lookup? key entries
  | _ => none

/-- Sets an entry in its place, or adds it at the end. -/
def setEntry (key : Text) (value : Json) : List (Text × Json) → List (Text × Json)
  | [] => [(key, value)]
  | (k, v) :: rest => if k = key then (key, value) :: rest else (k, v) :: setEntry key value rest

def ofOption (toJson : α → Json) : Option α → Json
  | some a => toJson a
  | none => null

def ofText? : Option Text → Json := ofOption text

def texts (ts : List Text) : Json := list (ts.map text)

def nat (n : Nat) : Json := int n

/-- Whether a value counts as a yes: nothing empty, no zero, no null. -/
def isTrue : Json → Bool
  | null => false
  | bool b => b
  | int n => n ≠ 0
  | real x => x.toInt? ≠ some 0
  | text t => !t.isEmpty
  | list items => !items.isEmpty
  | object entries => !entries.isEmpty

/-- The name of a value's kind in messages. -/
def kindName : Json → Text
  | null => "NoneType"
  | bool _ => "bool"
  | int _ => "int"
  | real _ => "float"
  | text _ => "str"
  | list _ => "list"
  | object _ => "dict"

mutual
/-- A value as messages show it. -/
def shown : Json → Text
  | null => "None"
  | bool b => if b then "True" else "False"
  | int n => Text.ofInt n
  | real x => x.render
  | text t => t.quoted
  | list items => "[" ++ Text.join ", " (shownItems items) ++ "]"
  | object entries => "\x7b" ++ Text.join ", " (shownEntries entries) ++ "\x7d"

def shownItems : List Json → List Text
  | [] => []
  | v :: rest => shown v :: shownItems rest

def shownEntries : List (Text × Json) → List Text
  | [] => []
  | (k, v) :: rest => (k.quoted ++ ": " ++ shown v) :: shownEntries rest
end

/-- Like `shown`, but text stands for itself. -/
def plain : Json → Text
  | text t => t
  | v => shown v

end Json

end TypeAtlas
