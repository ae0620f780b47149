import TypeAtlas.Json.Writer
import TypeAtlas.Mapping.Source
import TypeAtlas.Resolution.Session
import TypeAtlas.Signature.Canonical
import TypeAtlas.Tool.Catalog

/-!
Calling tools. An answer is JSON text with every item on a line of its own; a failure that is
expected is answered too, on one line, and any other one is passed on.
-/

namespace TypeAtlas

inductive ToolFault
  | missing (argument : Text)
  | notIterable (v : Json)
  | config (fault : ConfigFault)
  | settings (issues : List Issue)
  | page (fault : PageFault)
  | mapper (fault : MapperError)

namespace ToolFault

def message : ToolFault → Text
  | missing argument => argument.quoted
  | notIterable v => "'" ++ v.kindName ++ "' object is not iterable"
  | config fault => fault.message
  | settings issues => Issue.report Settings.title issues
  | page fault => fault.message
  | mapper fault => fault.message

/-- Whether the fault is answered. -/
def isExpected : ToolFault → Bool
  | missing _ | settings _ => true
  | notIterable _ | mapper _ => false
  | config fault =>
    match fault with
    | .notText _ => true
    | fault => fault.isExpected
  | page fault =>
    match fault with
    | .badLocation _ | .badScheme _ => true
    | fault => fault.isNamed

end ToolFault

namespace Tool

def error (message : Text) : Json := .object [("error", .text message)]

def results (items : List Json) : Json := .object [("results", .list items)]

def needed (arguments : Json) (name : Text) : Except ToolFault Json :=
  match arguments.field? name with
  | some v => .ok v
  | none => .error (.missing name)

/-- The text of an argument, if it has one. -/
def text? (arguments : Json) (name : Text) : Option Text :=
  match arguments.field? name with
  | some (.text t) => if t.isEmpty then none else some t
  | _ => none

/-- The items of a value; those of a text are its characters. -/
def items (v : Json) : Except ToolFault (List Text) :=
  match v with
  | .list items => .ok (items.map Json.plain)
  | .text t => .ok (t.map fun c => [c])
  | .object entries => .ok (entries.map (·.1))
  | v => .error (.notIterable v)

def mapper (shelf : Shelf) (arguments : Json) : Except ToolFault Mapper :=
  (Mapper.configured shelf (text? arguments "config")).mapError .config

def callConvert (shelf : Shelf) (arguments : Json) : Except ToolFault Json := do
  let signatures ← needed arguments "signatures"
  let s ← mapper shelf arguments
  return results (← (s.describeAll (← items signatures)).mapError .mapper)

def callParse (arguments : Json) : Except ToolFault Json := do
  let signature := (← needed arguments "signature").plain
  return match parse? signature with
    | some t => t.toJson
    | none => error (notParsed signature)

/-- Every definition once, in the order of the names and aliases that lead to it. -/
def definitionsByName (r : Registry) : List Definition :=
  (r.names.filterMap r.get?).foldl (fun found d =>
    if found.any (·.name = d.name) then found else found ++ [d]) []

def callTypes (shelf : Shelf) (arguments : Json) : Except ToolFault Json := do
  let r := (← mapper shelf arguments).registry
  let category := (arguments.field? "category").getD .null
  let found := if category.isTrue then r.ofCategory category.plain else definitionsByName r
  return results (found.map Definition.toJson)

/-- The settings in the arguments. A limit that is null is no limit, so it is refused. -/
def settings (arguments : Json) : Except ToolFault Settings :=
  (Settings.read (.object [
    ("max_iterations", (arguments.field? "max_iterations").getD (.nat Settings.defaultRoundLimit)),
    ("primary_namespace", (arguments.field? "primary_namespace").getD .null)])).mapError .settings

def callResolve (shelf : Shelf) (arguments : Json) : Except ToolFault Json := do
  let document := (← needed arguments "document").plain
  let guide := shelf.guide (← settings arguments) (.ofConfig .builtIn)
  let collects := ((arguments.field? "collect_enums").getD (.bool true)).isTrue
  return (← (resolveDocument guide document collects).mapError .page).summary

def run (shelf : Shelf) (arguments : Json) : Tool → Except ToolFault Json
  | convert => callConvert shelf arguments
  | parse => callParse arguments
  | types => callTypes shelf arguments
  | resolve => callResolve shelf arguments

/-- The text that answers a call by name. -/
def call (shelf : Shelf) (name : Text) (arguments : Json) : Except ToolFault Text :=
  match ofName? name with
  | none => .ok ((error ("Unknown tool: " ++ name)).pretty 0)
  | some t =>
    match t.run shelf arguments with
    | .ok v => .ok (v.pretty 0)
    | .error fault => if fault.isExpected then .ok (error fault.message).render else .error fault

end Tool

end TypeAtlas
