import TypeAtlas.Json.Basic

/-!
The tools offered to other programs, each with its arguments and what they are for.
-/

namespace TypeAtlas

inductive ArgumentKind
  | text | texts | integer | boolean
  deriving DecidableEq, Repr

namespace ArgumentKind

def schema : ArgumentKind → List (Text × Json)
  | text => [("type", .text "string")]
  | texts => [("type", .text "array"), ("items", .object [("type", .text "string")])]
  | integer => [("type", .text "integer")]
  | boolean => [("type", .text "boolean")]

end ArgumentKind

structure ToolArgument where
  name : Text
  kind : ArgumentKind
  description : Text
  isRequired : Bool
  /-- null, if there is no value to fall back on -/
  default : Json

namespace ToolArgument

def needed (name : Text) (kind : ArgumentKind) (description : Text) : ToolArgument :=
  ⟨name, kind, description, true, .null⟩

def optional (name : Text) (kind : ArgumentKind) (description : Text) : ToolArgument :=
  ⟨name, kind, description, false, .null⟩

def schema (a : ToolArgument) : Json :=
  .object (a.kind.schema ++ [Json.entry "description" (.text a.description)] ++
    match a.default with
    | .null => []
    | v => [("default", v)])

end ToolArgument

inductive Tool
  | convert | parse | types | resolve
  deriving DecidableEq, Repr

namespace Tool

def all : List Tool := [convert, parse, types, resolve]

def name : Tool → Text
  | convert => "typelink_convert"
  | parse => "typelink_parse"
  | types => "typelink_types"
  | resolve => "typelink_resolve"

def ofName? (name : Text) : Option Tool := all.find? (·.name = name)

def description : Tool → Text
  | convert => "Convert C++-style type signatures (e.g. 'const QList<KWin::Window*>&') " ++
      "to TypeScript-style notation. Returns each target type with its category.".toList
  | parse => "Parse a type signature into its structure: namespace, base type, " ++
      "generic arguments, and const/pointer/reference/array flags.".toList
  | types => "List registered type mappings, optionally filtered by category."
  | resolve => "Parse a reference documentation page (file path or URL) and follow links " ++
      "to every type it uses. Returns resolution statistics and the declarations found.".toList

def configArgument : ToolArgument :=
  .optional "config" .text "Path to a JSON type mapping configuration (optional)"

def arguments : Tool → List ToolArgument
  | convert => [.needed "signatures" .texts "Type signatures to convert", configArgument]
  | parse => [.needed "signature" .text "Type signature to parse"]
  | types =>
    [.optional "category" .text "Category filter, e.g. 'primitive' or 'qt-basic' (optional)",
      configArgument]
  | resolve =>
    [.needed "document" .text "Path or URL of the seed reference page",
      .optional "primary_namespace" .text "Namespace tried for unqualified type names (optional)",
      ⟨"max_iterations", .integer, "Maximum resolution rounds (default: 50)", false, .nat 50⟩,
      ⟨"collect_enums", .boolean, "Also collect enums from linked namespace pages", false,
        .bool true⟩]

/-- The shape of the arguments. The list of required ones is left out if it is empty. -/
def schema (t : Tool) : Json :=
  let required := (t.arguments.filter (·.isRequired)).map (·.name)
  .object ([Json.entry "type" (.text "object"),
    Json.entry "properties" (.object (t.arguments.map fun a => (a.name, a.schema)))] ++
    if required.isEmpty then [] else [Json.entry "required" (.texts required)])

def toJson (t : Tool) : Json :=
  .object [("name", .text t.name), ("description", .text t.description), ("schema", t.schema)]

end Tool

end TypeAtlas
