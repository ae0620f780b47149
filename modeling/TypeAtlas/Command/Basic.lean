import TypeAtlas.Command.Arguments
import TypeAtlas.Resolution.Settings

/-!
What the program can be asked to do, and how a request is written as arguments.
-/

namespace TypeAtlas

/-- Following links from one page on. -/
structure Exploration where
  document : Text
  config : Option Text
  primaryNamespace : Option Text
  roundLimit : Int
  documentRoot : Option Text
  collectsEnums : Bool
  deriving DecidableEq, Repr

inductive Command
  | convert (signatures : List Text) (config : Option Text) (asJson : Bool)
  | parse (signature : Text) (asJson : Bool)
  | types (category config : Option Text) (asJson : Bool)
  | resolve (e : Exploration) (asJson : Bool)
  deriving DecidableEq, Repr

namespace Command

def convertOf? (args : List Text) : Option Command := do
  let a ← Arguments.read? [.config, .json] args
  if a.plain.isEmpty then none
  else some (convert a.plain (a.value? .config) (a.has .json))

def parseOf? (args : List Text) : Option Command := do
  let a ← Arguments.read? [.json] args
  match a.plain with
  | [signature] => some (parse signature (a.has .json))
  | _ => none

def typesOf? (args : List Text) : Option Command := do
  let a ← Arguments.read? [.category, .config, .json] args
  if a.plain.isEmpty then some (types (a.value? .category) (a.value? .config) (a.has .json))
  else none

def resolveOf? (args : List Text) : Option Command := do
  let a ← Arguments.read? [.config, .primaryNamespace, .roundLimit, .documentRoot, .enums, .noEnums,
    .json, .verbose] args
  let roundLimit ← match a.value? .roundLimit with
    | some t => (Schema.integerIn t).toOption
    | none => some Settings.defaultRoundLimit
  match a.plain with
  | [document] =>
    some (resolve
      { document, roundLimit
        config := a.value? .config
        primaryNamespace := a.value? .primaryNamespace
        documentRoot := a.value? .documentRoot
        collectsEnums := (a.latest? .enums .noEnums).getD true }
      (a.has .json))
  | _ => none

/-- The command with a name, given its arguments. -/
def named? (name : Text) (args : List Text) : Option Command :=
  match String.ofList name with
  | "convert" => convertOf? args
  | "parse" => parseOf? args
  | "types" => typesOf? args
  | "resolve" => resolveOf? args
  | _ => none

def ofArguments? : List Text → Option Command
  | ['-', '-'] :: name :: args => named? name args
  | name :: args => named? name args
  | [] => none

end Command

end TypeAtlas
