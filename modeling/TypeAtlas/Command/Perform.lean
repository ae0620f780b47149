import TypeAtlas.Command.Basic
import TypeAtlas.Command.Fault
import TypeAtlas.Console.Grid
import TypeAtlas.Json.Writer
import TypeAtlas.Mapping.Source
import TypeAtlas.Resolution.Session
import TypeAtlas.Signature.Canonical

/-!
Doing what was asked and printing the answer, as JSON on one line or as styled text. Failures that
can be explained are printed; any other one is passed on.
-/

namespace TypeAtlas

namespace Qualifiers

/-- The words for what is said about a type beside its name. -/
def words (q : Qualifiers) (isArray : Bool) : List Text :=
  ([("const", q.isConst), ("pointer", q.isPointer), ("reference", q.isReference),
    ("array", isArray)] : List (Text × Bool)).filterMap fun (word, holds) =>
      match holds with
      | true => some word
      | false => Option.none

/-- The words in brackets that are no tag. -/
def styled (q : Qualifiers) (isArray : Bool) : Text :=
  let words := q.words isArray
  if words.isEmpty then ([] : Text) else "[yellow]\\[" ++ Text.join ", " words ++ "][/]"

end Qualifiers

namespace TypeTree

def styledLabel (t : TypeTree) : Text :=
  let scope : Text := match t.namespace? with
    | some scope => " [dim]in " ++ scope ++ "[/]"
    | none => []
  "[cyan]" ++ t.base ++ "[/cyan]" ++ scope ++ " " ++ t.qualifiers.styled t.isArray

mutual
/-- A line for each node, drawn below `lead`. -/
def branchLines (lead : Text) (isLast : Bool) : TypeTree → List Text
  | mk scope base arguments isArray qualifiers =>
    (lead ++ (if isLast then "└── ".toList else "├── ".toList) ++
        (mk scope base arguments isArray qualifiers).styledLabel) ::
      allBranchLines (lead ++ if isLast then "    ".toList else "│   ".toList) arguments

def allBranchLines (lead : Text) : List TypeTree → List Text
  | [] => []
  | t :: ts => branchLines lead ts.isEmpty t ++ allBranchLines lead ts
end

/-- A heading with the canonical name, and the tree below. -/
def styledLines (t : TypeTree) : List Text :=
  ("[bold]" ++ t.fullName ++ "[/bold]") :: branchLines [] true t

end TypeTree

namespace TypeInfo

def styledLine (raw : Text) (i : TypeInfo) : Text :=
  "[cyan]" ++ raw ++ "[/cyan] -> [green]" ++ i.target ++ "[/green]" ++
    Text.onlyIf (!i.canConvert) " [dim](passthrough)[/]"

end TypeInfo

namespace Definition

def cells (d : Definition) : List Text := [d.name, d.target, d.category, Text.join ", " d.aliases]

end Definition

/-- The definitions of a category, or all of them. -/
def Registry.inCategory (r : Registry) (category : Text) : List Definition :=
  if category.isEmpty then r.definitions.values else r.ofCategory category

namespace Declaration

def styledLines (name : Text) (d : Declaration) : List Text :=
  let parents : Text := if d.parents.isEmpty then []
    else " [dim]: " ++ Text.join ", " d.parents ++ "[/]"
  ["[cyan]" ++ name ++ "[/cyan]" ++ parents,
    "  " ++ Text.ofNat d.methods.length ++ " methods, " ++ Text.ofNat d.slots.length ++ " slots, " ++
      Text.ofNat d.signals.length ++ " signals, " ++ Text.ofNat d.properties.length ++ " properties"]

end Declaration

namespace SessionResult

def styledCounts (r : SessionResult) : List Text :=
  let s := r.stats
  let counted (n : Nat) (line : Text) : List Text := if n = 0 then [] else [line]
  (["[green]Done![/green]",
    "  Resolved: " ++ Text.ofNat s.resolved,
    "  Rounds: " ++ Text.ofNat s.rounds] : List Text) ++
    counted s.unresolved ("  [yellow]Unresolved: " ++ Text.ofNat s.unresolved ++ "[/yellow]") ++
    counted s.circular ("  [yellow]Circular: " ++ Text.join ", " r.circular ++ "[/]") ++
    counted s.deferred ("  [dim]Namespace pages: " ++ Text.ofNat s.deferred ++ "[/]") ++
    counted r.enumsAdded ("  [dim]Namespace enums: " ++ Text.ofNat r.enumsAdded ++ "[/]")

/-- The declarations in the order of their names, after an empty line. -/
def styledDeclarations (r : SessionResult) : List Text :=
  let found := r.repository.declarations.entries
  if found.isEmpty then []
  else [] :: (found.mergeSort fun a b => Text.le a.1 b.1).flatMap fun (name, d) => d.styledLines name

def styledLines (r : SessionResult) (roundLimit : Int) : List Text :=
  r.styledCounts ++
    (if r.stats.isCapped then
      (["  [red]Stopped after " ++ Text.ofInt roundLimit ++ " rounds with work left[/red]"] : List Text)
    else []) ++
    r.styledDeclarations

end SessionResult

namespace Exploration

/-- The settings of an exploration, or what is wrong with them. -/
def settings (e : Exploration) : Except (List Issue) Settings :=
  Settings.read (.object [("max_iterations", .int e.roundLimit),
    ("primary_namespace", .ofText? e.primaryNamespace),
    ("document_root", .ofText? e.documentRoot)])

end Exploration

/-- A program on a console that ends with a command's fault, if with any. -/
abbrev CommandScreen := Screen CommandFault

namespace CommandScreen

def printJson (v : Json) : CommandScreen Unit := Screen.print v.render

def printAllStyled (lines : List Text) : CommandScreen Unit := lines.forM Screen.printStyled

/-- The mapper for a configuration file, or for none. -/
def mapperFor (shelf : Shelf) (config : Option Text) : CommandScreen Mapper :=
  match Mapper.configured shelf config with
  | .ok s => pure s
  | .error fault => if fault.isExpected then Screen.fail fault.message else Screen.crash (.config fault)

def printConversions (s : Mapper) : List Text → CommandScreen Unit
  | [] => pure ()
  | raw :: rest =>
    match s.typeInfo raw with
    | .ok (info, s) => do
      Screen.printStyled (info.styledLine raw)
      printConversions s rest
    | .error fault => Screen.crash (.mapper fault)

def convert (shelf : Shelf) (signatures : List Text) (config : Option Text) (asJson : Bool) :
    CommandScreen Unit := do
  let s ← mapperFor shelf config
  if asJson then
    match s.describeAll signatures with
    | .ok found => printJson (.list found)
    | .error fault => Screen.crash (.mapper fault)
  else printConversions s signatures

def parse (signature : Text) (asJson : Bool) : CommandScreen Unit :=
  match parse? signature with
  | none => Screen.fail (notParsed signature)
  | some t => if asJson then printJson t.toJson else printAllStyled t.styledLines

def types (shelf : Shelf) (category config : Option Text) (asJson : Bool) : CommandScreen Unit := do
  let s ← mapperFor shelf config
  let category := category.getD []
  let found := s.registry.inCategory category
  if asJson then printJson (.list (found.map Definition.toJson))
  else if found.isEmpty then
    Screen.printStyled ("No types in category '[cyan]" ++ category ++ "[/cyan]'")
  else
    Screen.printGrid ⟨["Name", "Target", "Category", "Aliases"], found.map Definition.cells⟩

def resolve (shelf : Shelf) (e : Exploration) (asJson : Bool) : CommandScreen Unit := do
  let settings ← match e.settings with
    | .ok settings => pure settings
    | .error issues => Screen.fail (Issue.report Settings.title issues)
  let s ← mapperFor shelf e.config
  match resolveDocument (shelf.guide settings s.registry) e.document e.collectsEnums with
  | .ok r => if asJson then printJson r.summary else printAllStyled (r.styledLines e.roundLimit)
  | .error fault => if fault.isNamed then Screen.fail fault.message else Screen.crash (.page fault)

end CommandScreen

/-- The locations that an exploration asks for. -/
def Exploration.locations (shelf : Shelf) (e : Exploration) : List Text :=
  match e.settings, Mapper.configured shelf e.config with
  | .ok settings, .ok s =>
    askedFor (shelf.guide settings s.registry) e.document e.collectsEnums
  | _, _ => []

namespace Command

/-- The files and addresses that a command asks for. -/
def locations (shelf : Shelf) : Command → List Text
  | convert _ config _ | types _ config _ => config.toList
  | parse .. => []
  | resolve e _ => e.config.toList ++ e.locations shelf

def perform (shelf : Shelf) : Command → CommandScreen Unit
  | convert signatures config asJson => CommandScreen.convert shelf signatures config asJson
  | parse signature asJson => CommandScreen.parse signature asJson
  | types category config asJson => CommandScreen.types shelf category config asJson
  | resolve e asJson => CommandScreen.resolve shelf e asJson

/-- Arguments that make no command print nothing. -/
def performArguments (shelf : Shelf) (args : List Text) : Except CommandFault Transcript :=
  match ofArguments? args with
  | some c => (c.perform shelf).run
  | none => .ok ⟨Screen.misuse, []⟩

end Command

end TypeAtlas
