import TypeAtlas.Declaration.ParameterList
import TypeAtlas.Page.Basic

/-!
Rows of member tables: a type on the left, a name with what belongs to it on the right, and a
description in the row below.
-/

namespace TypeAtlas

namespace Page

open Markup (Spot Neighbour)

def isSectionAnchor (name : Text) (s : Spot) : Bool :=
  s.isNamed "a" && (s.tag.value? "id" = some name || s.tag.value? "name" = some name)

def isMemberRow (s : Spot) : Bool :=
  s.isNamed "tr" && "memitem:".toList.isPrefixOf (s.tag.valueOf "class")

/-- The rows of the table that holds the anchor of a section. -/
def sectionRows (p : Page) (name : Text) : List Spot :=
  match (p.spots.find? (isSectionAnchor name)).bind (·.ancestor? (·.name = "table")) with
  | some table => table.descendants.filter isMemberRow
  | none => []

def cell? (row : Spot) (className : Text) : Option Spot :=
  row.children.find? (·.isOf "td" className)

def left (row : Spot) : Text := textOf (cell? row "memItemLeft")

def right (row : Spot) : Text := textOf (cell? row "memItemRight")

/-- The description in the row below, if that row is one. -/
def rowDescription (row : Spot) : Except PageFault (Option Text) :=
  match row.next? with
  | none => .ok none
  | some .comment => .error .strayComment
  | some (.element below) =>
    if "memdesc:".toList.isPrefixOf (below.tag.valueOf "class") then
      .ok (Parameter.someText (textOf (cell? below "mdescRight")))
    else .ok none

/-- Name, parameters, and what follows them. -/
def signature? (t : Text) : Option (Text × Text × Text) :=
  let mark := t.takeWhile (· = '~') |>.take 1
  let t := t.drop mark.length
  let name := t.takeWhile isWord
  match (t.dropWhile isWord).dropWhile isBlank with
  | '(' :: rest =>
    if name.isEmpty then none
    else (Text.cutLast? ")" rest).map fun (parameters, after) => (mark ++ name, parameters, after)
  | _ => none

def scriptMarks : List Text := ["Q_INVOKABLE", "Q_SCRIPTABLE"]

def typeKeywords : List Text := scriptMarks ++ (["static", "virtual"] : List Text)

/-- A method without a type on its left gives nothing back. -/
def resultOf (left : Text) : Text :=
  let t := Text.collapse (left.eraseWords typeKeywords)
  if t.isEmpty then "void" else t

def method? (row : Spot) (visibility : Visibility) : Except PageFault (Option Method) :=
  match signature? (right row) with
  | none => .ok none
  | some (name, parameters, after) => do
    let left := left row
    let words := Text.words left
    return some {
      name
      result := resultOf left
      parameters := Parameter.all parameters
      visibility
      isStatic := words.contains "static"
      isConst := (Text.wordRuns after).contains "const"
      isVirtual := words.contains "virtual"
      isOverride := Text.includes "override" after
      isAbstract := Text.includes "= 0" after
      decorators := scriptMarks.filter words.contains
      description := ← rowDescription row }

/-- The methods of a section. -/
def methods (p : Page) (name : Text) (visibility : Visibility) : Except PageFault (List Method) := do
  let found ← (p.sectionRows name).mapM fun row => method? row visibility
  return found.filterMap id

/-- Signals give nothing back and are marked as what they are. -/
def signals (p : Page) : Except PageFault (List Method) := do
  return (← p.methods "signals" .everyone).map fun m =>
    { m with result := "void", decorators := m.decorators ++ (["signal"] : List Text) }

def isLocalLink (s : Spot) : Bool :=
  s.isNamed "a" && "#".toList.isPrefixOf (s.tag.valueOf "href")

/-- The earliest of the spots. -/
def earliest? (spots : List Spot) : Option Spot :=
  spots.foldl (fun best s => match best with
    | some b => if s.before.length < b.before.length then some s else best
    | none => some s) none

/-- The detailed entry behind an anchor. -/
def detail? (p : Page) (anchor : Text) : Option Spot :=
  let anchors := p.spots.filter fun s => s.isNamed "a" && s.tag.value? "id" = some anchor
  earliest? (anchors.filterMap fun s => s.following.find? (·.isOf "div" "memitem"))

/-- The labels of the detailed entry that a row links to, in small letters. -/
def labels (p : Page) (row : Spot) : List Text :=
  let cells := row.children.filter (·.isOf "td" "memItemRight")
  let entry := (cells.flatMap Spot.descendants).find? isLocalLink |>.bind fun link =>
    p.detail? ((link.tag.valueOf "href").drop 1)
  match entry with
  | some s => (s.descendants.filter (·.isOf "span" "mlabel")).map fun label => label.text.lower
  | none => []

def propertyKeywords : List Text := ["static", "Q_PROPERTY"]

/-- A property without a label for writing is only read, provided that it has labels. -/
def property? (p : Page) (row : Spot) : Except PageFault (Option Property) :=
  let type := Text.collapse ((left row).eraseWords propertyKeywords)
  match Text.words (right row) with
  | [] => .ok none
  | name :: _ =>
    if type.isEmpty then .ok none
    else do
      let labels := p.labels row
      return some {
        name
        type
        isReadonly := !labels.isEmpty && !labels.contains "write"
        description := ← rowDescription row }

def properties (p : Page) : Except PageFault (List Property) := do
  let found ← (p.sectionRows "properties").mapM p.property?
  return found.filterMap id

end Page

end TypeAtlas
