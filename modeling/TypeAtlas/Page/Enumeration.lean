import TypeAtlas.Page.Row
import TypeAtlas.Store.Keyed

/-!
Enumerations of a page. Rows of member tables give names and values; the detailed entries add
descriptions, values that the rows left out, and enumerations that have no row.
-/

namespace TypeAtlas

namespace EnumValue

/-- Reads `name = value`; a value without a name is none. -/
def ofText? (t : Text) : Option EnumValue :=
  let (name, value) := (Text.cut? "=" t).getD (t, [])
  let name := Text.strip name
  if name.isEmpty then none else some ⟨name, Parameter.someText (Text.strip value), none⟩

def all (body : Text) : List EnumValue := (Text.fields ',' body).filterMap ofText?

/-- Sets the description of the last value of a name. -/
def describeLast (name : Text) (description : Option Text) : List EnumValue → List EnumValue
  | [] => []
  | v :: rest =>
    if v.name = name && !rest.any (·.name = name) then
      { v with description := description <|> v.description } :: rest
    else v :: describeLast name description rest

/-- Adds what a detailed entry says about a value: a description of one that is known, or a new
one. -/
def describe (values : List EnumValue) (name : Text) (description : Option Text) : List EnumValue :=
  if values.any (·.name = name) then describeLast name description values
  else values ++ [⟨name, none, description⟩]

end EnumValue

abbrev EnumTable := Keyed Text EnumType

namespace EnumTable

/-- What a member row says about an enumeration. -/
structure RowEnum where
  name : Text
  values : List EnumValue

/-- The part between the first brace and the next closing one. -/
def body? (t : Text) : Option Text :=
  (Text.cut? "\x7b" t).bind fun (_, rest) => (Text.cut? "\x7d" rest).map (·.1)

def rowEnum? (left right : Text) : Option RowEnum :=
  if (Text.words left).contains "enum" then
    match (Text.words (right.takeWhile (· ≠ '\x7b'))).getLast?, body? right with
    | some name, some body =>
      let values := EnumValue.all body
      if values.isEmpty then none else some ⟨name, values⟩
    | _, _ => none
  else none

/-- The word behind the last scope mark that has one. -/
def scopedWord? : Text → Option Text
  | [] => none
  | c :: r =>
    match scopedWord? r with
    | some word => some word
    | none =>
      let word := (r.drop 1).takeWhile isWord
      if "::".toList.isPrefixOf (c :: r) && !word.isEmpty then some word else none

/-- A name after its scope, or the word that the text begins with. -/
def nameAt? (t : Text) : Option Text :=
  scopedWord? t.tail <|> Parameter.someText (t.takeWhile isWord)

/-- The name of the enumeration that the text of a detailed entry declares. -/
def detailName? : Text → Option Text
  | [] => none
  | c :: r =>
    let here := if "enum ".toList.isPrefixOf (c :: r) then
        let t := r.drop 4
        (if "class ".toList.isPrefixOf t then nameAt? (t.drop 6) else none) <|> nameAt? t
      else none
    here <|> detailName? r

/-- A row of a table of values: the name of a value and its description. -/
structure DetailRow where
  name : Text
  description : Option Text

/-- A detailed entry: the enumeration it is about, and its rows. -/
structure Detail where
  name : Text
  rows : List DetailRow

def described (e : EnumType) (d : Detail) : EnumType :=
  let add (values : List EnumValue) (r : DetailRow) : List EnumValue :=
    EnumValue.describe values r.name r.description
  { e with values := d.rows.foldl add e.values }

/-- Adds a detailed entry. An enumeration without values is left out. -/
def addDetail (t : EnumTable) (d : Detail) : EnumTable :=
  let e := described ((t.get? d.name).getD ⟨d.name, [], none⟩) d
  if e.values.isEmpty then t else t.set d.name e

/-- Adds an enumeration unless its name is taken. -/
def addRow (t : EnumTable) (e : EnumType) : EnumTable := t.setNew e.name e

end EnumTable

namespace Page

open Markup (Spot below)

/-- The enumeration of a member row; the description matters only for a new name. -/
def addEnumRow (t : EnumTable) (row : Spot) : Except PageFault EnumTable :=
  match EnumTable.rowEnum? (left row) (right row) with
  | none => .ok t
  | some e =>
    if t.contains e.name then .ok t
    else do return EnumTable.addRow t ⟨e.name, e.values, ← rowDescription row⟩

def enumRows (p : Page) : List Spot :=
  (below (·.isOf "table" "memberdecls") none p.spots).filter isMemberRow

def detailRow? (row : Spot) : Option EnumTable.DetailRow :=
  (Parameter.someText (textOf (cell? row "fieldname"))).map fun name =>
    ⟨name, Parameter.someText (textOf (cell? row "fielddoc"))⟩

def isValueRow (s : Spot) : Bool := s.isNamed "tr" && s.children.any (·.isNamed "td")

def isEntryName (s : Spot) : Bool := s.isNamed "td" && s.tag.value? "class" = some "memname".toList

def enumDetail? (entry : Spot) : Option EnumTable.Detail :=
  (EnumTable.detailName? (textOf (entry.descendants.find? isEntryName))).map fun name =>
    ⟨name, ((below (·.isOf "table" "fieldtable") none entry.descendants).filter isValueRow).filterMap
      detailRow?⟩

def enumDetails (p : Page) : List EnumTable.Detail :=
  (p.spots.filter (·.isOf "div" "memitem")).filterMap enumDetail?

def enums (p : Page) : Except PageFault (List EnumType) := do
  let rows ← p.enumRows.foldlM addEnumRow .empty
  return (p.enumDetails.foldl EnumTable.addDetail rows).values

end Page

end TypeAtlas
