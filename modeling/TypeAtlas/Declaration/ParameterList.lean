import TypeAtlas.Declaration.Basic
import TypeAtlas.Text.WordClass

/-!
Parameter lists as they are written in a method's signature. Only a comma outside of all brackets
separates two parameters; one count serves brackets of every kind.
-/

namespace TypeAtlas

def isOpening (c : Char) : Bool := c = '<' || c = '(' || c = '['

def isClosing (c : Char) : Bool := c = '>' || c = ')' || c = ']'

/-- The nesting behind a character, given that before it. -/
def nestingAfter (nesting : Int) (c : Char) : Int :=
  if isOpening c then nesting + 1 else if isClosing c then nesting - 1 else nesting

/-- Puts a character in front of the first part. -/
def ontoFirst (c : Char) : List Text → List Text
  | [] => [[c]]
  | part :: parts => (c :: part) :: parts

/-- The parts between the commas at nesting zero. -/
def commaParts (nesting : Int) : Text → List Text
  | [] => [[]]
  | c :: r =>
    if c = ',' && nesting = 0 then [] :: commaParts nesting r
    else ontoFirst c (commaParts (nestingAfter nesting c) r)

/-- The parts of a parameter list that hold something. -/
def splitParameters (t : Text) : List Text :=
  ((commaParts 0 t).map Text.strip).filter (!·.isEmpty)

namespace Parameter

/-- What may stand between a type and a name. -/
def endsType (c : Char) : Bool := isBlank c || c = '*' || c = '&' || c = '>'

def isLineFeed (c : Char) : Bool := c = '\n'

/-- The type and the name of a written parameter. The name is the run of word characters at the
end; the type before it is more than `const` and has no line break. -/
def nameSplit? (t : Text) : Option (Text × Text) :=
  let name := (t.reverse.takeWhile (!endsType ·)).reverse
  let type := t.take (t.length - name.length)
  if isName name && !type.isEmpty && !type.dropLast.any isLineFeed then
    let type := Text.strip type
    if type.isEmpty || type = "const" then none else some (type, name)
  else none

def someText (t : Text) : Option Text := if t.isEmpty then none else some t

/-- Reads one part of a parameter list; one without a name is named for its position. -/
def ofText? (t : Text) (position : Int) : Option Parameter :=
  let (declared, value) := (Text.cut? "=" t).getD (t, [])
  let declared := Text.strip declared
  if declared.isEmpty || declared = "void" then none
  else
    let (type, name) := (nameSplit? declared).getD (declared, "arg" ++ Text.ofInt position)
    some ⟨name, type, someText (Text.strip value), none⟩

/-- All parameters of a list, numbered from one. -/
def all (t : Text) : List Parameter :=
  ((splitParameters t).zipIdx 1).filterMap fun (part, position) => ofText? part position

end Parameter

end TypeAtlas
