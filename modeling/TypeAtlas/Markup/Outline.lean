import TypeAtlas.Markup.Nesting
import TypeAtlas.Markup.Token

/-!
A document as an outline: its elements, texts and comments in the order in which they begin, each
with its depth. What lies below an element are the entries that follow it with a greater depth.
Elements that a document leaves out around its content are supplied, and elements it does not close
are closed where they must end.
-/

namespace TypeAtlas

namespace Markup

inductive Content
  | element (tag : Tag)
  | text (t : Text)
  | comment
  deriving DecidableEq, Repr

structure Entry where
  depth : Nat
  content : Content
  deriving DecidableEq, Repr

abbrev Outline := List Entry

/-- A document under way: the names of the open elements, the innermost first, and the entries so
far, the last one first. -/
structure Builder where
  opened : List Text
  entries : List Entry
  hasHead : Bool
  hasBody : Bool
  /-- tags of the frame of the document that were left out and still wait for their end -/
  ignored : Nat
  /-- whether an element was left out because it lies too deep; nothing counts from there on -/
  isFull : Bool

namespace Builder

def empty : Builder := ⟨[], [], false, false, 0, false⟩

/-- How many elements may lie inside one another. -/
def deepest : Nat := 256

def add (b : Builder) (c : Content) : Builder :=
  { b with entries := ⟨b.opened.length, c⟩ :: b.entries }

def push (b : Builder) (tag : Tag) : Builder :=
  if b.isFull || deepest ≤ b.opened.length then { b with isFull := true }
  else
    { b.add (.element tag) with
      opened := tag.name :: b.opened
      hasHead := b.hasHead || tag.name = "head" || tag.name = "body"
      hasBody := b.hasBody || tag.name = "body" }

def pop (b : Builder) : Builder := { b with opened := b.opened.tail }

/-- The open elements that are left once `name` begins. -/
def afterEndings (name : Text) : List Text → List Text
  | [] => []
  | top :: rest => if isEndedBy top name then afterEndings name rest else top :: rest

def endFor (b : Builder) (name : Text) : Builder :=
  { b with opened := afterEndings name b.opened }

def bareTag (name : Text) : Tag := ⟨name, []⟩

def supplyRoot (b : Builder) : Builder := if b.opened.isEmpty then b.push (bareTag "html") else b

/-- Opens the head or the body when `name` belongs there and neither is open. -/
def supplyPart (b : Builder) (name : Text) : Builder :=
  if name = "head" || name = "body" then b
  else if b.opened.length ≤ 1 && headNames.contains name then
    if b.hasHead then b else b.push (bareTag "head")
  else if frameNames.contains name || b.hasBody || b.opened.contains "head" ||
      b.opened.contains "body" then b
  else b.push (bareTag "body")

/-- Supplies what must be around an element `name`. -/
def supply (b : Builder) (name : Text) : Builder :=
  if name = "html" then b else b.supplyRoot.supplyPart name

/-- The frame of a document occurs once. -/
def isMisplaced (b : Builder) (name : Text) : Bool :=
  (name = "html" && !b.opened.isEmpty) || (name = "head" && b.opened.length != 1) ||
    (name = "body" && b.opened.contains "body")

def start (b : Builder) (tag : Tag) (isClosed : Bool) : Builder :=
  let b := (b.endFor tag.name).supply tag.name
  if b.isMisplaced tag.name then { b with ignored := b.ignored + 1 }
  else if isClosed || isEmptyName tag.name then (b.push tag).pop
  else b.push tag

/-- The open elements behind an end tag: those inside the element end with it, unless one of them
is stronger. -/
def afterEnd (name : Text) : List Text → Option (List Text)
  | [] => none
  | top :: rest =>
    if top = name then some rest
    else if strength name < strength top then none
    else afterEnd name rest

def isFrame (name : Text) : Bool := name = "html" || name = "head" || name = "body"

def stop (b : Builder) (name : Text) : Builder :=
  if 0 < b.ignored && isFrame name then { b with ignored := b.ignored - 1 }
  else { b with opened := (afterEnd name b.opened).getD b.opened }

def addText (b : Builder) (t : Text) : Builder :=
  if t.isEmpty || b.opened.isEmpty then b else b.add (.text t)

/-- Text cannot stand outside of the body. -/
def isOutside (b : Builder) : Bool :=
  match b.opened with
  | [] => true
  | top :: _ => top = "html" || top = "head"

/-- Supplies what must be around text, as around a paragraph. -/
def supplyAround (b : Builder) : Builder :=
  (if b.opened.head? = some "head".toList then b.endFor "p" else b).supply "p"

def text (b : Builder) (t : Text) : Builder :=
  if b.isOutside then
    let b := b.addText (t.takeWhile isSpace)
    let rest := t.dropWhile isSpace
    if rest.isEmpty then b else b.supplyAround.addText rest
  else b.addText t

def step (b : Builder) (t : Token) : Builder :=
  if b.isFull then b
  else
    match t with
    | .opening tag isClosed => b.start tag isClosed
    | .closing name => b.stop name
    | .text t => b.text t
    | .comment => b.add .comment
    | .cutOff name => (b.endFor name).supply name

end Builder

def Outline.ofTokens (tokens : List Token) : Outline :=
  (tokens.foldl Builder.step .empty).entries.reverse

def Outline.ofText (t : Text) : Outline := ofTokens (scan t)

end Markup

end TypeAtlas
