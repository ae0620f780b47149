import TypeAtlas.Markup.Spot
import TypeAtlas.Page.Fault
import TypeAtlas.Pattern.Reader

/-!
A page: the outline of a document, and where the document came from.
-/

namespace TypeAtlas

structure Page where
  source : Text
  outline : Markup.Outline

namespace Page

open Markup (Spot Outline)

def encodingPattern : Text :=
  "^(<\\?xml[^>]+)\\s+encoding\\s*=\\s*[\"'][^\"']*[\"'](\\s*\\?>|)"

/-- Text is decoded already, so a declaration of its encoding cannot hold. -/
def declaresEncoding (content : Text) : Bool :=
  "<?xml".toList.isPrefixOf content &&
    match Pattern.ofText encodingPattern with
    | .ok p => (p.search? content).isSome
    | .error _ => false

def ofText (content source : Text) : Except PageFault Page :=
  if content.all isBlank then .error (.empty source)
  else if declaresEncoding content then .error (.malformed source .declaresEncoding)
  else
    let page : Page := ⟨source, Outline.ofText content⟩
    if page.outline.spots.isEmpty then .error (.malformed source .noElement) else .ok page

def spots (p : Page) : List Spot := p.outline.spots

/-- The text of an element, if there is one. -/
def textOf (s : Option Spot) : Text := (s.map Spot.text).getD []

def title (p : Page) : Text := textOf (p.spots.find? (·.hasClass "title"))

/-- The text block that describes a page, empty without one. -/
def description (p : Page) : Text := textOf (p.spots.find? (·.hasClass "textblock"))

/-- What the address of a page about a type contains. -/
def typeMarkers : List Text := ["class_", "interface_", "struct_", "namespace_"]

def isLink (s : Spot) : Bool := s.isOf "a" "el" && (s.tag.value? "href").isSome

def linkOf? (s : Spot) : Option (Text × Text) :=
  let target := s.tag.valueOf "href"
  if !s.text.isEmpty && typeMarkers.any (Text.includes · target) then some (s.text, target) else none

/-- The links to pages about types, each with its text. -/
def links (p : Page) : List (Text × Text) := (p.spots.filter isLink).filterMap linkOf?

def shown (p : Page) : Text := "SourceDocument(" ++ p.source.quoted ++ ")"

end Page

end TypeAtlas
