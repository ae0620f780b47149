import TypeAtlas.Location.Path
import TypeAtlas.Location.Url
import TypeAtlas.Signature.Canonical

/-!
Where documents are: local paths and locations on the network.
-/

namespace TypeAtlas

namespace Location

/-- Whether a location names the page of a namespace. -/
def isNamespacePage (t : Text) : Bool :=
  Text.includes "namespace_" t || Text.includes "/namespace" t

def isNetwork (t : Text) : Except UrlFault Bool := do
  let url ← Url.split t []
  return Url.networkSchemes.contains url.scheme

def withoutFragment (t : Text) : Text := t.takeWhile (· ≠ '#')

/-- A link found in the document at `source`; its fragment is dropped. -/
def resolve (link source : Text) : Except UrlFault Text := do
  let link := withoutFragment link
  if ← isNetwork link then return link
  else if ← isNetwork source then Url.join source link
  else return ((Path.ofText source).parent.join (Path.ofText link)).render

/-- A name inside a directory. -/
def inside (root name : Text) : Except UrlFault Text := do
  if ← isNetwork root then Url.join (Text.dropEndWhile (· = '/') root ++ "/") name
  else return ((Path.ofText root).join (Path.ofText name)).render

/-- Where the page of a class is expected below `root`. -/
def guess (fullName root : Text) : Except UrlFault Text := inside root (pageName fullName)

end Location

end TypeAtlas
