import TypeAtlas.Text.Blank

/-!
Which elements a tag ends that has no end tag for them, which elements hold nothing, and how far an
end tag reaches.
-/

namespace TypeAtlas

namespace Markup

/-- An element with the elements whose beginning ends it. -/
structure EndedBy where
  name : String
  others : String

def endings : List EndedBy := [
  ⟨"a", "a fieldset table td th"⟩,
  ⟨"address", "dd dl dt form li ul"⟩,
  ⟨"b", "center p td th"⟩,
  ⟨"big", "p"⟩,
  ⟨"caption", "col colgroup tbody tfoot thead tr"⟩,
  ⟨"col", "col colgroup tbody tfoot thead tr"⟩,
  ⟨"colgroup", "colgroup tbody tfoot thead tr"⟩,
  ⟨"dd", "dt"⟩,
  ⟨"dir", "dd dl dt form ul"⟩,
  ⟨"dl", "form li"⟩,
  ⟨"dt", "dd dl"⟩,
  ⟨"font", "center td th"⟩,
  ⟨"form", "form"⟩,
  ⟨"h1", "fieldset form li p table"⟩,
  ⟨"h2", "fieldset form li p table"⟩,
  ⟨"h3", "fieldset form li p table"⟩,
  ⟨"h4", "fieldset form li p table"⟩,
  ⟨"h5", "fieldset form li p table"⟩,
  ⟨"h6", "fieldset form li p table"⟩,
  ⟨"head",
    "a abbr acronym address b bdo big blockquote body br center cite code dd dfn dir " ++
      "div dl dt em fieldset font form frameset h1 h2 h3 h4 h5 h6 hr i iframe img kbd " ++
      "li listing map menu ol p pre q s samp small span strike strong sub sup table tt " ++
      "u ul var xmp"⟩,
  ⟨"hr", "form"⟩,
  ⟨"i", "center p"⟩,
  ⟨"legend", "fieldset"⟩,
  ⟨"li", "li"⟩,
  ⟨"link", "body frameset"⟩,
  ⟨"listing", "dd dl dt fieldset form li table ul"⟩,
  ⟨"menu", "dd dl dt form ul"⟩,
  ⟨"ol", "form"⟩,
  ⟨"option", "optgroup option"⟩,
  ⟨"p",
    "address blockquote body caption center col colgroup dd dir div dl dt fieldset form " ++
      "frameset h1 h2 h3 h4 h5 h6 head hr li listing menu ol p pre table tbody td tfoot th " ++
      "title tr ul xmp"⟩,
  ⟨"pre", "dd dl dt fieldset form li table ul"⟩,
  ⟨"s", "p"⟩,
  ⟨"script", "noscript"⟩,
  ⟨"small", "p"⟩,
  ⟨"span", "td th"⟩,
  ⟨"strike", "p"⟩,
  ⟨"style", "body frameset"⟩,
  ⟨"tbody", "tbody tfoot"⟩,
  ⟨"td", "tbody td tfoot th tr"⟩,
  ⟨"tfoot", "tbody"⟩,
  ⟨"th", "tbody td tfoot th tr"⟩,
  ⟨"thead", "tbody tfoot"⟩,
  ⟨"title", "body frameset"⟩,
  ⟨"tr", "tbody tfoot tr"⟩,
  ⟨"tt", "p"⟩,
  ⟨"u", "p td th"⟩,
  ⟨"ul", "address form menu pre"⟩,
  ⟨"xmp", "dd dl dt fieldset form li table ul"⟩]

def namesIn (words : String) : List Text := Text.words words.toList

def endingTable : List (Text × List Text) := endings.map fun e => (e.name.toList, namesIn e.others)

/-- Whether the beginning of an element `name` ends the open element `opened`. -/
def isEndedBy (opened name : Text) : Bool :=
  match endingTable.lookup opened with
  | some names => names.contains name
  | none => false

def emptyNames : List Text :=
  namesIn "area base basefont br col frame hr img input isindex link meta param"

/-- Elements that hold nothing and have no end tag. -/
def isEmptyName (name : Text) : Bool := emptyNames.contains name

def headNames : List Text := namesIn "script style meta link title base"

def frameNames : List Text := namesIn "noframes frame frameset"

def strengths : List (Text × Nat) :=
  [("div", 150), ("td", 160), ("th", 160), ("tr", 170), ("thead", 180), ("tbody", 180),
    ("tfoot", 180), ("table", 190), ("head", 200), ("body", 200), ("html", 220)]

/-- An end tag does not reach beyond an open element that is stronger than its own. -/
def strength (name : Text) : Nat := (strengths.lookup name).getD 100

end Markup

end TypeAtlas
