import TypeAtlas.Markup.Outline

/-!
An element in its document, with what comes before and after it, and the elements reached from
there.
-/

namespace TypeAtlas

namespace Markup

/-- An element with the entries before it, the nearest first, and those after it. -/
structure Spot where
  before : List Entry
  depth : Nat
  tag : Tag
  after : List Entry

/-- All elements among the entries, in their order. -/
def spotsFrom (before : List Entry) : List Entry → List Spot
  | [] => []
  | e :: rest =>
    let more := spotsFrom (e :: before) rest
    match e.content with
    | .element tag => ⟨before, e.depth, tag, rest⟩ :: more
    | _ => more

def Outline.spots (o : Outline) : List Spot := spotsFrom [] o

namespace Spot

def entry (s : Spot) : Entry := ⟨s.depth, .element s.tag⟩

/-- The entries below an element. -/
def inner (s : Spot) : List Entry := s.after.takeWhile fun e => s.depth < e.depth

/-- The entries behind an element and all that is below it. -/
def beyond (s : Spot) : List Entry := s.after.dropWhile fun e => s.depth < e.depth

def textOf : Entry → Text
  | ⟨_, .text t⟩ => t
  | _ => []

/-- The text below an element, words with a single space between them. -/
def text (s : Spot) : Text := Text.collapse (s.inner.flatMap textOf)

/-- The elements below an element; what they see behind them ends with it. -/
def descendants (s : Spot) : List Spot := spotsFrom (s.entry :: s.before) s.inner

def children (s : Spot) : List Spot := s.descendants.filter (·.depth = s.depth + 1)

/-- The elements that begin once an element has ended. -/
def following (s : Spot) : List Spot :=
  spotsFrom (s.inner.reverse ++ s.entry :: s.before) s.beyond

/-- The innermost element that satisfies `p` and encloses depth `depth`. -/
def enclosing? (p : Tag → Bool) (depth : Nat) (after : List Entry) : List Entry → Option Spot
  | [] => none
  | e :: before =>
    match e.content with
    | .element tag =>
      if e.depth < depth then
        if p tag then some ⟨before, e.depth, tag, after⟩
        else enclosing? p e.depth (e :: after) before
      else enclosing? p depth (e :: after) before
    | _ => enclosing? p depth (e :: after) before

def ancestor? (s : Spot) (p : Tag → Bool) : Option Spot :=
  enclosing? p s.depth (s.entry :: s.after) s.before

end Spot

/-- What stands next to an element, apart from text. -/
inductive Neighbour
  | element (s : Spot)
  | comment

def neighbourFrom (before : List Entry) (depth : Nat) : List Entry → Option Neighbour
  | [] => none
  | e :: rest =>
    if e.depth < depth then none
    else match e.content with
      | .element tag => some (.element ⟨before, e.depth, tag, rest⟩)
      | .comment => some .comment
      | .text _ => neighbourFrom (e :: before) depth rest

def Spot.next? (s : Spot) : Option Neighbour :=
  neighbourFrom (s.inner.reverse ++ s.entry :: s.before) s.depth s.beyond

/-- The spots that lie below another of them that satisfies `p`. -/
def below (p : Spot → Bool) (zone : Option Nat) : List Spot → List Spot
  | [] => []
  | s :: rest =>
    match zone with
    | some depth =>
      if depth < s.depth then s :: below p zone rest
      else below p (if p s then some s.depth else none) rest
    | none => below p (if p s then some s.depth else none) rest

namespace Tag

def value? (t : Tag) (name : Text) : Option Text := t.attributes.lookup name

def valueOf (t : Tag) (name : Text) : Text := (t.value? name).getD []

/-- What separates the names in a class attribute. -/
def isSeparator (c : Char) : Bool := c = ' ' || c = '\t' || c = '\n' || c = '\r'

def hasClass (t : Tag) (name : Text) : Bool :=
  (Text.runs (!isSeparator ·) (t.valueOf "class")).contains name

end Tag

namespace Spot

def isNamed (s : Spot) (name : Text) : Bool := s.tag.name = name

def hasClass (s : Spot) (name : Text) : Bool := s.tag.hasClass name

/-- Whether the element is a `name` of a class. -/
def isOf (name className : Text) (s : Spot) : Bool := s.isNamed name && s.hasClass className

end Spot

end Markup

end TypeAtlas
