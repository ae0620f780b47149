import TypeAtlas.Text.Case

/-!
Patterns over text and their matches. Matching tries the ways in order, the first that lets the rest
of the pattern match counts; a repeated part is not entered again where its last turn began, so that
empty turns end.
-/

namespace TypeAtlas.Pattern

inductive CharClass
  | digit | blank | word
  deriving DecidableEq, Repr

inductive CharItem
  | single (c : Char)
  | range (first last : Char)
  | oneOf (negated : Bool) (set : CharClass)
  deriving DecidableEq, Repr

structure Flags where
  ignoreCase : Bool
  lines : Bool
  dotAll : Bool
  verbose : Bool
  ascii : Bool
  deriving DecidableEq, Repr

inductive Place
  | textStart | textEnd | lineStart | lineEnd | lastLineEnd
  | boundary (negated ascii : Bool)
  deriving DecidableEq, Repr

inductive Greed
  | greedy | lazy | possessive
  deriving DecidableEq, Repr

inductive Node
  | nothing
  | anyChar (dotAll : Bool)
  | oneOf (negated ignoreCase ascii : Bool) (items : List CharItem)
  | seq (first second : Node)
  | either (first second : Node)
  | times (least : Nat) (most : Option Nat) (greed : Greed) (body : Node)
  | group (index : Option Nat) (body : Node)
  | again (index : Nat) (ignoreCase : Bool)
  | look (ahead negated : Bool) (width : Nat) (body : Node)
  | place (p : Place)
  | atomic (body : Node)
  | ifGroup (index : Nat) (yes no : Node)
  deriving Repr

def CharClass.holds (ascii : Bool) (set : CharClass) (c : Char) : Bool :=
  let inside := match set with
    | digit => isDecimal c
    | blank => isBlank c && !(ascii && 28 ≤ c.toNat && c.toNat < 32)
    | word => isWord c
  inside && (!ascii || c.toNat < 128)

def CharItem.holds (ignoreCase ascii : Bool) (c : Char) : CharItem → Bool
  | single x =>
    if !ignoreCase then x == c
    else if ascii then x.toLower == c.toLower
    else equalIgnoringCase x c
  | range first last =>
    let variants := if !ignoreCase then [c]
      else if ascii then [c, c.toLower, c.toUpper]
      else caseVariants c
    variants.any fun v => first ≤ v && v ≤ last
  | oneOf negated set =>
    let c := if ignoreCase then (if ascii then c.toLower else smallForm c) else c
    set.holds ascii c != negated

/-- A place in a text, with the groups captured on the way there. -/
structure Cursor where
  /-- what lies before the place, the nearest character first -/
  before : Text
  rest : Text
  groups : List (Nat × Text)
  deriving Repr

namespace Cursor

def position (c : Cursor) : Nat := c.before.length

def next? (c : Cursor) : Option (Char × Cursor) :=
  match c.rest with
  | [] => none
  | x :: r => some (x, { c with before := x :: c.before, rest := r })

def back (n : Nat) (c : Cursor) : Option Cursor :=
  if c.before.length < n then none
  else some { c with
    before := c.before.drop n
    rest := (c.before.take n).reverse ++ c.rest }

def group? (index : Nat) (c : Cursor) : Option Text := c.groups.lookup index

def skipText (ignoreCase : Bool) : Text → Cursor → Option Cursor
  | [], c => some c
  | x :: xs, c =>
    match c.next? with
    | some (y, c') =>
      if x = y || (ignoreCase && smallForm x == smallForm y) then skipText ignoreCase xs c' else none
    | none => none

/-- An empty text has no boundary and no place inside or outside of words either. -/
def isAt (c : Cursor) : Place → Bool
  | .textStart => c.before.isEmpty
  | .textEnd => c.rest.isEmpty
  | .lineStart => c.before.isEmpty || c.before.head? == some '\n'
  | .lineEnd => c.rest.isEmpty || c.rest.head? == some '\n'
  | .lastLineEnd => c.rest.isEmpty || c.rest == ['\n']
  | .boundary negated ascii =>
    let inWord (x : Option Char) : Bool := x.any (CharClass.holds ascii .word)
    !(c.before.isEmpty && c.rest.isEmpty) &&
      (inWord c.before.head? != inWord c.rest.head?) != negated

end Cursor

abbrev Step := Cursor → (Cursor → Option Cursor) → Option Cursor

/-- Turns of a body, at least `least` and at most `most`; `last` is where the last optional turn
began. Each optional turn moves on, so `fuel` need only exceed the turns required and the text
left. -/
def turns (body : Step) (isLazy : Bool) :
    (fuel least : Nat) → (most last : Option Nat) → Step
  | 0, _, _, _ => fun _ _ => none
  | fuel + 1, least + 1, most, last => fun c k =>
    body c fun c' => turns body isLazy fuel least (most.map (· - 1)) last c' k
  | fuel + 1, 0, most, last => fun c k =>
    let more (_ : Unit) : Option Cursor :=
      if most = some 0 || last = some c.position then none
      else body c fun c' =>
        turns body isLazy fuel 0 (most.map (· - 1)) (some c.position) c' k
    if isLazy then (k c).orElse more else (more ()).orElse fun _ => k c

namespace Node

/-- Matches a node at a cursor; `k` is what remains to be matched behind it. -/
def run : Node → Step
  | nothing => fun c k => k c
  | anyChar dotAll => fun c k =>
    match c.next? with
    | some (x, c') => if dotAll || x != '\n' then k c' else none
    | none => none
  | oneOf negated ignoreCase ascii items => fun c k =>
    match c.next? with
    | some (x, c') => if items.any (·.holds ignoreCase ascii x) != negated then k c' else none
    | none => none
  | seq first second => fun c k => first.run c fun c' => second.run c' k
  | either first second => fun c k => (first.run c k).orElse fun _ => second.run c k
  | times least most .greedy body => fun c k =>
    turns body.run false (least + c.rest.length + 2) least most none c k
  | times least most .lazy body => fun c k =>
    turns body.run true (least + c.rest.length + 2) least most none c k
  | times least most .possessive body => fun c k =>
    (turns body.run false (least + c.rest.length + 2) least most none c some).bind k
  | group none body => body.run
  | group (some index) body => fun c k =>
    body.run c fun c' =>
      k { c' with groups := (index, c.rest.take (c'.position - c.position)) :: c'.groups }
  | again index ignoreCase => fun c k =>
    match c.group? index with
    | some t => (c.skipText ignoreCase t).bind k
    | none => none
  | look ahead negated width body => fun c k =>
    let found := (if ahead then some c else c.back width).bind fun c' => body.run c' some
    match found, negated with
    | some c', false => k { c with groups := c'.groups }
    | none, true => k c
    | _, _ => none
  | place p => fun c k => if c.isAt p then k c else none
  | atomic body => fun c k => (body.run c some).bind k
  | ifGroup index yes no => fun c k =>
    if (c.group? index).isSome then yes.run c k else no.run c k

end Node

end TypeAtlas.Pattern

namespace TypeAtlas

/-- A pattern ready for matching, with the number of its groups. -/
structure Pattern where
  root : Pattern.Node
  groupCount : Nat
  deriving Repr

namespace Pattern

/-- The groups of a match in order, `none` for one that took no part. -/
def captured (p : Pattern) (c : Cursor) : List (Option Text) :=
  (List.range p.groupCount).map fun i => c.group? (i + 1)

/-- Whether the whole text matches. -/
def matchesAll (p : Pattern) (t : Text) : Bool :=
  (p.root.run ⟨[], t, []⟩ fun c => if c.rest.isEmpty then some c else none).isSome

def searchFrom (p : Pattern) (before : Text) : Text → Option Cursor
  | [] => p.root.run ⟨before, [], []⟩ some
  | x :: r => (p.root.run ⟨before, x :: r, []⟩ some).orElse fun _ => searchFrom p (x :: before) r

/-- The groups of the first match in the text. -/
def search? (p : Pattern) (t : Text) : Option (List (Option Text)) :=
  (p.searchFrom [] t).map p.captured

end Pattern

end TypeAtlas
