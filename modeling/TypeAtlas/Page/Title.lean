import TypeAtlas.Text.Blank
import TypeAtlas.Text.Case

/-!
Titles of pages. Words are separated by single spaces.
-/

namespace TypeAtlas

namespace Title

def matchesIgnoringCase : Text → Text → Bool
  | [], [] => true
  | a :: as, b :: bs => equalIgnoringCase a b && matchesIgnoringCase as bs
  | _, _ => false

def modifiers : List Text := ["abstract", "final"]

def isModifier (word : Text) : Bool := modifiers.any (matchesIgnoringCase · word)

/-- The title without the modifiers at its end; its first word is none. -/
def withoutModifiers (title : Text) : Text :=
  match Text.words title with
  | [] => []
  | first :: rest =>
    Text.join " " (first :: (rest.reverse.dropWhile isModifier).reverse)

/-- Whether the last word is `abstract`; a mark in front of it may belong to the same run. -/
def endsAbstract (title : Text) : Bool :=
  let t := title.reverse
  matchesIgnoringCase "abstract" (t.take 8).reverse &&
    match t.drop 8 with
    | [] => true
    | c :: _ => !isWord c

/-- The shortest text of at least one allowed character before one of the endings. -/
def before? (isAllowed : Char → Bool) (endings : List Text) : Text → Option Text
  | [] => none
  | c :: r =>
    if !isAllowed c then none
    else if endings.any (·.isPrefixOf r) then some [c]
    else (before? isAllowed endings r).map (c :: ·)

def classEndings : List Text := [
  " Class Reference", " Interface Reference", " Struct Reference",
  " Class Template Reference", " Interface Template Reference", " Struct Template Reference"]

def className? (t : Text) : Option Text :=
  (before? (· ≠ ':') classEndings t).map Text.strip

/-- The last scope mark with a class name behind it cuts the title; something stands before it. -/
def scopedClass? (scope : Text) : Text → Option (Text × Text)
  | [] => none
  | c :: r =>
    match scopedClass? (c :: scope) r with
    | some found => some found
    | none =>
      if !scope.isEmpty && "::".toList.isPrefixOf (c :: r) then
        (className? (r.drop 1)).map fun name => (scope.reverse, name)
      else none

/-- Scope and name of the class that a page is about. -/
def class? (title : Text) : Option (Text × Text) :=
  let t := withoutModifiers title
  match scopedClass? [] t with
  | some found => some found
  | none => (className? t).map fun name => ([], name)

def namespaceEnding : Text := " Namespace Reference"

/-- The name of the namespace that a page is about. -/
def namespace? (title : Text) : Option Text :=
  (before? (fun _ => true) [namespaceEnding] title).map Text.strip

end Title

end TypeAtlas
