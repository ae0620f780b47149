import TypeAtlas.Text.Basic

/-!
Paths of local files. Empty parts and single dots say nothing and are left out; double dots stay,
since a link may stand in between.
-/

namespace TypeAtlas

structure Path where
  /-- slashes in front: none, one, or exactly two -/
  root : Text
  parts : List Text
  deriving DecidableEq, Repr

namespace Path

def rootOf (t : Text) : Text :=
  match (t.takeWhile (· = '/')).length with
  | 0 => []
  | 2 => "//"
  | _ => "/"

def ofText (t : Text) : Path :=
  ⟨rootOf t, (Text.fields '/' t).filter fun part => !part.isEmpty && part != "."⟩

def render (p : Path) : Text :=
  if p.root.isEmpty && p.parts.isEmpty then "." else p.root ++ Text.join "/" p.parts

def parent (p : Path) : Path := { p with parts := p.parts.dropLast }

/-- A path below another one; an absolute path stands alone. -/
def join (p q : Path) : Path := if q.root.isEmpty then { p with parts := p.parts ++ q.parts } else q

/-- The written form that all spellings of one path share. -/
def normalize (t : Text) : Text := (ofText t).render

end Path

end TypeAtlas
