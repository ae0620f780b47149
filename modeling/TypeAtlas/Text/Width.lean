import TypeAtlas.Text.WidthTable
import TypeAtlas.Text.WordClass

/-!
How many columns of a console a text takes, and cutting it so that it fits. A character joined to
the one before takes none, and a variation selector widens what it follows.
-/

namespace TypeAtlas

/-- Controls and marks that stand on another character take no column of their own. -/
def columns (c : Char) : Nat :=
  if c.toNat < 0xa0 then if 32 ≤ c.toNat ∧ c.toNat < 127 then 1 else 0
  else if inRanges flatRanges c then 0
  else if inRanges wideRanges c then 2
  else 1

/-- Joins the character behind it to the one before. -/
def joiner : Char := Char.ofNat 0x200D

/-- Asks for the character before it as a picture. -/
def pictureMark : Char := Char.ofNat 0xFE0F

/-- The further column of a character that is shown as a picture. -/
def widening : Option Char → Nat
  | some c => if inRanges widenedRanges c then 1 else 0
  | none => 0

/-- Characters that are shown together. -/
structure Cluster where
  letters : Text
  width : Nat
  deriving DecidableEq, Repr

namespace Cluster

def add (k : Cluster) (c : Char) (extra : Nat) : Cluster :=
  { letters := k.letters ++ [c], width := k.width + extra }

/-- Puts a character in front of the characters read so far, to the cluster that is read last. -/
def attach (c : Char) (extra : Nat) : List Cluster → List Cluster
  | [] => [⟨[c], extra⟩]
  | k :: ks => k.add c extra :: ks

/-- The clusters of a text, the last one first. `last` is the latest character with columns of its
own, and a character that `isJoined` belongs to the cluster before. -/
def readFrom (done : List Cluster) (last : Option Char) (isJoined : Bool) : Text → List Cluster
  | [] => done
  | c :: r =>
    if isJoined then readFrom (attach c 0 done) last false r
    else if c = joiner then readFrom (attach c 0 done) last (!done.isEmpty) r
    else if c = pictureMark then
      let extra := if done.isEmpty then 0 else widening last
      readFrom (attach c extra done) (if extra = 0 then last else none) false r
    else if columns c = 0 then readFrom (attach c 0 done) last false r
    else readFrom (⟨[c], columns c⟩ :: done) (some c) false r

end Cluster

namespace Text

def clusters (t : Text) : List Cluster := (Cluster.readFrom [] none false t).reverse

/-- The columns of a text behind `last`, the latest character with columns of its own. -/
def widthFrom (last : Option Char) (isJoined : Bool) : Text → Nat
  | [] => 0
  | c :: r =>
    if isJoined then widthFrom last false r
    else if c = joiner then widthFrom last true r
    else if c = pictureMark then widening last + widthFrom none false r
    else if columns c = 0 then widthFrom last false r
    else columns c + widthFrom (some c) false r

def width (t : Text) : Nat := widthFrom none false t

/-- Blanks added at the end up to `n` columns. -/
def padTo (n : Nat) (t : Text) : Text := t ++ List.replicate (n - t.width) ' '

/-- The beginning that fits into `n` columns. Of a cluster that only fits in part, a blank stays. -/
def takeColumns (n : Nat) : List Cluster → Text
  | [] => []
  | k :: ks =>
    if n = 0 then []
    else if k.width ≤ n then k.letters ++ takeColumns (n - k.width) ks
    else [' ']

/-- The text in exactly `n` columns, padded or cut off. -/
def fitTo (n : Nat) (t : Text) : Text :=
  if t.width ≤ n then t.padTo n else takeColumns n t.clusters

/-- Pieces of at most `n` columns, where `line` holds the piece being filled, reversed, and `used`
its columns. What takes no column at the end makes no piece. -/
def chopFrom (n : Nat) (line : List Cluster) (used : Nat) : List Cluster → List Text
  | [] => if used = 0 then [] else [line.reverse.flatMap (·.letters)]
  | k :: ks =>
    if n < used + k.width then
      line.reverse.flatMap (·.letters) :: chopFrom n [k] k.width ks
    else chopFrom n (k :: line) (used + k.width) ks

def chop (n : Nat) (t : Text) : List Text := chopFrom n [] 0 t.clusters

end Text

end TypeAtlas
