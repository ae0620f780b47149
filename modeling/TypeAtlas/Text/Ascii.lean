import TypeAtlas.Text.Basic

/-!
Text that has to be ASCII.
-/

namespace TypeAtlas

def isAscii (c : Char) : Bool := c.toNat < 128

/-- The first characters of a text that are not ASCII: where they stand, which is the first of them,
and how many others follow it at once. -/
structure AsciiError where
  position : Nat
  first : Char
  more : Nat
  deriving DecidableEq, Repr

namespace AsciiError

def escaped (c : Char) : Text :=
  let n := c.toNat
  if n < 0x100 then "\\x" ++ Text.hex 2 n
  else if n < 0x10000 then "\\u" ++ Text.hex 4 n
  else "\\U" ++ Text.hex 8 n

def place (e : AsciiError) : Text :=
  if e.more = 0 then "character '" ++ escaped e.first ++ "' in position " ++ Text.ofNat e.position
  else "characters in position " ++ Text.ofNat e.position ++ "-" ++ Text.ofNat (e.position + e.more)

def message (e : AsciiError) : Text :=
  "'ascii' codec can't encode " ++ e.place ++ ": ordinal not in range(128)"

end AsciiError

namespace Text

def asciiError? (t : Text) : Option AsciiError :=
  match t.dropWhile isAscii with
  | [] => none
  | c :: r => some ⟨(t.takeWhile isAscii).length, c, (r.takeWhile (!isAscii ·)).length⟩

end Text

end TypeAtlas
