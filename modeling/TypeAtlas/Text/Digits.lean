import TypeAtlas.Text.Basic

/-!
Digits and the numbers they write.
-/

namespace TypeAtlas

def isHexDigit (c : Char) : Bool :=
  c.isDigit || ('a' ≤ c && c ≤ 'f') || ('A' ≤ c && c ≤ 'F')

def hexDigit (c : Char) : Nat :=
  if c.isDigit then c.toNat - '0'.toNat else c.toUpper.toNat - 'A'.toNat + 10

def hexValue (t : Text) : Nat := t.foldl (fun n c => 16 * n + hexDigit c) 0

def decimalValue (t : Text) : Nat := t.foldl (fun n c => 10 * n + (c.toNat - '0'.toNat)) 0

end TypeAtlas
