import TypeAtlas.Text.WordClass

/-!
Whole numbers written with decimal digits of any script.
-/

namespace TypeAtlas

/-- The value of a decimal digit of any script. -/
def decimalDigit (c : Char) : Nat :=
  match digitRanges.find? fun (first, last) => first ≤ c.toNat && c.toNat ≤ last with
  | some (first, _) => (c.toNat - first) % 10
  | none => c.toNat - '0'.toNat

namespace Text

def decimal (digits : Text) : Nat := digits.foldl (fun n c => 10 * n + decimalDigit c) 0

/-- More digits than this are not read as a number. -/
def mostDigits : Nat := 4300

/-- The digits of a number, between which single underscores may stand. -/
def digitsOf? (t : Text) : Option Text :=
  let groups := fields '_' t
  if groups.all fun g => !g.isEmpty && g.all isDecimal then some groups.flatten else none

/-- A whole number, perhaps with a sign and with blanks around it. -/
def toInt? (t : Text) : Option Int :=
  let t := trim isWhite t
  let (isNegative, body) := match t with
    | '-' :: r => (true, r)
    | '+' :: r => (false, r)
    | r => (false, r)
  (digitsOf? body).bind fun digits =>
    if mostDigits < digits.length then none
    else
      let n : Int := decimal digits
      some (if isNegative then -n else n)

end Text

end TypeAtlas
