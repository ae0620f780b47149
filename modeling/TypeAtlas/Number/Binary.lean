import TypeAtlas.Text.Basic

/-!
Real numbers in binary with 53 significant bits: reading a decimal to the nearest one, and writing
one with the fewest decimal digits that read back.
-/

namespace TypeAtlas

/-- A finite number is `magnitude * 2 ^ exponent`, with a sign. -/
inductive Binary
  | finite (isNegative : Bool) (magnitude : Nat) (exponent : Int)
  | infinite (isNegative : Bool)
  | undefined
  deriving DecidableEq, Repr

namespace Binary

def twoTo (n : Nat) : Nat := Nat.pow 2 n

def tenTo (n : Nat) : Nat := Nat.pow 10 n

/-- The quotient rounded to the nearest, a tie to the even neighbour. -/
def roundDiv (num den : Nat) : Nat :=
  let q := num / den
  let r := num % den
  if 2 * r > den || (2 * r == den && q % 2 == 1) then q + 1 else q

/-- A nonnegative rational `num / den` as a magnitude and an exponent. -/
def roundRatio (num den : Nat) : Nat × Int :=
  let guess : Int := (num.log2 : Int) - den.log2 - 53
  let scaled (e : Int) : Nat × Nat := (num * twoTo (-e).toNat, den * twoTo e.toNat)
  let fits (e : Int) : Bool := let (n, d) := scaled e; n < d * twoTo 53
  let exponent := if fits guess then guess else if fits (guess + 1) then guess + 1 else guess + 2
  let exponent := max exponent (-1074)
  let (n, d) := scaled exponent
  (roundDiv n d, exponent)

/-- The number nearest to `digits * 10 ^ power`. -/
def ofDecimal (isNegative : Bool) (digits : Nat) (power : Int) : Binary :=
  if digits = 0 then finite isNegative 0 0
  else
    let places : Int := (Nat.toDigits 10 digits).length + power
    if places > 400 then infinite isNegative
    else if places < -400 then finite isNegative 0 0
    else
      let (m, e) := roundRatio (digits * tenTo power.toNat) (tenTo (-power).toNat)
      if m * twoTo e.toNat ≥ twoTo 1024 then infinite isNegative else finite isNegative m e

/-- The integer that a number is, if it is one. -/
def toInt? : Binary → Option Int
  | finite isNegative m e =>
    let den := twoTo (-e).toNat
    if m % den = 0 then
      let n : Int := (m / den * twoTo e.toNat : Nat)
      some (if isNegative then -n else n)
    else none
  | _ => none

def isFinite : Binary → Bool
  | finite _ _ _ => true
  | _ => false

def reads (d : Nat) (p : Int) (m : Nat) (e : Int) : Bool :=
  match ofDecimal false d p with
  | finite _ m' e' =>
    let low := min e e'
    m' * twoTo (e' - low).toNat == m * twoTo (e - low).toNat
  | _ => false

/-- The neighbour on the grid of step `10 ^ p` that reads back, the nearer one first. -/
def neighbour? (m : Nat) (e p : Int) : Option (Nat × Int) :=
  let num := m * twoTo e.toNat * tenTo (-p).toNat
  let den := twoTo (-e).toNat * tenTo p.toNat
  let near := roundDiv num den
  let far := if near = num / den then near + 1 else near - 1
  [near, far].findSome? fun d => if d ≠ 0 && reads d p m e then some (d, p) else none

/-- The fewest digits `d` and the power `p` such that `d * 10 ^ p` reads back as the number: the
coarsest grid with a neighbour that does. -/
def shortest (m : Nat) (e : Int) : Nat × Int :=
  let whole := m * twoTo e.toNat / twoTo (-e).toNat
  let places : Int := (Nat.toDigits 10 whole).length
  ((List.range 700).findSome? fun (k : Nat) => neighbour? m e (places - k)).getD (whole, 0)

/-- Positional from `10 ^ -4` below `10 ^ 16`, with at least one decimal; else with an exponent of
at least two digits. -/
def render : Binary → Text
  | undefined => "nan"
  | infinite isNegative => Text.onlyIf isNegative "-" ++ "inf"
  | finite isNegative 0 _ => Text.onlyIf isNegative "-" ++ "0.0"
  | finite isNegative m e =>
    let (d, p) := shortest m e
    let digits := Text.ofNat d
    let point : Int := digits.length + p
    Text.onlyIf isNegative "-" ++
      if -4 < point && point ≤ 16 then
        if point ≤ 0 then "0." ++ List.replicate (-point).toNat '0' ++ digits
        else
          let whole := digits.take point.toNat
          let decimals := digits.drop point.toNat
          whole ++ List.replicate (point.toNat - whole.length) '0' ++ "." ++
            if decimals.isEmpty then ['0'] else decimals
      else
        let power := point - 1
        let shown := Text.ofNat power.natAbs
        digits.take 1 ++ Text.onlyIf (1 < digits.length) ('.' :: digits.drop 1) ++ "e" ++
          (if power < 0 then ['-'] else ['+']) ++
          List.replicate (2 - shown.length) '0' ++ shown

end Binary

end TypeAtlas
