import TypeAtlas.Text.Basic

/-!
Text of any script written with letters, digits and hyphens. The characters of ASCII come first,
closed by a hyphen; what follows tells, in the order of their code points, which other characters
stand between them and where, each as a number in a base of 36 whose digits end by a moving
threshold.
-/

namespace TypeAtlas.Punycode

def base : Nat := 36

def digit (n : Nat) : Char := Char.ofNat (if n < 26 then 'a'.toNat + n else '0'.toNat + n - 26)

def digitValue? (c : Char) : Option Nat :=
  if c.isLower then some (c.toNat - 'a'.toNat)
  else if c.isUpper then some (c.toNat - 'A'.toNat)
  else if c.isDigit then some (c.toNat - '0'.toNat + 26)
  else none

/-- A digit below this is the last one of its number; `place` counts the digits from zero. -/
def threshold (bias place : Nat) : Nat := min 26 (max 1 (base * (place + 1) - bias))

theorem one_le_threshold (bias place : Nat) : 1 ≤ threshold bias place := by
  unfold threshold; omega

/-- Divides a distance by 35 until it is at most 455; each division counts for a whole base. -/
def scale (n counted : Nat) : Nat × Nat :=
  if 455 < n then scale (n / 35) (counted + base) else (counted, n)
termination_by n
decreasing_by omega

/-- The bias for the next number, by the last one and by how many characters there are. -/
def nextBias (delta count : Nat) (isFirst : Bool) : Nat :=
  let delta := if isFirst then delta / 700 else delta / 2
  let (counted, rest) := scale (delta + delta / count) 0
  counted + base * rest / (rest + 38)

/-- The digits of a number from a place on. -/
def digits (bias place n : Nat) : Text :=
  let t := threshold bias place
  if n < t then [digit n]
  else digit (t + (n - t) % (base - t)) :: digits bias (place + 1) ((n - t) / (base - t))
termination_by n
decreasing_by
  have positive := one_le_threshold bias place
  exact Nat.lt_of_le_of_lt (Nat.div_le_self _ _) (by omega)

/-- Writing under way: the distance since the last character written, the bias, how many characters
are written, and the digits so far. -/
structure Writing where
  delta : Nat
  bias : Nat
  count : Nat
  isFirst : Bool
  done : Text

namespace Writing

def start (count : Nat) : Writing := ⟨0, 72, count, true, []⟩

/-- Passes a character of the text while the characters `point` are written. -/
def pass (point : Nat) (w : Writing) (c : Char) : Writing :=
  if c.toNat < point then { w with delta := w.delta + 1 }
  else if c.toNat = point then
    ⟨0, nextBias w.delta (w.count + 1) w.isFirst, w.count + 1, false,
      w.done ++ digits w.bias 0 w.delta⟩
  else w

/-- Writes all characters of each of the ascending `points`, all of them `from_` or above. -/
def writePoints (t : Text) (from_ : Nat) : List Nat → Writing → Writing
  | [], w => w
  | point :: rest, w =>
    let w := t.foldl (pass point) { w with delta := w.delta + (point - from_) * (w.count + 1) }
    writePoints t (point + 1) rest { w with delta := w.delta + 1 }

end Writing

def isBasic (c : Char) : Bool := c.toNat < 128

def encode (t : Text) : Text :=
  let basic := t.filter isBasic
  let points := ((t.filter (!isBasic ·)).map Char.toNat).eraseDups.mergeSort
  basic ++ Text.onlyIf (!basic.isEmpty) "-" ++
    (Writing.writePoints t 128 points (.start basic.length)).done

/-- The number at the start of the digits, and what follows it. -/
def number? (bias place weight sum : Nat) : Text → Option (Nat × Text)
  | [] => none
  | c :: r =>
    (digitValue? c).bind fun d =>
      let t := threshold bias place
      let sum := sum + d * weight
      if d < t then some (sum, r) else number? bias (place + 1) (weight * (base - t)) sum r

/-- Inserts the characters that the digits tell of, at most `steps`: `point` is the least code point
of the next one, and `place` the first place in `done` where it can stand. -/
def insertAll (bias point place : Nat) (isFirst : Bool) (done : Text) : Nat → Text → Option Text
  | _, [] => some done
  | 0, _ :: _ => none
  | steps + 1, c :: r =>
    (number? bias 0 1 0 (c :: r)).bind fun (delta, rest) =>
      let count := done.length + 1
      let point := point + (place + delta) / count
      let place := (place + delta) % count
      if point.isValidChar then
        insertAll (nextBias delta count isFirst) point (place + 1) false
          (done.take place ++ Char.ofNat point :: done.drop place) steps rest
      else none

def decode? (t : Text) : Option Text :=
  let (basic, coded) := (Text.cutLast? "-" t).getD ([], t)
  insertAll 72 128 0 true basic coded.length coded

end TypeAtlas.Punycode
