import TypeAtlas.Text.CaseTable
import TypeAtlas.Text.Mark

/-!
Letter case: capitals, small forms, and equality that ignores case.
-/

namespace TypeAtlas

namespace CaseSpan

def covers (s : CaseSpan) (n : Nat) : Bool :=
  s.first ≤ n && n ≤ s.last && (n - s.first) % s.step == 0

end CaseSpan

/-- The small form of a letter, one character long. -/
def smallForm (c : Char) : Char :=
  if c.toNat < 128 then c.toLower
  else if c.toNat = 0x130 then 'i'
  else match lowerSpans.find? (·.covers c.toNat) with
    | some s => Char.ofNat (c.toNat + s.shift).toNat
    | none => c

def isCapital (c : Char) : Bool :=
  if c.toNat < 128 then c.isUpper
  else (smallForm c != c && !inRanges titleRanges c) || inRanges bareCapitalRanges c

/-- The small form in full: the dotted capital I keeps its dot as a mark of its own. -/
def lowered (c : Char) : Text :=
  if c.toNat = 0x130 then ['i', Char.ofNat 0x307] else [smallForm c]

/-- Small letters that `c` agrees with when case is ignored. -/
def caseClass (c : Char) : List Char :=
  let small := smallForm c
  match sharedCapitals.find? (·.contains small.toNat) with
  | some shared => shared.map Char.ofNat
  | none => [small]

def equalIgnoringCase (a b : Char) : Bool := (caseClass a).contains (smallForm b)

/-- The code points whose small form is `c`, and `c` itself when it is small. -/
def withSmallForm (c : Char) : List Char :=
  let capitals := lowerSpans.filterMap fun s =>
    let n : Int := c.toNat - s.shift
    if 0 ≤ n && s.covers n.toNat then some (Char.ofNat n.toNat) else none
  let capitals := if c = 'i' then Char.ofNat 0x130 :: capitals else capitals
  let capitals := if c.isLower then c.toUpper :: capitals else capitals
  if smallForm c = c then c :: capitals else capitals

/-- All characters that agree with `c` when case is ignored. -/
def caseVariants (c : Char) : List Char := (caseClass c).flatMap withSmallForm

def isCased (c : Char) : Bool := if c.toNat < 128 then c.isAlpha else inRanges casedRanges c

/-- Signs and marks that a word may hold without any say in its case. -/
def isCaseless (c : Char) : Bool :=
  if c.toNat < 128 then "'.:^".toList.contains c || c.toNat = 0x60
  else inRanges caselessRanges c || isPlainMark c || isEnclosingMark c

def capitalSigma : Char := Char.ofNat 0x3a3

def finalSigma : Char := Char.ofNat 0x3c2

namespace Text

/-- Whether what comes first, caseless signs aside, has case. -/
def startsCased (t : Text) : Bool := (t.dropWhile isCaseless).head?.any isCased

/-- Small forms throughout; `inWord` says whether what stands before has case. A sigma at the end of
a word has a form of its own. -/
def lowerFrom (inWord : Bool) : Text → Text
  | [] => []
  | c :: r =>
    (if c = capitalSigma && inWord && !startsCased r then [finalSigma] else lowered c) ++
      lowerFrom (if isCaseless c then inWord else isCased c) r

def lower (t : Text) : Text := lowerFrom false t

end Text

end TypeAtlas
