import TypeAtlas.Text.CompositionTable
import TypeAtlas.Text.WordClass

/-!
Composed text. A character with marks can be written in several ways; composed text writes it with
as few characters as there are for it, and with its remaining marks in order.
-/

namespace TypeAtlas

/-- The class by which a mark is put in order, zero for what is no mark. -/
def combiningClass (c : Char) : Nat :=
  match combiningClasses.find? fun (first, last, _) => first ≤ c.toNat && c.toNat ≤ last with
  | some (_, _, value) => value
  | none => 0

/-! Syllables of Hangul are numbered by their three parts, of which the last may be missing. -/

namespace Hangul

def firstSyllable : Nat := 0xac00
def firstLead : Nat := 0x1100
def firstVowel : Nat := 0x1161
/-- The missing last part; the others follow it. -/
def noTail : Nat := 0x11a7
def leadCount : Nat := 19
def vowelCount : Nat := 21
def tailCount : Nat := 28
def syllableCount : Nat := leadCount * vowelCount * tailCount

def isSyllable (n : Nat) : Bool := firstSyllable ≤ n && n < firstSyllable + syllableCount

def parts (n : Nat) : List Nat :=
  let i := n - firstSyllable
  let tail := i % tailCount
  [firstLead + i / (vowelCount * tailCount), firstVowel + i / tailCount % vowelCount] ++
    (if tail = 0 then [] else [noTail + tail])

/-- A lead with a vowel, or both of them with a tail. -/
def pair? (a b : Nat) : Option Nat :=
  if firstLead ≤ a && a < firstLead + leadCount && firstVowel ≤ b && b < firstVowel + vowelCount then
    some (firstSyllable + ((a - firstLead) * vowelCount + (b - firstVowel)) * tailCount)
  else if isSyllable a && (a - firstSyllable) % tailCount = 0 && noTail < b && b < noTail + tailCount
    then some (a + (b - noTail))
  else none

end Hangul

/-- What a pair of characters composes to. -/
def composed? (a b : Char) : Option Char :=
  match Hangul.pair? a.toNat b.toNat with
  | some n => some (Char.ofNat n)
  | none => ((compositions.lookup b.toNat).bind (·.lookup a.toNat)).map Char.ofNat

/-- The pair that composes to a character. -/
def pairOf? (c : Char) : Option (Char × Char) :=
  compositions.findSome? fun (second, firsts) =>
    (firsts.find? (·.2 = c.toNat)).map fun (first, _) => (Char.ofNat first, Char.ofNat second)

namespace Text

/-- A character taken apart, its pairs down to `depth` times. -/
def decomposed : Nat → Char → Text
  | 0, c => [c]
  | depth + 1, c =>
    if Hangul.isSyllable c.toNat then (Hangul.parts c.toNat).map Char.ofNat
    else match pairOf? c with
      | some (first, second) => decomposed depth first ++ [second]
      | none => [c]

/-- No character is a pair of pairs more often than this. -/
def deepestPair : Nat := 4

/-- Puts a mark in front of ordered text, behind the marks of lower classes there. -/
def insertMark (c : Char) : Text → Text
  | [] => [c]
  | d :: r =>
    if 0 < combiningClass d && combiningClass d < combiningClass c then d :: insertMark c r
    else c :: d :: r

/-- Marks in the order of their classes; those of one class keep their order. -/
def orderMarks (t : Text) : Text := t.foldr insertMark []

/-- Composes ordered text behind a character `head`; `kept` are the marks on it so far that did not
compose, reversed. A mark reaches the character past marks of lower classes only. -/
def composeFrom (head : Char) (kept : Text) : Text → Text
  | [] => head :: kept.reverse
  | c :: r =>
    let isNear := match kept with
      | [] => true
      | last :: _ => combiningClass last < combiningClass c
    match if isNear then composed? head c else none with
    | some both => composeFrom both kept r
    | none =>
      if combiningClass c = 0 then head :: (kept.reverse ++ composeFrom c [] r)
      else composeFrom head (c :: kept) r

def compose (t : Text) : Text :=
  match orderMarks (t.flatMap (decomposed deepestPair)) with
  | [] => []
  | c :: r => composeFrom c [] r

/-- Whether composing leaves a text as it is. -/
def isComposed (t : Text) : Bool := !t.any (inRanges uncomposedRanges) && compose t == t

end Text

end TypeAtlas
