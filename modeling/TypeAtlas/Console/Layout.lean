import TypeAtlas.Text.Width

/-!
Laying out text in lines that fit a number of columns. Lines break between words; a word that fits
on no line is broken itself, or cut off with dots.
-/

namespace TypeAtlas

/-- What becomes of a word that is wider than a line. -/
inductive Overflow
  | fold | dots
  deriving DecidableEq, Repr

namespace Layout

/-- A tab is one blank at least and ends at a multiple of eight columns. The fields of a line lie
between its tabs, and the first one starts at `column`. -/
def expandFields (column : Nat) : List Text → Text
  | [] => []
  | [last] => last
  | field :: rest =>
    let column := column + Text.width (field ++ [' '])
    let gap := (8 - column % 8) % 8
    field ++ List.replicate (1 + gap) ' ' ++ expandFields (column + gap) rest

def expandTabs (line : Text) : Text := expandFields 0 (Text.fields '\t' line)

/-- The words of a line with the blanks behind each, and those before the first one. `word` is the
one being read, reversed; `isOpen` while it has no letter yet, and `isOver` once blanks follow it. -/
def wordsFrom (word : Text) (isOpen isOver : Bool) : Text → List Text
  | [] => if isOpen then [] else [word.reverse]
  | c :: r =>
    if isBlank c then wordsFrom (c :: word) isOpen true r
    else if isOver && !isOpen then word.reverse :: wordsFrom [c] false false r
    else wordsFrom (c :: word) false false r

def words (line : Text) : List Text := wordsFrom [] true false line

/-- Where the pieces of a word begin that starts at `start`. -/
def pieceStarts (start : Nat) : List Text → List Nat
  | [] => []
  | piece :: rest => start :: pieceStarts (start + piece.length) rest

/-- Where a line breaks, where `used` columns are taken already and the next word is at `start`. -/
def breaksFrom (n : Nat) (overflow : Overflow) (used start : Nat) : List Text → List Nat
  | [] => []
  | word :: rest =>
    let needed := Text.width (Text.dropEndWhile isBlank word)
    let next := start + word.length
    if used + needed ≤ n then breaksFrom n overflow (used + word.width) next rest
    else if n < needed then
      match overflow with
      | .fold =>
        let pieces := word.chop n
        (pieceStarts start pieces).filter (0 < ·) ++
          breaksFrom n overflow ((pieces.getLast?.map Text.width).getD used) next rest
      | .dots => (if start = 0 then [] else [start]) ++ breaksFrom n overflow word.width next rest
    else start :: breaksFrom n overflow word.width next rest

/-- The parts of a text between the positions, where the first part starts at `start`. -/
def divide (start : Nat) (t : Text) : List Nat → List Text
  | [] => [t]
  | position :: rest => t.take (position - start) :: divide position (t.drop (position - start)) rest

/-- Blanks at the end give way, as many as there are characters beyond `n`. -/
def dropBlanksBeyond (n : Nat) (line : Text) : Text :=
  let blanks := (line.reverse.takeWhile isBlank).length
  line.take (line.length - min blanks (line.length - n))

def cutOff (n : Nat) (overflow : Overflow) (line : Text) : Text :=
  if line.width ≤ n then line
  else match overflow with
    | .fold => line.fitTo n
    | .dots => line.fitTo (n - 1) ++ ['…']

def ofLine (n : Nat) (overflow : Overflow) (line : Text) : List Text :=
  let line := expandTabs line
  (divide 0 line (breaksFrom n overflow 0 0 (words line))).map fun l =>
    cutOff n overflow (dropBlanksBeyond n l)

/-- The lines of a text in `n` columns. -/
def lines (n : Nat) (overflow : Overflow) (t : Text) : List Text :=
  (Text.fields '\n' t).flatMap (ofLine n overflow)

end Layout

end TypeAtlas
