import TypeAtlas.Console.Screen

/-!
Tables drawn with lines. Every column is as wide as its widest cell, with a blank on either side;
the widest columns give way when a table is wider than the console. The heading stands between heavy
lines.
-/

namespace TypeAtlas

/-- The characters of a horizontal line: its two ends, what it is made of, and where columns meet. -/
structure Ruling where
  left : Char
  fill : Char
  crossing : Char
  right : Char

namespace Ruling

def top : Ruling := ⟨'┏', '━', '┳', '┓'⟩
def underHeading : Ruling := ⟨'┡', '━', '╇', '┩'⟩
def bottom : Ruling := ⟨'└', '─', '┴', '┘'⟩

def draw (r : Ruling) (widths : List Nat) : Text :=
  r.left :: ((widths.map fun w => List.replicate w r.fill).intersperse [r.crossing]).flatten ++
    [r.right]

end Ruling

/-- A heading and the rows below it, each with as many cells. -/
structure Grid where
  heading : List Text
  rows : List (List Text)
  deriving DecidableEq, Repr

namespace Grid

/-- The columns of the blanks around a cell. -/
def padding : Nat := 2

/-- What separates the lines of a cell that is measured. -/
def endsLine (c : Char) : Bool :=
  let n := c.toNat
  (10 ≤ n && n ≤ 13) || (28 ≤ n && n ≤ 30) || n = 0x85 || n = 0x2028 || n = 0x2029

/-- The columns of a cell up to `most`. A tab takes none. -/
def cellWidth (most : Nat) (cell : Text) : Nat :=
  min most (padding + ((Text.runs (fun c => !endsLine c) cell).map Text.width).foldl max 0)

/-- The width that each column needs, one row after the other. -/
def widthsIn (most : Nat) (g : Grid) : List Nat :=
  g.rows.foldl (fun known row => List.zipWith max known (row.map (cellWidth most)))
    (g.heading.map (cellWidth most))

/-- The quotient to the nearest whole number, and a half to an even one. -/
def share (total parts : Nat) : Nat :=
  let down := total / parts
  let rest := 2 * (total % parts)
  if parts < rest || (rest = parts && down % 2 = 1) then down + 1 else down

/-- Takes `excess` in equal shares, of at most `most` each, from the widths equal to `widest`. -/
def reduce (widest most excess parts : Nat) : List Nat → List Nat
  | [] => []
  | w :: ws =>
    if w = widest && 0 < parts then
      let taken := min most (share excess parts)
      (w - taken) :: reduce widest most (excess - taken) (parts - 1) ws
    else w :: reduce widest most excess parts ws

def sum (widths : List Nat) : Nat := widths.foldl (· + ·) 0

/-- Reduces the widest columns to the width of the next ones until they fit into `most` columns;
`fuel` bounds the number of steps. -/
def collapse (most : Nat) : Nat → List Nat → List Nat
  | 0, widths => widths
  | fuel + 1, widths =>
    let excess := sum widths - most
    if excess = 0 then widths
    else
      let widest := widths.foldl max 0
      let second := (widths.filter (· ≠ widest)).foldl max 0
      collapse most fuel
        (reduce widest (min excess (widest - second)) excess (widths.count widest) widths)

/-- The lines between and around the columns. -/
def bars (g : Grid) : Nat := g.heading.length + 1

/-- The widths of the columns on a console of `n` columns. -/
def widths (n : Nat) (g : Grid) : List Nat :=
  let most := n - g.bars
  let needed := g.widthsIn most
  collapse most (sum needed) needed

def drawLine (bar : Char) (cells : List Text) : Text :=
  bar :: (cells.map fun cell => ' ' :: (cell ++ [' ', bar])).flatten

/-- The lines of a cell in a column, all of one width. -/
def cellLines (width : Nat) (cell : Text) : List Text :=
  (Layout.lines (width - padding) .dots cell).map fun l => l.fitTo (width - padding)

/-- A row takes as many lines as its longest cell. -/
def drawRow (bar : Char) (widths : List Nat) (row : List Text) : List Text :=
  let cells := List.zipWith cellLines widths row
  let height := (cells.map List.length).foldl max 1
  let blank := widths.map fun w => List.replicate (w - padding) ' '
  (List.range height).map fun i =>
    drawLine bar (List.zipWith (fun empty cell => (cell[i]?).getD empty) blank cells)

/-- The lines of a table on a console of `n` columns. -/
def draw (n : Nat) (g : Grid) : List Text :=
  let widths := g.widths n
  Ruling.top.draw widths :: drawRow '┃' widths g.heading ++
    Ruling.underHeading.draw widths :: g.rows.flatMap (drawRow '│' widths) ++
    [Ruling.bottom.draw widths]

end Grid

/-- Prints a grid of styled cells, or nothing of it if one of them cannot be read. -/
def Screen.printGrid {ε : Type} [Coe StyledFault ε] (g : Grid) : Screen ε Unit :=
  match g.rows.mapM fun row => row.mapM shown with
  | .ok rows => Screen.print (Text.join "\n" (Grid.draw lineWidth { g with rows := rows }))
  | .error f => crash f

end TypeAtlas
