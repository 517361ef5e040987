import LintConfig.Console.Print

/-! Tables of two columns, with lines around the cells. Each cell has a blank at both sides. A table
that would be too wide takes the excess from its wider column first. -/

namespace LintConfig.Console

/-- A cell, its markup gone. -/
abbrev Cell := List Char

structure Table where
  heading : Cell × Cell
  rows : List (Cell × Cell)
  deriving DecidableEq, Repr

namespace Table

/-- The blanks at the sides of a cell. -/
def padding : Nat := 2

/-- The columns that the lines of a table take. -/
def frame : Nat := 3

/-- The columns that all cells together can take. -/
def room : Nat := columns - frame

/-- The width a cell asks for. -/
def cellWidth (cell : Cell) : Nat :=
  let lines := (Text.lines (cell.filter (!Wrap.isDropped ·))).map fun line =>
    width (line.filter (!Text.isLineBreak ·))
  min room (min room (lines.foldl max 0) + padding)

/-- Half of a number; of two that are equally near, the even one. -/
def evenHalf (n : Nat) : Nat := if n % 4 = 3 then n / 2 + 1 else n / 2

/-- The widths of two columns, cut down to the room there is. -/
def share (room a b : Nat) : Nat × Nat :=
  let excess := a + b - room
  let a' := a - min excess (a - b)
  let b' := b - min excess (b - a)
  let rest := a' + b' - room
  (a' - evenHalf rest, b' - (rest - evenHalf rest))

def cellsOf (t : Table) : List (Cell × Cell) := t.heading :: t.rows

/-- The widths of the two columns of a table. -/
def widths (t : Table) : Nat × Nat :=
  let widest := fun (f : Cell × Cell → Cell) =>
    (t.cellsOf.map fun row => cellWidth (f row)).foldl max 0
  share room (widest Prod.fst) (widest Prod.snd)

/-- The lines of a cell, each as wide as its column. -/
def cellLines (columns : Nat) (cell : Cell) : List (List Char) :=
  (wrap (columns - padding) .ellipsis cell).map fun line =>
    ' ' :: fit (columns - padding) line ++ [' ']

/-- Lines made more by blank ones, above or below them. -/
def heighten (columns height : Nat) (below : Bool) (lines : List (List Char)) : List (List Char) :=
  let blank := List.replicate (height - lines.length) (spaces columns)
  if below then lines ++ blank else blank ++ lines

/-- The lines of a row, with a character at both sides of each cell. -/
def rowLines (a b : Nat) (bar : Char) (below : Bool) (row : Cell × Cell) : List (List Char) :=
  let left := cellLines a row.1
  let right := cellLines b row.2
  let height := max left.length right.length
  (List.zip (heighten a height below left) (heighten b height below right)).map fun (l, r) =>
    bar :: l ++ bar :: r ++ [bar]

/-- A line across the table. -/
def border (a b : Nat) (first line middle last : Char) : List Char :=
  first :: List.replicate a line ++ middle :: List.replicate b line ++ [last]

/-- The lines of a table. -/
def lines (t : Table) : List (List Char) :=
  let (a, b) := t.widths
  [border a b '┏' '━' '┳' '┓'] ++ rowLines a b '┃' false t.heading ++
    [border a b '┡' '━' '╇' '┩'] ++ t.rows.flatMap (rowLines a b '│' true) ++
    [border a b '└' '─' '┴' '┘']

/-- A table as it is printed. -/
def print (t : Table) : String := ended t.lines

end Table

end LintConfig.Console
