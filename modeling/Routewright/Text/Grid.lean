/-!
# Grids of characters

The characters of a large charset stand in rows and columns. A grid says what the first row and the
first column are counted as.
-/

namespace Routewright.Text

/-- Characters in rows and columns. A blank stands for no character. -/
structure Grid where
  firstRow : Nat
  firstColumn : Nat
  rows : Array (Array Char)

/-- The grid whose rows are given as texts. -/
def grid (firstRow firstColumn : Nat) (rows : List String) : Grid :=
  { firstRow, firstColumn, rows := (rows.map fun row => row.toList.toArray).toArray }

namespace Grid

/-- The character at a place. -/
def char? (g : Grid) (row column : Nat) : Option Char :=
  if row < g.firstRow || column < g.firstColumn then none
  else (g.rows[row - g.firstRow]?.bind (·[column - g.firstColumn]?)).filter (· ≠ ' ')

/-- The character at a place of the first of some grids that has one there. -/
def find? (grids : List Grid) (row column : Nat) : Option Char :=
  grids.findSome? (·.char? row column)

/-- All characters of a grid. -/
def chars (g : Grid) : List Char :=
  g.rows.toList.flatMap fun row => row.toList.filter (· ≠ ' ')

end Grid

end Routewright.Text
