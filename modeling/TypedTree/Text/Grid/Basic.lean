/-! # Grids of characters

The large character sets of East Asia are grids of rows, of which two bytes choose a row and a
column. The replacement character holds a place that is not taken, and the end of a row may be
missing.
-/

namespace TypedTree.Text

/-- The rows of a grid. -/
abbrev Grid := List String

namespace Grid

/-- What stands in a place that is not taken. -/
def hole : Char := '\uFFFD'

/-- The code point in a row and a column, both from zero. -/
def point? (g : Grid) (row column : Nat) : Option Nat :=
  let c := g[row]?.bind fun r => r.toList[column]?
  (c.filter (· ≠ hole)).map Char.toNat

/-- The code points of a grid, row by row. -/
def points (g : Grid) : List Nat :=
  g.flatMap fun row => (row.toList.filter (· ≠ hole)).map Char.toNat

end Grid

end TypedTree.Text
