/-!
# Grids of characters

The character sets of the Japanese standards are grids: rows of ninety-four cells, both counted from
one. A grid is written down as bands of consecutive rows, each row a string of its cells in which a
full stop marks a cell that holds no character. No row of these sets has the ASCII full stop as a
character.
-/

namespace Dialogue.Jis

/-- The number of cells of a row. -/
def rowLength : Nat := 94

/-- **A band of a grid**: consecutive rows, from a first one on. -/
structure Band where
  /-- The number of the first row. -/
  first : Nat
  /-- The rows, each with all its cells. -/
  rows : List String

/-- The mark of a cell without a character. -/
def emptyCell : Char := '.'

/-- The character in a cell of a band. -/
def Band.cell? (b : Band) (row cell : Nat) : Option Char :=
  if row < b.first ∨ cell = 0 then none
  else do
    let cells ← b.rows[row - b.first]?
    let c ← cells.toList[cell - 1]?
    if c = emptyCell then none else some c

/-- **A grid of characters**: the first band that has a character in a cell decides. -/
abbrev Grid := List Band

/-- The character in a cell of a grid. -/
def Grid.cell? (g : Grid) (row cell : Nat) : Option Char :=
  g.findSome? (·.cell? row cell)

end Dialogue.Jis
