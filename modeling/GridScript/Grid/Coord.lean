import GridScript.Grid.Direction
import GridScript.Text.Numeral

/-!
# Coordinates

A coordinate is a column and a row, counted from the top left cell. Both are 32-bit integers, as on
the wire, and a step past the last of them stays there.

* `Coord.step` is the neighbour in a direction.
* `GridSize.contains` tells the coordinates inside a grid.
-/

namespace GridScript

/-- **A column and a row.** -/
structure Coord where
  x : Int32
  y : Int32
  deriving DecidableEq, Repr

namespace Coord

/-- The top left cell. -/
def origin : Coord := ⟨0, 0⟩

/-- **The neighbour in a direction.** A step that would leave the 32-bit integers stays at the last
of them. -/
def step (c : Coord) (d : Direction) : Coord :=
  let (dx, dy) := d.vector
  ⟨.ofIntClamp (c.x.toInt + dx), .ofIntClamp (c.y.toInt + dy)⟩

/-- The column and the row as text. -/
def text (c : Coord) : String :=
  Numeral.ofInt c.x.toInt ++ " " ++ Numeral.ofInt c.y.toInt

end Coord

/-- **The columns and rows of a grid.** A far end may claim any two integers. -/
structure GridSize where
  width : Int32
  height : Int32
  deriving DecidableEq, Repr

namespace GridSize

/-- **`true` for the coordinates inside the grid.** -/
def contains (s : GridSize) (c : Coord) : Bool :=
  decide (0 ≤ c.x) && decide (c.x < s.width) && decide (0 ≤ c.y) && decide (c.y < s.height)

end GridSize

end GridScript
