import GridScript.Grid.Cell
import GridScript.Grid.Coord
import GridScript.Text.Blank

/-!
# Grid worlds

A world is a grid of cells with an agent on it, or beside it: nothing keeps the agent's coordinates
inside the grid. The first row says how wide the grid is.

* `World.ofLayout` reads a grid from text.
* `World.at?` and `World.put?` read and write a cell. A row that is shorter than the first one
  has cells missing, and touching one of those breaks off.
-/

namespace GridScript

/-- **A grid with an agent.** -/
structure World where
  /-- The rows of cells, from the top. -/
  rows : List (List Cell)
  agent : Coord
  facing : Direction
  /-- The gems that the agent holds. -/
  held : UInt32
  deriving DecidableEq, Repr

namespace World

/-- A grid with an agent in its top left corner, which faces up and holds nothing. -/
def ofRows (rows : List (List Cell)) : World :=
  ⟨rows, .origin, .up, 0⟩

/-- A grid of empty cells. -/
def empty (width height : Nat) : World :=
  ofRows (List.replicate height (List.replicate width .empty))

/-- The cells of one row of a layout, or the first text that is no cell. -/
def rowOfText : List Char → Except ValueError (List Cell)
  | [] => .ok []
  | c :: cs =>
    match Cell.ofText? c.toString with
    | none => .error (.cell c.toString)
    | some cell => (rowOfText cs).map (cell :: ·)

/-- The rows of a layout that are not blank, without the blanks around them. -/
def layoutRows (layout : String) : List (List Char) :=
  ((layout.toList.splitOnP (· == '\n')).map Blank.trimChars).filter (!·.isEmpty)

/-- **The world of a layout**: a line of cells for each row. Blank lines and the blanks around a
row do not count. -/
def ofLayout (layout : String) : Except ValueError World :=
  ((layoutRows layout).mapM rowOfText).map ofRows

variable (w : World)

/-- **The size of the grid**, which is as wide as its first row. -/
def size : GridSize :=
  ⟨.ofNat (w.rows.head?.getD []).length, .ofNat w.rows.length⟩

/-- **The cell at a coordinate**, or `none` outside the grid. -/
def at? (c : Coord) : Except Abort (Option Cell) :=
  if w.size.contains c then
    match (w.rows[c.y.toInt.toNat]?).bind (·[c.x.toInt.toNat]?) with
    | some cell => .ok (some cell)
    -- inside the size of the grid, but past the end of a row shorter than the first
    | none => .error .missingCell
  else .ok none

/-- **The world with a cell replaced**, or `none` outside the grid. -/
def put? (c : Coord) (cell : Cell) : Except Abort (Option World) :=
  (w.at? c).map fun old =>
    old.map fun _ =>
      { w with rows := w.rows.modify c.y.toInt.toNat (·.set c.x.toInt.toNat cell) }

end World

end GridScript
