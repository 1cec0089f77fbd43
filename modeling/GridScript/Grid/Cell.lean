/-!
# Cells

A cell of the grid is a wall or holds gems. On the wire and in layouts it is one character.

* `Cell.ofText?` reads it, `Cell.text` writes it.
-/

namespace GridScript

/-- **What a cell holds.** -/
inductive Cell where
  | wall
  | gems (count : UInt8)
  deriving DecidableEq, Repr

namespace Cell

/-- A cell to walk on, without gems. -/
def empty : Cell := gems 0

/-- The most gems that are put on one cell. -/
def mostGems : UInt8 := 9

/-- `true` for a wall. -/
def isWall : Cell → Bool
  | wall => true
  | gems _ => false

/-- The number of gems; a wall holds none. -/
def gemCount : Cell → UInt8
  | wall => 0
  | gems n => n

/-- The text of a cell: `X`, or the number of gems. -/
def text : Cell → String
  | wall => "X"
  | gems n => Nat.repr n.toNat

/-- **The cell with a text**: `X`, one digit, or `.` for an empty cell. -/
def ofText? (s : String) : Option Cell :=
  match s.toList with
  | ['X'] => some wall
  | ['.'] => some empty
  | [c] => if '0' ≤ c ∧ c ≤ '9' then some (gems (c.toNat - '0'.toNat).toUInt8) else none
  | _ => none

end Cell

/-- **A text that is no value of the kind wanted.** -/
inductive ValueError where
  | direction (text : String)
  | cell (text : String)
  deriving DecidableEq, Repr

namespace ValueError

/-- The message. -/
def message : ValueError → String
  | direction s => "unknown direction '" ++ s ++ "'"
  | cell s => "invalid cell content '" ++ s ++ "'"

end ValueError

end GridScript
