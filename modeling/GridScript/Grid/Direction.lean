import GridScript.Abort

/-!
# Directions

The four directions of the grid in clockwise order, and the four sides of an agent, which become
directions when it faces one.

* `Direction.rightOf` and `Direction.leftOf` are inverse to each other.
* `Side.toward` turns a side into a direction by the usual rotation.
* `Side.towardModulo` does so by a rotation of another modulus, which need not lead anywhere.
-/

namespace GridScript

/-- **A direction of the grid.** -/
inductive Direction where
  | up
  | right
  | down
  | left
  deriving DecidableEq, Repr

namespace Direction

/-- All directions, clockwise from `up`. -/
def clockwise : List Direction := [up, right, down, left]

/-- The number of directions. -/
def count : Nat := 4

/-- The place of a direction in the clockwise order, from 0. -/
def index : Direction → Nat
  | up => 0
  | right => 1
  | down => 2
  | left => 3

/-- A quarter turn clockwise. -/
def rightOf : Direction → Direction
  | up => right
  | right => down
  | down => left
  | left => up

/-- A quarter turn counter-clockwise. -/
def leftOf : Direction → Direction
  | up => left
  | right => up
  | down => right
  | left => down

/-- One step this way, as the change of the column and of the row. The first row is the top one, so
`up` goes to a smaller row. -/
def vector : Direction → Int × Int
  | up => (0, -1)
  | right => (1, 0)
  | down => (0, 1)
  | left => (-1, 0)

/-- The name on the wire. -/
def name : Direction → String
  | up => "UP"
  | right => "RIGHT"
  | down => "DOWN"
  | left => "LEFT"

/-- The direction with a name. -/
def ofName? : String → Option Direction
  | "UP" => some up
  | "RIGHT" => some right
  | "DOWN" => some down
  | "LEFT" => some left
  | _ => none

@[simp] theorem rightOf_leftOf (d : Direction) : d.leftOf.rightOf = d := by
  cases d <;> rfl

@[simp] theorem leftOf_rightOf (d : Direction) : d.rightOf.leftOf = d := by
  cases d <;> rfl

@[simp] theorem ofName?_name (d : Direction) : ofName? d.name = some d := by
  cases d <;> rfl

/-- The clockwise order lists each direction at its index. -/
theorem clockwise_index (d : Direction) : clockwise[d.index]? = some d := by
  cases d <;> rfl

end Direction

/-- **A side of the agent.** -/
inductive Side where
  | front
  | right
  | back
  | left
  deriving DecidableEq, Repr

namespace Side

/-- All sides, clockwise from the front. -/
def all : List Side := [front, right, back, left]

/-- The quarter turns clockwise from the front. -/
def quarterTurns : Side → Nat
  | front => 0
  | right => 1
  | back => 2
  | left => 3

/-- The name in messages. -/
def name : Side → String
  | front => "FRONT"
  | right => "RIGHT"
  | back => "BACK"
  | left => "LEFT"

/-- The side with a name. -/
def ofName? : String → Option Side
  | "FRONT" => some front
  | "RIGHT" => some right
  | "BACK" => some back
  | "LEFT" => some left
  | _ => none

/-- The modulus of older interpreters. Rotations by it never reach `left`, so some of their sides
are not where they should be; scripts that rely on it can still be run. -/
def legacyModulus : Nat := 3

/-- **The direction of a side by a rotation modulo `modulus`.** The front is always the direction
that the agent faces. The other sides are looked up in the clockwise order, which has no place for
what a modulus of 0 or one above 4 may ask for. -/
def towardModulo (modulus : Nat) (side : Side) (facing : Direction) : Except Abort Direction :=
  match side with
  | front => .ok facing
  | _ =>
    if modulus = 0 then .error (.noDirection modulus)
    else
      match Direction.clockwise[(facing.index + side.quarterTurns) % modulus]? with
      | some d => .ok d
      | none => .error (.noDirection modulus)

/-- **The direction of a side**: the front turned clockwise by the quarter turns of the side. -/
def toward (side : Side) (facing : Direction) : Direction :=
  match side with
  | front => facing
  | right => facing.rightOf
  | back => facing.rightOf.rightOf
  | left => facing.leftOf

/-- The usual rotation is the one modulo the number of directions. -/
theorem towardModulo_count (side : Side) (facing : Direction) :
    towardModulo Direction.count side facing = .ok (side.toward facing) := by
  cases side <;> cases facing <;> rfl

end Side

end GridScript
