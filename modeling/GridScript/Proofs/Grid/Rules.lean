import GridScript.Agent
import GridScript.Link
import GridScript.Proofs.Grid.Regular

/-!
# The rules of the grid

What an agent can be asked to do, as it changes a world directly: no lines are exchanged, and
nothing is remembered from one operation to the next.

The rules do not count as a pilot does. A turn is a number of quarter turns from `up`, and nine gems
are the most that lie on a cell; what a pilot uses instead is shown to come to the same.

* `Operation` — what can be asked, short of changing to another grid.
* `Direction.turned` — quarter turns, with `Direction.turned_left` and `Direction.turned_right`.
* `World.goAhead`, `World.takeAhead`, `World.dropAhead`, `World.holds` — the rules.
* `Operation.rule`, `Operation.rules` — what one and several operations make of a world.
-/

namespace GridScript

/-- **What an agent can be asked on one grid.** -/
inductive Operation where
  | move (m : Move)
  | setGems (count : UInt32)
  | stop
  | showTraffic (on : Bool)
  | test (c : Condition)
  deriving DecidableEq, Repr

/-- **The result of an operation**: the value of a test, nothing of the others, or the trouble that
the operation ends in. -/
abbrev Operation.Result := Except (Trouble LinkError) (Option Bool)

/-- The quarter turns clockwise that lead from `up` to a direction. -/
def Direction.fromUp : Direction → Nat
  | up => 0
  | right => 1
  | down => 2
  | left => 3

/-- **A direction after quarter turns clockwise.** With those that lead to it from `up` they are
counted modulo `modulus`. -/
def Direction.turned (modulus quarterTurns : Nat) (d : Direction) : Direction :=
  match (d.fromUp + quarterTurns) % modulus with
  | 0 => up
  | 1 => right
  | 2 => down
  | _ => left

/-- **The direction of a side** by a rotation modulo `modulus`. The front is always where the agent
faces; the other sides are one, two and three quarter turns from there. -/
def Side.rotated (modulus : Nat) (side : Side) (facing : Direction) : Direction :=
  match side with
  -- not by a rotation: modulo 3 an agent that faces left would have its front elsewhere
  | front => facing
  | right => facing.turned modulus 1
  | back => facing.turned modulus 2
  | left => facing.turned modulus 3

/-- A quarter turn clockwise is one of four. -/
theorem Direction.turned_right (d : Direction) : d.turned 4 1 = d.rightOf := by
  cases d <;> rfl

/-- A quarter turn counter-clockwise is three of them. -/
theorem Direction.turned_left (d : Direction) : d.turned 4 3 = d.leftOf := by
  cases d <;> rfl

/-- By a rotation modulo 3 or 4 each side is in one direction. -/
theorem Side.towardModulo_eq_rotated {modulus : Nat} (h : modulus = 3 ∨ modulus = 4) (side : Side)
    (facing : Direction) :
    side.towardModulo modulus facing = .ok (side.rotated modulus facing) := by
  rcases h with rfl | rfl <;> cases side <;> cases facing <;> rfl

namespace World

/-- **A step** leads to the cell ahead, unless that is off the grid or a wall. -/
def goAhead (w : World) : World :=
  match w.next? w.facing with
  | some (c, .gems _) => { w with agent := c }
  | _ => w

/-- **A take** moves all gems of the cell ahead to the agent. If the agent would hold more than can
be counted, it fails and nothing moves. -/
def takeAhead (w : World) : Except LinkError World :=
  match w.next? w.facing with
  | some (c, .gems n) =>
    if w.held.toNat + n.toNat < UInt32.size then
      .ok { w.withCell c .empty with held := w.held + n.toUInt32 }
    else .error (.tooManyGems w.held n)
  | _ => .ok w

/-- **A drop** moves one gem from the agent to the cell ahead, unless the agent holds none or the
cell is off the grid, a wall or full. -/
def dropAhead (w : World) : World :=
  match w.next? w.facing with
  | some (c, .gems n) =>
    if 0 < w.held ∧ n < 9 then
      { w.withCell c (.gems (n + 1)) with held := w.held - 1 }
    else w
  | _ => w

/-- `true` if there is a cell in a direction, and no wall. -/
def isClear (w : World) (d : Direction) : Bool :=
  match w.next? d with
  | some (_, .gems _) => true
  | _ => false

/-- **The value of a test.** -/
def holds (modulus : Nat) (w : World) : Condition → Bool
  | .facing d => w.facing == d
  | .hasGem => 0 < w.held
  | .seesGem =>
    match w.next? w.facing with
    | some (_, .gems n) => 0 < n
    | _ => false
  | .clear side => w.isClear (side.rotated modulus w.facing)

end World

namespace Operation

/-- **What an operation makes of a world.** -/
def rule (modulus : Nat) : Operation → World → Result × World
  | move .step, w => (.ok none, w.goAhead)
  | move .turnLeft, w => (.ok none, { w with facing := w.facing.turned 4 3 })
  | move .turnRight, w => (.ok none, { w with facing := w.facing.turned 4 1 })
  | move .take, w =>
    match w.takeAhead with
    | .ok w' => (.ok none, w')
    | .error e => (.error (.failed e), w)
  | move .drop, w => (.ok none, w.dropAhead)
  | setGems n, w => (.ok none, { w with held := n })
  | stop, w => (.ok none, w)
  | showTraffic _, w => (.ok none, w)
  | test c, w => (.ok (some (w.holds modulus c)), w)

/-- **Operations one after the other.** One that fails does not keep the others from being made. -/
def rules (modulus : Nat) : List Operation → World → List Result × World
  | [], w => ([], w)
  | o :: os, w =>
    let rest := rules modulus os (o.rule modulus w).2
    ((o.rule modulus w).1 :: rest.1, rest.2)

end Operation

/-! ### Regular worlds -/

/-- Where there are less than the most gems, one more can be put. -/
theorem Cell.ordinary_gems_succ {n : UInt8} (h : n < 9) : (Cell.gems (n + 1)).Ordinary := by
  have hn : n.toNat < 9 := h
  have hsucc : (n + 1).toNat = n.toNat + 1 := by
    rw [UInt8.toNat_add, UInt8.toNat_one]
    omega
  rw [Cell.Ordinary, UInt8.le_iff_toNat_le]
  change (n + 1).toNat ≤ 9
  omega

namespace World

variable {w : World}

/-- To take no gems changes nothing. -/
theorem takeAhead_of_gems_zero {c : Coord} (h : w.Regular)
    (hn : w.next? w.facing = some (c, .gems 0)) : w.takeAhead = .ok w := by
  obtain ⟨-, -, hat, -⟩ := h.of_next?_eq_some hn
  -- an empty cell is replaced by an empty cell
  have hself : w.withCell c .empty = w := withCell_self hat
  have hroom : w.held.toNat + (0 : UInt8).toNat < UInt32.size := w.held.toNat_lt
  rw [takeAhead, hn]
  dsimp only
  rw [if_pos hroom, hself, show (0 : UInt8).toUInt32 = 0 from rfl, UInt32.add_zero]

/-- Gems that are taken leave an empty cell. -/
theorem Regular.of_takeAhead {w' : World} (h : w.Regular) (htake : w.takeAhead = .ok w') :
    w'.Regular := by
  rw [World.takeAhead] at htake
  -- regularity is about rows, so only a cell that is put can disturb it
  split at htake
  · split at htake
    · cases htake
      exact (h.withCell _ (by decide)).of_rows_eq rfl
    · cases htake
  · cases htake
    exact h

/-- **No operation makes a world irregular.** -/
theorem Regular.rule (h : w.Regular) (modulus : Nat) (o : Operation) :
    (o.rule modulus w).2.Regular := by
  cases o with
  | move m =>
    -- of all operations only take and drop change a cell
    cases m with
    | step =>
      rw [Operation.rule, goAhead]
      split
      · exact h.of_rows_eq rfl
      · exact h
    | turnLeft => exact h.of_rows_eq rfl
    | turnRight => exact h.of_rows_eq rfl
    | take =>
      rw [Operation.rule]
      split
      · next htake => exact h.of_takeAhead htake
      · exact h
    | drop =>
      rw [Operation.rule, dropAhead]
      split
      · split
        -- a cell that is not full stays ordinary with one gem more
        · next hcond => exact (h.withCell _ (Cell.ordinary_gems_succ hcond.2)).of_rows_eq rfl
        · exact h
      · exact h
  | setGems n => exact h.of_rows_eq rfl
  | stop => exact h
  | showTraffic on => exact h
  | test c => exact h

end World

end GridScript
