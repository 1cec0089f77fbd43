import GridScript.Abort
import GridScript.Diagnostic
import GridScript.Grid.Direction

/-!
# What a script asks of an agent

* `Command` and `Condition` are everything that a running script can say to an agent.
* `Agent` carries it out; the state between two requests is the agent's own.
-/

namespace GridScript

/-- **What an agent does on the grid.** -/
inductive Move where
  /-- Go to the cell ahead. A wall or the edge makes this no move at all. -/
  | step
  /-- Turn a quarter counter-clockwise. -/
  | turnLeft
  /-- Turn a quarter clockwise. -/
  | turnRight
  /-- Pick up all gems of the cell ahead. -/
  | take
  /-- Put one gem on the cell ahead. -/
  | drop
  deriving DecidableEq, Repr

namespace Move

/-- The word of the script language for a move. -/
def keyword : Move → String
  | step => "step"
  | turnLeft => "turnL"
  | turnRight => "turnR"
  | take => "take"
  | drop => "drop"

/-- The move that a word names. -/
def ofWord? : String → Option Move
  | "step" => some step
  | "turnL" => some turnLeft
  | "turnR" => some turnRight
  | "take" => some take
  | "drop" => some drop
  | _ => none

@[simp] theorem ofWord?_keyword (m : Move) : ofWord? m.keyword = some m := by
  cases m <;> rfl

end Move

/-- **What an agent is told.** -/
inductive Command where
  /-- Do something on the grid. -/
  | move (m : Move)
  /-- Change to the grid with this name. -/
  | loadGrid (name : String)
  /-- Hold this many gems. -/
  | setGems (count : UInt32)
  /-- The run is over. -/
  | stop
  deriving DecidableEq, Repr

/-- **What an agent is asked.** -/
inductive Condition where
  /-- Is the cell on this side there, and no wall? -/
  | clear (side : Side)
  /-- Are there gems on the cell ahead? -/
  | seesGem
  /-- Does the agent hold a gem? -/
  | hasGem
  /-- Does the agent face this way? -/
  | facing (direction : Direction)
  deriving DecidableEq, Repr

namespace Condition

/-- The condition that a word names. North is `up`. -/
def ofWord? : String → Option Condition
  | "leftclear" => some (clear .left)
  | "rightclear" => some (clear .right)
  | "frontclear" => some (clear .front)
  | "backclear" => some (clear .back)
  | "seejem" => some seesGem
  | "hasjem" => some hasGem
  | "facingN" => some (facing .up)
  | "facingE" => some (facing .right)
  | "facingS" => some (facing .down)
  | "facingW" => some (facing .left)
  | _ => none

end Condition

/-- **An agent** with states `σ`. Each request either succeeds or ends in trouble, and leaves a
state behind in both cases. -/
structure Agent (σ : Type) where
  obey : Command → EStateM (Trouble Diagnostic) σ Unit
  answer : Condition → EStateM (Trouble Diagnostic) σ Bool

/-- **Where printed text goes**, with states `τ`. A line may be refused, with a reason. -/
structure Sink (τ : Type) where
  print : String → EStateM String τ Unit

end GridScript
