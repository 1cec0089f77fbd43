import GridScript.Grid.Coord

/-!
# What is believed about the agent

* `Belief` holds what the conversation with the far end has established. Everything starts unknown,
  is asked for when it is first needed, and changes only when the far end has acknowledged a
  change.
-/

namespace GridScript

/-- **What is known about the agent and its grid.** -/
structure Belief where
  location : Option Coord
  facing : Option Direction
  /-- The gems that the agent holds. -/
  gems : Option UInt32
  gridSize : Option GridSize
  deriving DecidableEq, Repr

namespace Belief

/-- Nothing is known. -/
def empty : Belief := ⟨none, none, none, none⟩

/-- `true` if nothing is known. -/
def isEmpty (b : Belief) : Bool := b == empty

/-- **After another grid has been loaded** the agent is somewhere else, and only the gems that it
holds are still known. -/
def onNewGrid (b : Belief) : Belief :=
  { b with location := none, facing := none, gridSize := none }

end Belief

end GridScript
