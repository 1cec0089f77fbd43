/-!
# Breaking off

A few questions have no answer: a cell of a row that is too short, a turn to a fifth direction, what
a far end is going to say. What comes upon one breaks off. That is no error of the script or of the
agent, so nobody handles it, and checked settings, rectangular grids and far ends that are there
never lead to it.

* `Trouble` is how an operation ends early: with an error that its caller may handle, or by breaking
  off.
-/

namespace GridScript

/-- **Why something breaks off.** -/
inductive Abort where
  /-- A cell inside the grid is missing, because its row is shorter than the first. -/
  | missingCell
  /-- A rotation by this modulus does not lead to one of the four directions. -/
  | noDirection (modulus : Nat)
  /-- What comes next of a conversation is not known yet. -/
  | unanswered
  deriving DecidableEq, Repr

/-- **How an operation ends early.** -/
inductive Trouble (ε : Type) where
  /-- With an error. -/
  | failed (e : ε)
  /-- By breaking off. -/
  | aborted (a : Abort)
  deriving DecidableEq, Repr

namespace Trouble

/-- The same trouble, with its error seen as another. -/
def map {ε ε' : Type} (f : ε → ε') : Trouble ε → Trouble ε'
  | failed e => failed (f e)
  | aborted a => aborted a

end Trouble

end GridScript
