import GridScript.Script.Execution

/-!
# Running a script

A script is some procedures and a `main`. The procedures are noted and skipped, `main` is executed,
and then the agent is told that the run is over. What stands behind the brace that closes `main` is
never read.

* `Program.declareAll` notes the procedures.
* `Program.run` is a whole run. It begins where the machine stands, so running once more goes on
  behind the last run.
-/

namespace GridScript

namespace Program

variable {σ τ : Type}

/-- Notes one procedure, whose `proc` is the next token. -/
def declareNext : Run σ τ Unit := do
  discard <| .read .take
  let name ← .read .name
  -- the place in front of the brace, where calls will go
  let body ← .here
  unless ← .read (.nextIs "\x7b") do
    .fail (.bodyExpected name (← .read .peek)) body.place
  .read .pastBlock
  modify fun m => { m with procedures := m.procedures.insert name body }

/-- Notes procedures for as long as the next token is a `proc`. The bound is on their number. -/
def declareUpTo : (bound : Nat) → Run σ τ Unit
  | 0 => throw .unfinished
  | bound + 1 => do
    if ← .read (.nextIs "proc") then
      declareNext
      declareUpTo bound

/-- **Notes the procedures in front of `main`**, which has to follow. -/
def declareAll : Run σ τ Unit := do
  let start ← .here
  declareUpTo (start.size + 1)
  let behind ← .here
  if (← .read .peek).isNone then
    .fail .mainExpected behind.place

/-- **A whole run.** -/
def run (env : Context σ τ) : Run σ τ Unit := do
  declareAll
  .read (.expect "main")
  Execution.blockHere env env.maxDepth
  -- a run that fails has not come this far, so it stops no agent
  let behind ← .here
  Execution.tell env behind.place .stop

end Program

end GridScript
