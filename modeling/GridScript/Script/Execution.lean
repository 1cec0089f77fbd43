import GridScript.Script.Machine
import GridScript.Script.Skip

/-!
# Executing instructions

A script is executed as it is read. Nothing is built from it: a loop goes back to the place where
its body begins, a call goes to the procedure and comes back, and code that does not run is skipped.
So a mistake shows only when execution comes upon it, and what stands before it has been done.

* `Execution.instruction` executes one instruction, `Execution.block` and `Execution.body` what
  instructions are made into.
* `Execution.blockHere` is a block in which procedures can be called.
-/

namespace GridScript

namespace Execution

variable {σ τ : Type} (env : Context σ τ)

/-! ### Requests -/

/-- Tells the agent something. -/
def tell (place : Position) (c : Command) : Run σ τ Unit :=
  .ask place (env.agent.obey c)

/-- **Reads a test and asks the agent for its value.** -/
def test : Run σ τ Bool := do
  let start ← .here
  let t ← .read .test
  let value ← .ask start.place (env.agent.answer t.condition)
  return value != t.negated

/-! ### Flat instructions -/

/-- Moves, behind the first of them, up to a semicolon. Each is made as soon as it is read, so those
before a mistake have been made when it shows. The bound is on their number. -/
def movesUpTo : (bound : Nat) → Run σ τ Unit
  | 0 => throw .unfinished
  | bound + 1 => do
    let start ← .here
    let token ← .read .take
    if token.isSpelled ";" then return
    match token.word?.bind Move.ofWord? with
    | some m =>
      tell env start.place (.move m)
      movesUpTo bound
    | none => .fail (.notMove token) start.place

/-- **One or more moves**, the first of which has been read at a place. -/
def moves (place : Position) (first : Move) : Run σ τ Unit := do
  tell env place (.move first)
  let rest ← .here
  movesUpTo env (rest.size + 1)

/-- **Sets up a grid or gems.** The agent is told before the semicolon is read. -/
def setUp : Run σ τ Unit := do
  let start ← .here
  let target ← .read .take
  match target.word? with
  | some "grid" =>
    let name ← .read .gridName
    tell env start.place (.loadGrid name)
  | some "gems" =>
    let count ← .read .integer
    tell env start.place (.setGems count)
  | _ => .fail (.notInitTarget target) start.place
  .read (.expect ";")

/-- **Prints a text.** The semicolon is read before anything is written. -/
def print : Run σ τ Unit := do
  let text ← .read .text
  .read (.expect ";")
  .print env.sink text

/-! ### Instructions with a body -/

/-- Instructions up to the brace that closes their block. The bound is on their number. -/
def instructionsUpTo (instruction : Run σ τ Unit) : (bound : Nat) → Run σ τ Unit
  | 0, m => .error .unfinished m
  | bound + 1, m =>
    match Run.read (.nextIs "\x7d") m with
    | .ok true m' => Run.read (.expect "\x7d") m'
    | .ok false m' =>
      match instruction m' with
      | .ok () m'' => instructionsUpTo instruction bound m''
      | .error e m'' => .error e m''
    | .error e m' => .error e m'

/-- **A block**: instructions between braces. -/
def block (instruction : Run σ τ Unit) : Run σ τ Unit := do
  .read (.expect "\x7b")
  let rest ← .here
  instructionsUpTo instruction (rest.size + 1)

/-- **A body**: a block or one instruction. -/
def body (instruction : Run σ τ Unit) : Run σ τ Unit := do
  if ← .read (.nextIs "\x7b") then block instruction else instruction

/-- **Chooses between two bodies.** The second one may be missing. The one that does not run is
skipped. -/
def choose (instruction : Run σ τ Unit) : Run σ τ Unit := do
  let holds ← test env
  if holds then body instruction else .read .pastBody
  -- whether there is an `else` shows only behind the first body
  if ← .read (.nextIs "else") then
    discard <| .read .take
    if holds then .read .pastBody else body instruction

/-- **Repeats a body for as long as a test holds.** Before every pass the test is read and asked
once more; when it fails, the body is skipped. -/
def repeatWhile (instruction : Run σ τ Unit) : Run σ τ Unit := do
  let start ← .here
  let pass : Run σ τ Bool := do
    -- the test stands in front of the body, so it is read once more as well
    .goTo start
    if ← test env then
      body instruction
      return true
    else
      .read .pastBody
      return false
  Run.loop pass env.passes

/-- **Repeats a body as often as a number says.** With 0 it is skipped. -/
def repeatTimes (instruction : Run σ τ Unit) : Run σ τ Unit := do
  let count ← .read .integer
  let start ← .here
  if count = 0 then .read .pastBody
  else
    let pass : Run σ τ Unit := do
      .goTo start
      body instruction
    Run.times pass count.toNat

/-- **Calls a procedure**: `callee` runs the block at the place where the procedure begins. -/
def call (callee : Run σ τ Unit) : Run σ τ Unit := do
  let start ← .here
  let name ← .read .name
  let m ← get
  match m.procedures.get? name with
  | none => .fail (.undeclared name) start.place
  | some procedure =>
    -- one more call would be more than may be active
    if env.maxDepth ≤ m.depth then
      .fail (.tooManyCalls name env.maxDepth) start.place
    else
      let back ← .here
      .deeper do
        .goTo procedure
        callee
      .goTo back
      -- a call that lacks its semicolon has been carried out when that shows
      .read (.expect ";")

/-! ### Putting them together -/

/-- **An instruction**, in which at most `nesting` instructions are inside one another, and which
calls procedures by `callee`. -/
def instruction (callee : Run σ τ Unit) : (nesting : Nat) → Run σ τ Unit
  | 0 => throw .unfinished
  | nesting + 1 => do
    let start ← .here
    let token ← .read .take
    match token.word? with
    | some "if" => choose env (instruction callee nesting)
    | some "while" => repeatWhile env (instruction callee nesting)
    | some "do" => repeatTimes (instruction callee nesting)
    | some "call" => call env callee
    | some "init" => setUp env
    | some "print" => print env
    | _ =>
      match token.word?.bind Move.ofWord? with
      | some m => moves env start.place m
      | none => .fail (.notInstruction token) start.place

/-- A block, in which procedures are called by `callee`. No more instructions can be inside one
another than there are tokens left. -/
def blockCalling (callee : Run σ τ Unit) : Run σ τ Unit := fun m =>
  block (instruction env callee (m.lexemes.size + 1)) m

/-- **The block where the run stands**, in which at most `levels` calls can be inside each other. -/
def blockHere : (levels : Nat) → Run σ τ Unit
  -- with no level left a call is refused before its callee is run
  | 0, m => blockCalling env (throw .unfinished) m
  | levels + 1, m => blockCalling env (fun m => blockHere levels m) m

end Execution

end GridScript
