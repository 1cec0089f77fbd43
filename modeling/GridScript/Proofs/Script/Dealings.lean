import GridScript.Script.Execution

/-!
# Instructions, by what they deal with

An instruction reads the script, and apart from that it deals with what is outside: it tells the
agent something or asks it, prints, or calls a procedure. What an instruction is made of does not
depend on how these are done. Here they are left open, so that a run in which something more is done
with each of them is made of the same instructions.

* `Execution.Dealings` — what is left open, and `Dealings.of` how a run has it.
* `Dealings.instruction`, `Dealings.block` — the instructions.
* `Dealings.instruction_of`, `Dealings.block_of` — they are the ones of a run.
-/

namespace GridScript.Execution

/-- **How instructions deal with what is outside**: with the agent, with the output and with
procedures, and how many passes a loop may make. -/
structure Dealings (σ τ : Type) where
  tell : Position → Command → Run σ τ Unit
  ask : Position → Condition → Run σ τ Bool
  print : String → Run σ τ Unit
  call : Run σ τ Unit
  passes : Nat

namespace Dealings

variable {σ τ : Type}

/-- **The dealings of a run**, which calls procedures by `callee`. -/
def of (env : Context σ τ) (callee : Run σ τ Unit) : Dealings σ τ where
  tell place c := .ask place (env.agent.obey c)
  ask place c := .ask place (env.agent.answer c)
  print line := .print env.sink line
  call := Execution.call env callee
  passes := env.passes

variable (d : Dealings σ τ)

/-! ### Flat instructions -/

def test : Run σ τ Bool := do
  let start ← .here
  let t ← .read .test
  let value ← d.ask start.place t.condition
  return value != t.negated

def movesUpTo : (bound : Nat) → Run σ τ Unit
  | 0 => throw .unfinished
  | bound + 1 => do
    let start ← .here
    let token ← .read .take
    if token.isSpelled ";" then return
    match token.word?.bind Move.ofWord? with
    | some m =>
      d.tell start.place (.move m)
      movesUpTo bound
    | none => .fail (.notMove token) start.place

def moves (place : Position) (first : Move) : Run σ τ Unit := do
  d.tell place (.move first)
  let rest ← .here
  d.movesUpTo (rest.size + 1)

def setUp : Run σ τ Unit := do
  let start ← .here
  let target ← .read .take
  match target.word? with
  | some "grid" =>
    let name ← .read .gridName
    d.tell start.place (.loadGrid name)
  | some "gems" =>
    let count ← .read .integer
    d.tell start.place (.setGems count)
  | _ => .fail (.notInitTarget target) start.place
  .read (.expect ";")

def printing : Run σ τ Unit := do
  let text ← .read .text
  .read (.expect ";")
  d.print text

/-! ### Instructions with a body -/

def choose (instruction : Run σ τ Unit) : Run σ τ Unit := do
  let holds ← d.test
  if holds then body instruction else .read .pastBody
  if ← .read (.nextIs "else") then
    discard <| .read .take
    if holds then .read .pastBody else body instruction

def repeatWhile (instruction : Run σ τ Unit) : Run σ τ Unit := do
  let start ← .here
  let pass : Run σ τ Bool := do
    .goTo start
    if ← d.test then
      body instruction
      return true
    else
      .read .pastBody
      return false
  Run.loop pass d.passes

/-! ### Putting them together -/

/-- **An instruction with such dealings.** -/
def instruction : (nesting : Nat) → Run σ τ Unit
  | 0 => throw .unfinished
  | nesting + 1 => do
    let start ← .here
    let token ← .read .take
    match token.word? with
    | some "if" => d.choose (instruction nesting)
    | some "while" => d.repeatWhile (instruction nesting)
    | some "do" => repeatTimes (instruction nesting)
    | some "call" => d.call
    | some "init" => d.setUp
    | some "print" => d.printing
    | _ =>
      match token.word?.bind Move.ofWord? with
      | some m => d.moves start.place m
      | none => .fail (.notInstruction token) start.place

/-- **A block with such dealings.** -/
def block : Run σ τ Unit := fun m =>
  Execution.block (d.instruction (m.lexemes.size + 1)) m

/-! ### The instructions of a run -/

variable (env : Context σ τ) (callee : Run σ τ Unit)

theorem movesUpTo_of (bound : Nat) :
    (of env callee).movesUpTo bound = Execution.movesUpTo env bound := by
  induction bound with
  | zero => rfl
  | succ bound ih =>
    rw [movesUpTo, Execution.movesUpTo, ih]
    rfl

theorem moves_of (place : Position) (first : Move) :
    (of env callee).moves place first = Execution.moves env place first := by
  simp only [moves, Execution.moves, movesUpTo_of]
  rfl

theorem instruction_of (nesting : Nat) :
    (of env callee).instruction nesting = Execution.instruction env callee nesting := by
  induction nesting with
  | zero => rfl
  | succ nesting ih =>
    rw [instruction, Execution.instruction, ih]
    simp only [moves_of]
    rfl

/-- **A block of a run.** -/
theorem block_of : (of env callee).block = blockCalling env callee := by
  funext m
  rw [block, blockCalling, instruction_of]

end Dealings

end GridScript.Execution
