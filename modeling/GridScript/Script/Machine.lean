import GridScript.Script.Procedures
import GridScript.Script.Reading

/-!
# The state of a run

* `Machine` is what a run changes: where it reads, what it has declared, how many calls are active,
  the agent and the output.
* `Run` is a computation on it. Whatever it has changed before it ends early stays changed.
-/

namespace GridScript

/-- **The state of a run** with an agent of states `σ` and a sink of states `τ`. -/
structure Machine (σ τ : Type) where
  /-- What is still to be read from where the run stands. -/
  lexemes : Lexemes
  /-- Where the declared procedures begin. -/
  procedures : Procedures Lexemes
  /-- The number of calls that are active. -/
  depth : Nat
  agent : σ
  output : τ

/-- **What a run is given**: the agent, the sink, how many calls may be active at once, and how many
passes a `while` may make before it is given up. -/
structure Context (σ τ : Type) where
  agent : Agent σ
  sink : Sink τ
  maxDepth : Nat
  passes : Nat

/-- **A computation on the state of a run.** -/
abbrev Run (σ τ : Type) := EStateM (Halt Failure) (Machine σ τ)

namespace Machine

variable {σ τ : Type}

/-- A machine at the start of a source, with nothing declared. -/
def ofSource (src : Source) (agent : σ) (output : τ) : Machine σ τ :=
  ⟨src.lexemes, .empty, 0, agent, output⟩

end Machine

namespace Run

variable {σ τ : Type}

/-- Reads where the run stands. -/
def read {α : Type} (r : Reading α) : Run σ τ α := fun m =>
  match r m.lexemes with
  | .ok a ls => .ok a { m with lexemes := ls }
  | .error e ls => .error e { m with lexemes := ls }

/-- Where the run stands. -/
def here : Run σ τ Lexemes := fun m => .ok m.lexemes m

/-- Goes on elsewhere. -/
def goTo (ls : Lexemes) : Run σ τ Unit := fun m => .ok () { m with lexemes := ls }

/-- The run of something that the grammar does not allow at a place. -/
def fail {α : Type} (e : GrammarError) (place : Position) : Run σ τ α :=
  throw (.failed (.grammar e place))

/-- **A request to the agent**, made by the instruction at a place. -/
def ask {α : Type} (place : Position) (request : EStateM (Trouble Diagnostic) σ α) : Run σ τ α :=
  fun m =>
    match request m.agent with
    | .ok a s => .ok a { m with agent := s }
    | .error e s => .error (Halt.ofTrouble (e.map (.refused · place))) { m with agent := s }

/-- **A line of output.** -/
def print (sink : Sink τ) (line : String) : Run σ τ Unit := fun m =>
  match sink.print line m.output with
  | .ok () t => .ok () { m with output := t }
  | .error reason t => .error (.failed (.unwritten reason)) { m with output := t }

/-- **One more active call** for as long as `body` runs, however it ends. -/
def deeper {α : Type} (body : Run σ τ α) : Run σ τ α := fun m =>
  match body { m with depth := m.depth + 1 } with
  | .ok a m' => .ok a { m' with depth := m'.depth - 1 }
  | .error e m' => .error e { m' with depth := m'.depth - 1 }

/-- **The same computation `count` times.** -/
def times (body : Run σ τ Unit) : (count : Nat) → Run σ τ Unit
  | 0, m => .ok () m
  | count + 1, m =>
    match body m with
    | .ok () m' => times body count m'
    | .error e m' => .error e m'

/-- **Passes for as long as `pass` says so**, and at most `passes` of them; more are given up. -/
def loop (pass : Run σ τ Bool) : (passes : Nat) → Run σ τ Unit
  | 0, m => .error .unfinished m
  | passes + 1, m =>
    -- the pass that finds its test false is the last, and counts as one
    match pass m with
    | .ok true m' => loop pass passes m'
    | .ok false m' => .ok () m'
    | .error e m' => .error e m'

end Run

end GridScript
