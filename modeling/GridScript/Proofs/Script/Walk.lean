import GridScript.Proofs.Script.Tree
import GridScript.Proofs.Sequencing
import GridScript.Script.Machine

/-!
# What scripts mean

A walk goes through the tree of a script and does what stands there. It knows no tokens, no places
and no skipping: a body that does not run is not looked at, a loop walks the same subtree again, a
call walks the tree of the last declaration.

* `Tree.Walk` — a computation on an agent and an output.
* `Tree.Instruction.walk`, `Tree.Body.walk`, `Tree.Sequence.walk` — by recursion on the tree, with
  the meaning of calls as a parameter.
* `Tree.Script.callee` — the meaning of calls, by recursion on how many more may be active.
* `Tree.Script.perform` — the whole script, and then the agent is told that the run is over.
* `Tree.Script.perform_outlasts` — a script that is not given up is performed in the same way with
  more passes.

A `while` whose test never fails has no outcome. As in a run, it is given up after a number of
passes, so that walks can be compared with runs for every such number. The number shows in nothing
but that.
-/

namespace GridScript

namespace Tree

/-! ### Outcomes -/

/-- **What a walk changes.** -/
structure Scene (σ τ : Type) where
  agent : σ
  output : τ

/-- **How a walk fails**: the number and the text of the message. -/
structure Fault where
  code : Code
  message : String
  deriving DecidableEq

namespace Fault

/-- The number and the text of a diagnostic, without what it is about. -/
def ofDiagnostic (d : Diagnostic) : Fault := ⟨d.code, d.message⟩

/-- A called procedure has no declaration. -/
def undeclared (procedure : String) : Fault :=
  ⟨⟨208⟩, "procedure '" ++ procedure ++ "' is not declared"⟩

/-- A procedure is called while as many calls are active as may be. -/
def tooManyCalls (procedure : String) (limit : Nat) : Fault :=
  ⟨⟨209⟩, "call to '" ++ procedure ++ "' exceeds the maximum call depth of " ++ Nat.repr limit⟩

/-- A text cannot be printed. -/
def unwritten (reason : String) : Fault :=
  ⟨⟨402⟩, "could not write print output: " ++ reason⟩

end Fault

/-- **A walk through a tree.** -/
abbrev Walk (σ τ : Type) := EStateM (Halt Fault) (Scene σ τ)

/-! ### Steps of a walk -/

namespace Walk

variable {σ τ : Type}

/-- The walk that fails. -/
def fail {α : Type} (f : Fault) : Walk σ τ α := throw (.failed f)

/-- **A request to the agent.** What it refuses fails the walk. -/
def ask {α : Type} (request : EStateM (Trouble Diagnostic) σ α) : Walk σ τ α := fun s =>
  match request s.agent with
  | .ok a agent => .ok a { s with agent }
  | .error e agent => .error (Halt.ofTrouble (e.map .ofDiagnostic)) { s with agent }

/-- **A line of output.** -/
def print (sink : Sink τ) (line : String) : Walk σ τ Unit := fun s =>
  match sink.print line s.output with
  | .ok () output => .ok () { s with output }
  | .error reason output => .error (.failed (.unwritten reason)) { s with output }

/-- **The same walk `count` times.** -/
def times (walk : Walk σ τ Unit) : (count : Nat) → Walk σ τ Unit
  | 0 => pure ()
  | count + 1 => do
    walk
    times walk count

/-- **A walk for as long as a test holds**, which is asked before every pass. -/
def loop (test : Walk σ τ Bool) (walk : Walk σ τ Unit) : (passes : Nat) → Walk σ τ Unit
  | 0 => throw .unfinished
  | passes + 1 => do
    if ← test then
      walk
      loop test walk passes

end Walk

/-! ### Walking a tree -/

variable {σ τ : Type} (env : Context σ τ)

/-- The value of a test, which is the answer of the agent unless it is negated. -/
def Test.value (t : Test) : Walk σ τ Bool := do
  let answer ← Walk.ask (env.agent.answer t.condition)
  return answer != t.negation.isSome

/-- Tells the agent to move. -/
def tellMove (m : Move) : Walk σ τ Unit :=
  Walk.ask (env.agent.obey (.move m))

/-- Tells the agent to make moves in order. -/
def tellMoves : List Move → Walk σ τ Unit
  | [] => pure ()
  | m :: ms => do
    tellMove env m
    tellMoves ms

variable (call : String → Walk σ τ Unit)

mutual

/-- **Walks an instruction**, in which procedures are called by `call`. -/
def Instruction.walk : Instruction → Walk σ τ Unit
  | .moves first others => tellMoves env (first :: others)
  | .when test yes => do
    if ← test.value env then yes.walk
  | .choose test yes no => do
    if ← test.value env then yes.walk else no.walk
  | .loop test body => Walk.loop (test.value env) body.walk env.passes
  | .times count body => Walk.times body.walk count.value.toNat
  | .call name => call name.text
  | .loadGrid name => Walk.ask (env.agent.obey (.loadGrid name.text))
  | .setGems count => Walk.ask (env.agent.obey (.setGems count.value))
  | .print text => Walk.print env.sink text

/-- **Walks a body.** -/
def Body.walk : Body → Walk σ τ Unit
  | .block inside => inside.walk
  | .single i => i.walk

/-- **Walks instructions in order.** -/
def Sequence.walk : Sequence → Walk σ τ Unit
  | .nil => pure ()
  | .cons first others => do
    first.walk
    others.walk

end

/-! ### Calls and scripts -/

namespace Script

/-- **A call**, while `more` calls may still become active. The body of the last declaration of the
name is walked. -/
def callee (s : Script) : (more : Nat) → String → Walk σ τ Unit
  | more, name =>
    match lastDeclared? s.procedures name with
    -- this comes first: it is told even where no more calls may be active
    | none => Walk.fail (.undeclared name)
    | some p =>
      match more with
      | 0 => Walk.fail (.tooManyCalls name env.maxDepth)
      | more + 1 => p.body.walk env (callee s more)

/-- **The whole script**: the main block, and then the agent is told that the run is over. -/
def perform (s : Script) : Walk σ τ Unit := do
  s.main.walk env (s.callee env env.maxDepth)
  Walk.ask (env.agent.obey .stop)

end Script

/-! ### More passes -/

namespace Walk

variable {α β : Type} {walk walk' : Walk σ τ α}

/-- **A walk that outlasts another one**: it is the same, wherever the other one is not given up. -/
def Outlasts (walk' walk : Walk σ τ α) : Prop :=
  ∀ s, (∃ s', walk s = .error .unfinished s') ∨ walk' s = walk s

theorem Outlasts.refl (walk : Walk σ τ α) : Outlasts walk walk := fun _ => .inr rfl

/-- One after the other: if the first part is given up, so is the whole. -/
theorem Outlasts.bind {f f' : α → Walk σ τ β} (h : Outlasts walk' walk)
    (hf : ∀ a, Outlasts (f' a) (f a)) : Outlasts (walk' >>= f') (walk >>= f) := by
  intro s
  rcases h s with ⟨s', hs⟩ | hs
  · exact .inl ⟨s', bind_of_error hs f⟩
  · rw [bind_apply, bind_apply, hs]
    cases walk s with
    | ok a s' => exact hf a s'
    | error e s' => exact .inr rfl

/-- A walk that is repeated outlasts another one if each time it does. -/
theorem Outlasts.times {walk walk' : Walk σ τ Unit} (h : Outlasts walk' walk) (count : Nat) :
    Outlasts (times walk' count) (times walk count) := by
  induction count with
  | zero => exact .refl _
  | succ count ih => exact h.bind fun _ => ih

/-- **More passes** outlast fewer. -/
theorem Outlasts.loop {walk walk' : Walk σ τ Unit} (h : Outlasts walk' walk)
    (test : Walk σ τ Bool) {passes passes' : Nat} (hle : passes ≤ passes') :
    Outlasts (loop test walk' passes') (loop test walk passes) := by
  -- the induction is on the passes of the shorter walk, which the other one has as well
  induction passes generalizing passes' with
  | zero => exact fun s => .inl ⟨s, rfl⟩
  | succ passes ih =>
    obtain ⟨passes', rfl⟩ := Nat.exists_eq_add_of_le' (Nat.le_of_add_left_le hle)
    refine (Outlasts.refl test).bind fun holds => ?_
    cases holds with
    | false => exact .refl _
    | true => exact h.bind fun _ => ih (Nat.le_of_add_le_add_right hle)

end Walk

open Walk (Outlasts)

variable {env} {call} {call' : String → Walk σ τ Unit} {passes : Nat}

/-- Moves are told without any passes. -/
theorem tellMoves_passes (ms : List Move) :
    tellMoves { env with passes } ms = tellMoves env ms := by
  induction ms with
  | nil => rfl
  | cons m ms ih =>
    rw [tellMoves, tellMoves, ih]
    rfl

mutual

/-- An instruction that is walked with more passes, and with calls that outlast the others. -/
theorem Instruction.walk_outlasts (hle : env.passes ≤ passes)
    (hcall : ∀ name, Outlasts (call' name) (call name)) (i : Instruction) :
    Outlasts (i.walk { env with passes } call') (i.walk env call) := by
  -- an instruction that asks nothing of the passes is the same walk
  match i with
  | .moves first others =>
    rw [Instruction.walk, Instruction.walk, tellMoves_passes]
    exact .refl _
  | .when test yes =>
    refine (Outlasts.refl (test.value env)).bind fun holds => ?_
    cases holds with
    | false => exact .refl _
    | true => exact yes.walk_outlasts hle hcall
  | .choose test yes no =>
    refine (Outlasts.refl (test.value env)).bind fun holds => ?_
    cases holds with
    | false => exact no.walk_outlasts hle hcall
    | true => exact yes.walk_outlasts hle hcall
  | .loop test body => exact (body.walk_outlasts hle hcall).loop (test.value env) hle
  | .times count body => exact (body.walk_outlasts hle hcall).times count.value.toNat
  | .call name => exact hcall name.text
  | .loadGrid name => exact .refl _
  | .setGems count => exact .refl _
  | .print text => exact .refl _

/-- A body that is walked with more passes. -/
theorem Body.walk_outlasts (hle : env.passes ≤ passes)
    (hcall : ∀ name, Outlasts (call' name) (call name)) (b : Body) :
    Outlasts (b.walk { env with passes } call') (b.walk env call) := by
  match b with
  | .block inside => exact inside.walk_outlasts hle hcall
  | .single i => exact i.walk_outlasts hle hcall

/-- Instructions that are walked with more passes. -/
theorem Sequence.walk_outlasts (hle : env.passes ≤ passes)
    (hcall : ∀ name, Outlasts (call' name) (call name)) (s : Sequence) :
    Outlasts (s.walk { env with passes } call') (s.walk env call) := by
  match s with
  | .nil => exact .refl _
  | .cons first others =>
    exact (first.walk_outlasts hle hcall).bind fun _ => others.walk_outlasts hle hcall

end

namespace Script

/-- Calls with more passes. By induction on how many more may become active. -/
theorem callee_outlasts (s : Script) (hle : env.passes ≤ passes) (more : Nat) (name : String) :
    Outlasts (s.callee { env with passes } more name) (s.callee env more name) := by
  -- the induction is on the calls that may still be made
  induction more generalizing name with
  | zero =>
    rw [callee, callee]
    cases lastDeclared? s.procedures name with
    | none => exact .refl _
    | some p => exact .refl _
  | succ more ih =>
    rw [callee, callee]
    cases lastDeclared? s.procedures name with
    | none => exact .refl _
    | some p => exact p.body.walk_outlasts hle ih

/-- **The number of passes shows only where it is used up**: a script that is not given up is
performed in the same way with any larger number. -/
theorem perform_outlasts (s : Script) (hle : env.passes ≤ passes) :
    Outlasts (s.perform { env with passes }) (s.perform env) :=
  (s.main.walk_outlasts hle (s.callee_outlasts hle env.maxDepth)).bind fun _ => .refl _

end Script

end Tree

end GridScript
