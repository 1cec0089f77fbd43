import GridScript.Proofs.Script.Reading
import GridScript.Proofs.Script.Walk

/-!
# Runs that follow walks

A run reads a text and a walk goes through a tree. They are compared by what both of them change,
the agent and the output, and by how they end. A run that succeeds has moved on to a place that the
walk knows nothing of, and has the procedures and the number of calls that it began with; of a run
that fails only the agent, the output, the number and the text of the message are compared.

* `Mirrors` — when a result of a run is that of a walk.
* `Follows` — a run that, from one place up to another, does what a walk does.
* `Follows.seq`, `Follows.read`, `Follows.goTo` and the others — one rule for each way in which
  runs are put together.
-/

namespace GridScript

open GridScript.Tree

/-- **What a failure says**, without the place that it is about. -/
def Failure.fault : Failure → Fault
  | spelling e _ => ⟨e.code, e.message⟩
  | grammar e _ => ⟨e.code, e.message⟩
  | refused reason _ => .ofDiagnostic reason
  | unwritten reason => .unwritten reason

/-- A diagnostic says the same about any place. -/
theorem Tree.Fault.ofDiagnostic_annotate (src : Source) (p : Position) (d : Diagnostic) :
    ofDiagnostic (src.annotate p d) = ofDiagnostic d := by
  unfold Source.annotate
  split <;> rfl

/-- **The message of a failure** says what the failure says. -/
theorem Failure.ofDiagnostic_diagnostic (src : Source) (f : Failure) :
    Fault.ofDiagnostic (f.diagnostic src) = f.fault := by
  cases f with
  | unwritten reason => rfl
  | _ => exact Fault.ofDiagnostic_annotate _ _ _

namespace Machine

variable {σ τ : Type}

/-- The part of a run that a walk changes too. -/
def scene (m : Machine σ τ) : Scene σ τ := ⟨m.agent, m.output⟩

/-- **The same run at another place**, with another agent and output. -/
def moved (m : Machine σ τ) (ls : Lexemes) (s : Scene σ τ) : Machine σ τ :=
  { m with lexemes := ls, agent := s.agent, output := s.output }

/-- The same run with one more active call. -/
def deeper (m : Machine σ τ) : Machine σ τ := { m with depth := m.depth + 1 }

@[simp] theorem moved_procedures (m : Machine σ τ) (ls : Lexemes) (s : Scene σ τ) :
    (m.moved ls s).procedures = m.procedures := rfl

@[simp] theorem moved_depth (m : Machine σ τ) (ls : Lexemes) (s : Scene σ τ) :
    (m.moved ls s).depth = m.depth := rfl

@[simp] theorem deeper_depth (m : Machine σ τ) : m.deeper.depth = m.depth + 1 := rfl

end Machine

/-- **A result of a run that mirrors the result of a walk.** If the walk succeeds, the run is at a
given place, and otherwise where it began. -/
inductive Mirrors {σ τ α : Type} (m : Machine σ τ) (rest : Lexemes) :
    EStateM.Result (Halt Failure) (Machine σ τ) α →
      EStateM.Result (Halt Fault) (Scene σ τ) α → Prop
  | ok (a : α) (s : Scene σ τ) : Mirrors m rest (.ok a (m.moved rest s)) (.ok a s)
  | error (h : Halt Failure) (m' : Machine σ τ) :
    Mirrors m rest (.error h m') (.error (h.map Failure.fault) m'.scene)

/-- **A run that follows a walk** from one place up to another, whatever the agent and the output
are by then. The machine tells which procedures are declared and how many calls are active. -/
def Follows {σ τ α : Type} (m : Machine σ τ) (ls rest : Lexemes) (run : Run σ τ α)
    (walk : Walk σ τ α) : Prop :=
  ∀ s, Mirrors m rest (run (m.moved ls s)) (walk s)

/-- A reading that succeeds only moves the run on. -/
theorem Run.read_moved {σ τ α : Type} {m : Machine σ τ} {ls mid : Lexemes} {r : Reading α} {a : α}
    (h : r ls = .ok a mid) (s : Scene σ τ) :
    Run.read r (m.moved ls s) = .ok a (m.moved mid s) :=
  Run.read_eq_ok_iff.2 ⟨mid, h, rfl⟩

namespace Follows

variable {σ τ α β : Type} {m : Machine σ τ} {ls mid rest : Lexemes}

/-! ### One after the other -/

/-- A run and a walk that do nothing. -/
theorem nothing (a : α) : Follows m ls ls (pure a) (pure a) := fun s => .ok a s

/-- **One after the other.** The first run ends where the second one begins. -/
theorem seq {run : Run σ τ α} {walk : Walk σ τ α} {f : α → Run σ τ β} {g : α → Walk σ τ β}
    (h : Follows m ls mid run walk) (h' : ∀ a, Follows m mid rest (f a) (g a)) :
    Follows m ls rest (run >>= f) (walk >>= g) := by
  intro s
  rw [bind_apply, bind_apply]
  have hs := h s
  generalize run (m.moved ls s) = r, walk s = w at hs
  -- the first run either ends at `mid`, with the scene of the walk, or fails as the walk does
  cases hs with
  | ok a s' => exact h' a s'
  | error e m' => exact .error e m'

/-- Behind a run that follows the whole walk, only readings may come. -/
theorem last {run : Run σ τ α} {walk : Walk σ τ α} {f : α → Run σ τ α}
    (h : Follows m ls mid run walk) (h' : ∀ a, Follows m mid rest (f a) (pure a)) :
    Follows m ls rest (run >>= f) walk := by
  rw [← bind_pure walk]
  exact h.seq h'

/-! ### Moving about -/

/-- **Reading is no part of a walk.** -/
theorem read {r : Reading α} {a : α} {f : α → Run σ τ β} {walk : Walk σ τ β}
    (hr : r ls = .ok a mid) (h : Follows m mid rest (f a) walk) :
    Follows m ls rest (Run.read r >>= f) walk := by
  intro s
  rw [bind_of_ok (Run.read_moved hr s)]
  exact h s

/-- A reading at the end of a run. -/
theorem readLast {r : Reading α} {a : α} (hr : r ls = .ok a rest) :
    Follows m ls rest (Run.read r) (pure a) := by
  intro s
  rw [Run.read_moved hr s]
  exact .ok a s

/-- A reading whose result is dropped. -/
theorem discard {r : Reading α} {a : α} {f : Unit → Run σ τ β} {walk : Walk σ τ β}
    (hr : r ls = .ok a mid) (h : Follows m mid rest (f ()) walk) :
    Follows m ls rest (discard (Run.read r) >>= f) walk := by
  intro s
  rw [bind_of_ok (discard_eq_ok_iff.2 ⟨a, Run.read_moved hr s⟩)]
  exact h s

/-- Asking where the run stands is no part of a walk. -/
theorem here {f : Lexemes → Run σ τ β} {walk : Walk σ τ β} (h : Follows m ls rest (f ls) walk) :
    Follows m ls rest (Run.here >>= f) walk :=
  h

/-- **Going elsewhere is no part of a walk.** -/
theorem goTo {f : Unit → Run σ τ β} {walk : Walk σ τ β} (h : Follows m mid rest (f ()) walk) :
    Follows m ls rest (Run.goTo mid >>= f) walk :=
  h

/-- Looking at the machine is no part of a walk. -/
theorem get {f : Machine σ τ → Run σ τ β} {walk : Walk σ τ β}
    (h : ∀ s, Follows m ls rest (f (m.moved ls s)) walk) :
    Follows m ls rest (MonadState.get >>= f) walk :=
  fun s => h s s

/-- **One more active call**, for as long as a run follows its walk. -/
theorem deeper {run : Run σ τ α} {walk : Walk σ τ α} (h : Follows m.deeper ls rest run walk) :
    Follows m ls rest (Run.deeper run) walk := by
  intro s
  have hs := h s
  -- the run begins in `m.deeper.moved ls s`, which `Run.deeper` has written out
  have hrun : Run.deeper run (m.moved ls s) =
      Run.deeper (fun _ => run (m.deeper.moved ls s)) (m.moved ls s) := rfl
  rw [hrun]
  unfold Run.deeper
  generalize run (m.deeper.moved ls s) = r, walk s = w at hs ⊢
  cases hs with
  | ok a s' => exact .ok a s'
  | error e m' => exact .error e { m' with depth := m'.depth - 1 }

/-! ### What a walk does -/

/-- **A request to the agent** is the same one, and so is what the agent refuses. -/
theorem ask (place : Position) (request : EStateM (Trouble Diagnostic) σ α) :
    Follows m ls ls (Run.ask place request) (Walk.ask request) := by
  intro s
  unfold Run.ask Walk.ask
  have hagent : (m.moved ls s).agent = s.agent := rfl
  rw [hagent]
  cases request s.agent with
  | ok a agent => exact .ok a { s with agent }
  | error e agent =>
    -- what is refused is told with the place of the instruction, which no walk knows
    cases e with
    | failed d => exact .error (.failed (.refused d place)) _
    | aborted a => exact .error (.aborted a) _

/-- **A printed line** is the same one, and so is why it cannot be written. -/
theorem print (sink : Sink τ) (line : String) :
    Follows m ls ls (Run.print sink line) (Walk.print sink line) := by
  intro s
  unfold Run.print Walk.print
  have houtput : (m.moved ls s).output = s.output := rfl
  rw [houtput]
  cases sink.print line s.output with
  | ok u output => exact .ok () { s with output }
  | error reason output => exact .error (.failed (.unwritten reason)) _

/-- A run that fails follows a walk that fails with the same message. -/
theorem fail {e : GrammarError} {f : Fault} (place : Position) (h : f = ⟨e.code, e.message⟩) :
    Follows (α := α) m ls rest (Run.fail e place) (Walk.fail f) := by
  intro s
  -- the place is in the failure of the run only, and is not looked at
  rw [h]
  exact .error (.failed (.grammar e place)) _

end Follows

/-! ### Repetition -/

namespace Run

variable {σ τ : Type}

theorem times_succ (run : Run σ τ Unit) (count : Nat) :
    times run (count + 1) = (run >>= fun _ => times run count) := by
  funext m
  rw [bind_apply, times]
  cases run m <;> rfl

theorem loop_succ (pass : Run σ τ Bool) (passes : Nat) :
    loop pass (passes + 1) =
      (pass >>= fun again => if again then loop pass passes else pure ()) := by
  funext m
  rw [bind_apply, loop]
  cases pass m with
  | ok again m' => cases again <;> rfl
  | error e m' => rfl

end Run

namespace Tree.Walk

variable {σ τ : Type}

/-- **A pass**, which tells whether the test held. -/
def pass (test : Walk σ τ Bool) (walk : Walk σ τ Unit) : Walk σ τ Bool := do
  if ← test then
    walk
    return true
  else
    return false

theorem loop_succ (test : Walk σ τ Bool) (walk : Walk σ τ Unit) (passes : Nat) :
    loop test walk (passes + 1) =
      (pass test walk >>= fun again => if again then loop test walk passes else pure ()) := by
  rw [loop, pass, bind_assoc]
  congr 1
  funext holds
  cases holds with
  | false => rfl
  | true => simp

end Tree.Walk

namespace Follows

variable {σ τ : Type} {m : Machine σ τ} {ls rest : Lexemes}

/-- **A repetition follows a repetition** if a pass follows a pass from wherever it begins. -/
theorem times {run : Run σ τ Unit} {walk : Walk σ τ Unit}
    (h : ∀ ls, Follows m ls rest run walk) (count : Nat) :
    Follows m ls rest (Run.times run (count + 1)) (Walk.times walk (count + 1)) := by
  induction count generalizing ls with
  | zero =>
    -- no time is left behind the only pass, and the run has come to `rest`
    rw [Run.times_succ]
    exact (h ls).seq fun _ => nothing ()
  | succ count ih =>
    rw [Run.times_succ, Walk.times]
    exact (h ls).seq fun _ => ih

/-- **A loop follows a loop** if a pass follows a pass from wherever it begins. -/
theorem loop {pass : Run σ τ Bool} {test : Walk σ τ Bool} {walk : Walk σ τ Unit}
    (h : ∀ ls, Follows m ls rest pass (Walk.pass test walk)) (passes : Nat) :
    Follows m ls rest (Run.loop pass passes) (Walk.loop test walk passes) := by
  induction passes generalizing ls with
  | zero =>
    -- both are given up
    exact fun s => .error .unfinished (m.moved ls s)
  | succ passes ih =>
    rw [Run.loop_succ, Walk.loop_succ]
    refine (h ls).seq fun again => ?_
    -- the next pass begins at `rest`, and goes back from there by itself
    cases again with
    | false => exact nothing ()
    | true => exact ih

end Follows

end GridScript
