import GridScript.Proofs.Script.CallDepth
import GridScript.Proofs.Script.Places

/-!
# The number of active calls is exact

A run keeps the number of active calls in its machine, and raises and lowers it where it goes into a
procedure and comes back. It is to be compared with the calls themselves. An overseen run is the
same run, and besides it counts the `call` instructions that are being executed: it counts one more
where one begins, and one less where it has ended in whatever way. Before each request to the agent
it notes that count, and the number that the machine has.

The two numbers differ in one place only, between the beginning of a `call` instruction and that of
the procedure, where no request is made.

* `Overseen`, `Run.sight`, `Run.duringCall` — what an overseen run does besides.
* `Program.overseen` — the overseen run; its instructions are those of every run, with other
  dealings.
* `Oversight` — a run on record and an overseen run that are in the same state.
* `Execution.sighted_calleeHere` — blocks, by the calls that are left.
* `Program.depth_exact` — all runs of one machine.
-/

namespace GridScript

/-! ### Overseen runs -/

/-- **What is noted of a request**: the number of active calls that the machine has, and how many
`call` instructions have begun and not ended. -/
structure Sighting where
  request : Command ⊕ Condition
  counter : Nat
  begun : Nat

/-- **A state with an overseer**, who knows how many `call` instructions have begun and have not
ended. -/
structure Overseen (σ : Type) where
  state : σ
  begun : Nat
  sightings : List Sighting

/-- The agent does not see the overseer. -/
def Agent.overseen {σ : Type} (agent : Agent σ) : Agent (Overseen σ) where
  obey c := fun s => onState (fun state => { s with state }) (agent.obey c s.state)
  answer c := fun s => onState (fun state => { s with state }) (agent.answer c s.state)

/-- The same context with an agent that is overseen. -/
def Context.overseen {σ τ : Type} (env : Context σ τ) : Context (Overseen σ) τ :=
  ⟨env.agent.overseen, env.sink, env.maxDepth, env.passes⟩

namespace Run

variable {σ τ : Type}

/-- **A request is noted.** -/
def sight (request : Command ⊕ Condition) : Run (Overseen σ) τ Unit := fun m =>
  .ok () { m with agent :=
    { m.agent with sightings := m.agent.sightings ++ [⟨request, m.depth, m.agent.begun⟩] } }

/-- **One more `call` instruction has begun** for as long as it is executed, however it ends. -/
def duringCall {α : Type} (instruction : Run (Overseen σ) τ α) : Run (Overseen σ) τ α := fun m =>
  onState (fun m' => { m' with agent := { m'.agent with begun := m'.agent.begun - 1 } })
    (instruction { m with agent := { m.agent with begun := m.agent.begun + 1 } })

end Run

namespace Execution

variable {σ τ : Type} (env : Context σ τ)

/-- **The dealings of an overseen run**: each request is noted before it is made, and each `call`
instruction is counted while it is executed. -/
def Dealings.overseen (callee : Run (Overseen σ) τ Unit) : Dealings (Overseen σ) τ where
  tell place c := do
    .sight (.inl c)
    .ask place (env.overseen.agent.obey c)
  ask place c := do
    .sight (.inr c)
    .ask place (env.overseen.agent.answer c)
  print line := .print env.sink line
  call := .duringCall (Execution.call env.overseen callee)
  passes := env.passes

/-- **The block where an overseen run stands.** -/
def overseenBlock : (levels : Nat) → Run (Overseen σ) τ Unit
  | 0, m => (Dealings.overseen env (throw .unfinished)).block m
  | levels + 1, m => (Dealings.overseen env fun m => overseenBlock levels m).block m

/-- What it calls procedures by. -/
def overseenCallee : (levels : Nat) → Run (Overseen σ) τ Unit
  | 0 => throw .unfinished
  | levels + 1 => fun m => overseenBlock env levels m

theorem overseenBlock_eq (levels : Nat) :
    overseenBlock env levels = (Dealings.overseen env (overseenCallee env levels)).block := by
  cases levels <;> rfl

end Execution

/-- **A whole run that is overseen.** -/
def Program.overseen {σ τ : Type} (env : Context σ τ) : Run (Overseen σ) τ Unit := do
  declareAll
  .read (.expect "main")
  Execution.overseenBlock env env.maxDepth
  let behind ← .here
  (Execution.Dealings.overseen env (throw .unfinished)).tell behind.place .stop

namespace Machine

variable {σ τ : Type}

/-- A machine whose agent an overseer begins to watch. -/
def watched (m : Machine σ τ) : Machine (Overseen σ) τ := { m with agent := ⟨m.agent, 0, []⟩ }

/-- A machine without the overseer. -/
def unwatched (m : Machine (Overseen σ) τ) : Machine σ τ := { m with agent := m.agent.state }

/-- A machine whose calls and lines begin to be recorded. -/
def onRecord (m : Machine σ τ) : Machine (Recorded (Command ⊕ Condition) σ) (Recorded String τ) :=
  { m with agent := ⟨m.agent, []⟩, output := ⟨m.output, []⟩ }

end Machine

/-! ### A run on record and an overseen run -/

section Overseeing

variable {σ τ : Type} {limit k b : Nat}

/-- **A run on record and an overseen run in the same state**, with `k` active calls and `b` `call`
instructions that have begun. All requests are noted, and what is noted of them is as it should be.
-/
structure Oversight (limit k b : Nat)
    (m : Machine (Recorded (Command ⊕ Condition) σ) (Recorded String τ))
    (m' : Machine (Overseen σ) τ) : Prop where
  same : m.unrecorded = m'.unwatched
  depth : m'.depth = k
  begun : m'.agent.begun = b
  noted : m.agent.record = m'.agent.sightings.map Sighting.request
  exact : ∀ s ∈ m'.agent.sightings, s.counter = s.begun ∧ s.counter ≤ limit

namespace Oversight

variable {m : Machine (Recorded (Command ⊕ Condition) σ) (Recorded String τ)}
variable {m' : Machine (Overseen σ) τ}

theorem lexemes (h : Oversight limit k b m m') : m'.lexemes = m.lexemes :=
  (congrArg Machine.lexemes h.same).symm

theorem procedures (h : Oversight limit k b m m') : m'.procedures = m.procedures :=
  (congrArg Machine.procedures h.same).symm

theorem state (h : Oversight limit k b m m') : m'.agent.state = m.agent.state :=
  (congrArg Machine.agent h.same).symm

theorem output (h : Oversight limit k b m m') : m'.output = m.output.state :=
  (congrArg Machine.output h.same).symm

theorem depth_eq (h : Oversight limit k b m m') : m'.depth = m.depth :=
  (congrArg Machine.depth h.same).symm

end Oversight

namespace Run

variable {α : Type}

/-- **A run on record and an overseen run in tandem.** -/
abbrev Sighted (limit k b : Nat) (x : Run (Recorded (Command ⊕ Condition) σ) (Recorded String τ) α)
    (x' : Run (Overseen σ) τ α) : Prop :=
  InTandem (Oversight limit k b) x x'

/-- Reading and going about is done alike, with any number of calls. -/
theorem compatible_sighted :
    Compatible fun x x' => Sighted (σ := σ) (τ := τ) limit k b x x' where
  pure a := inTandem_pure a
  giveUp := inTandem_throw _
  fail e place := inTandem_throw _
  bind hx hf := InTandem.bind hx hf
  here m m' h := by
    rw [here, here, h.lexemes]
    exact .ok _ h
  goTo ls m m' h :=
    .ok () { h with same := congrArg (fun w => { w with lexemes := ls }) h.same }
  read {α r} _ m m' h := by
    rw [read, read, h.lexemes]
    -- either end leaves both at the same place
    cases r m.lexemes with
    | ok a ls => exact .ok a { h with same := congrArg (fun w => { w with lexemes := ls }) h.same }
    | error e ls =>
      exact .error e { h with same := congrArg (fun w => { w with lexemes := ls }) h.same }

theorem sighted_declare (name : String) (body : Lexemes) :
    Sighted (σ := σ) (τ := τ) limit k b
      (modify fun m => { m with procedures := m.procedures.insert name body })
      (modify fun m => { m with procedures := m.procedures.insert name body }) := by
  intro m m' h
  refine .ok () { h with same := ?_ }
  exact congrArg (fun w => { w with procedures := w.procedures.insert name body }) h.same

theorem sighted_print (sink : Sink τ) (line : String) :
    Sighted (σ := σ) limit k b (print sink.recording line) (print sink line) := by
  intro m m' h
  simp only [print, h.output, Sink.recording, Recorded.recording]
  cases sink.print line m.output.state with
  | ok u t =>
    exact .ok u { h with same := congrArg (fun w => { w with output := t }) h.same }
  | error reason t =>
    exact .error _ { h with same := congrArg (fun w => { w with output := t }) h.same }

/-- **A request is recorded on one side and noted on the other.** As many calls are active as `call`
instructions have begun, so that is what is noted. -/
theorem sighted_ask (hk : k ≤ limit) (place : Position) (entry : Command ⊕ Condition)
    (a : EStateM (Trouble Diagnostic) σ α) :
    Sighted (τ := τ) limit k k (ask place (Recorded.recording entry a))
      (do sight entry; ask place fun s => onState (fun state => { s with state }) (a s.state)) := by
  intro m m' h
  -- what the two machines have become when the agent is asked
  have hnoted : Oversight limit k k
      { m with agent := { m.agent with record := m.agent.record ++ [entry] } }
      { m' with agent := { m'.agent with
        sightings := m'.agent.sightings ++ [⟨entry, m'.depth, m'.agent.begun⟩] } } := by
    -- the record and the sightings grow by the same entry, and the counts are what they were
    refine { h with noted := ?_, exact := fun s hs => ?_ }
    · rw [h.noted, List.map_append, List.map_singleton]
    · rcases List.mem_append.1 hs with hs | hs
      · exact h.exact s hs
      · obtain rfl := List.mem_singleton.1 hs
        rw [h.depth, h.begun]
        exact ⟨rfl, hk⟩
  rw [bind_of_ok (rfl : sight entry m' = .ok () _)]
  simp only [ask, Recorded.recording, h.state]
  -- the agent is the same on both sides and answers alike, also in failing
  cases a m.agent.state with
  | ok v s =>
    exact .ok v { hnoted with same := congrArg (fun w => { w with agent := s }) h.same }
  | error e s =>
    exact .error _ { hnoted with same := congrArg (fun w => { w with agent := s }) h.same }

/-- **One more active call** on both sides, however it ends. -/
theorem sighted_deeper {x : Run (Recorded (Command ⊕ Condition) σ) (Recorded String τ) α}
    {x' : Run (Overseen σ) τ α} (hx : Sighted limit (k + 1) b x x') :
    Sighted limit k b (deeper x) (deeper x') := by
  intro m m' h
  have hinside := hx { m with depth := m.depth + 1 } { m' with depth := m'.depth + 1 }
    { h with
      same := congrArg (fun w => { w with depth := w.depth + 1 }) h.same
      depth := congrArg (· + 1) h.depth }
  rw [deeper, deeper]
  generalize x _ = r, x' _ = r' at hinside
  -- the call is taken off on both sides, whichever way it has ended
  have hback {w : Machine (Recorded (Command ⊕ Condition) σ) (Recorded String τ)}
      {w' : Machine (Overseen σ) τ} (hw : Oversight limit (k + 1) b w w') :
      Oversight limit k b { w with depth := w.depth - 1 } { w' with depth := w'.depth - 1 } :=
    { hw with
      same := congrArg (fun w => { w with depth := w.depth - 1 }) hw.same
      depth := congrArg (· - 1) hw.depth }
  cases hinside with
  | ok a hw => exact .ok a (hback hw)
  | error e hw => exact .error e (hback hw)

/-- **One more `call` instruction** is counted on one side only. -/
theorem sighted_duringCall {x : Run (Recorded (Command ⊕ Condition) σ) (Recorded String τ) α}
    {x' : Run (Overseen σ) τ α} (hx : Sighted limit k (b + 1) x x') :
    Sighted limit k b x (duringCall x') := by
  intro m m' h
  have hinside := hx m { m' with agent := { m'.agent with begun := m'.agent.begun + 1 } }
    { h with begun := congrArg (· + 1) h.begun }
  rw [duringCall]
  generalize x _ = r, x' _ = r' at hinside
  cases hinside with
  | ok a hw => exact .ok a { hw with begun := congrArg (· - 1) hw.begun }
  | error e hw => exact .error e { hw with begun := congrArg (· - 1) hw.begun }

end Run

namespace Execution

open Run

variable {env : Context σ τ}
variable {callee : Run (Recorded (Command ⊕ Condition) σ) (Recorded String τ) Unit}
variable {callee' : Run (Overseen σ) τ Unit}

/-- **A call behind the name** comes in one more `call` instruction than there are active calls, and
the procedure runs in as many of one as of the other. -/
theorem sighted_callNamed
    (hcallee : k < env.maxDepth → Sighted env.maxDepth (k + 1) b callee callee')
    (place : Position) (name : String) :
    Sighted env.maxDepth k b (callNamed env.recording callee place name)
      (callNamed env.overseen callee' place name) := by
  intro m m' h
  rw [callNamed, callNamed, bind_of_ok (get_apply m), bind_of_ok (get_apply m'), h.procedures,
    h.depth_eq]
  -- the tables and the counts are the same, so that both make the call or neither does
  cases m.procedures.get? name with
  | none => exact .error _ h
  | some procedure =>
    dsimp only
    have hrecording : env.recording.maxDepth = env.maxDepth := rfl
    have hoverseen : env.overseen.maxDepth = env.maxDepth := rfl
    rw [hrecording, hoverseen]
    by_cases hlimit : env.maxDepth ≤ m.depth
    · rw [if_pos hlimit, if_pos hlimit]
      exact .error _ h
    · rw [if_neg hlimit, if_neg hlimit]
      -- the call is made below the limit, as the body of it has to know
      have hk : k < env.maxDepth := h.depth ▸ h.depth_eq ▸ Nat.lt_of_not_le hlimit
      have hthere : Sighted env.maxDepth (k + 1) b (do .goTo procedure; callee)
          (do .goTo procedure; callee') :=
        (compatible_sighted.goTo procedure).bind fun _ => hcallee hk
      exact compatible_sighted.visit (sighted_deeper hthere) m m' h

/-- **The dealings of a run on record and of an overseen run are alike** where no `call` instruction
is on its way to its procedure. -/
theorem alike_overseen (hk : k ≤ env.maxDepth)
    (hcallee : k < env.maxDepth →
      Sighted env.maxDepth (k + 1) (k + 1) callee callee') :
    Dealings.Alike (fun x x' => Sighted env.maxDepth k k x x')
      (.of env.recording callee) (.overseen env callee') where
  tell place c := sighted_ask hk place (.inl c) (env.agent.obey c)
  ask place c := sighted_ask hk place (.inr c) (env.agent.answer c)
  print line := sighted_print env.sink line
  call := by
    -- the call counts as begun when it is read, before the counter is raised
    have hcall : Sighted env.maxDepth k (k + 1) (call env.recording callee)
        (call env.overseen callee') := by
      rw [call_eq, call_eq]
      exact compatible_sighted.bind compatible_sighted.here fun start =>
        compatible_sighted.bind (compatible_sighted.read Reading.terminates_name) fun name =>
          sighted_callNamed hcallee start.place name
    exact sighted_duringCall hcall
  passes := rfl

/-- **What a block calls procedures by**, on record and overseen. The induction is on how many calls
can be inside each other, with as many active as the limit allows. -/
theorem sighted_calleeHere (levels : Nat) (hk : k ≤ env.maxDepth) :
    Sighted env.maxDepth k k (calleeHere env.recording levels)
      (overseenCallee env levels) := by
  induction levels generalizing k with
  | zero => exact inTandem_throw _
  | succ levels ih =>
    have hblock := compatible_sighted.dealt (alike_overseen hk fun hlt => ih hlt)
    rw [Dealings.block_of, ← blockHere_eq, ← overseenBlock_eq] at hblock
    exact hblock

/-- **A block**, on record and overseen. -/
theorem sighted_blockHere (levels : Nat) (hk : k ≤ env.maxDepth) :
    Sighted env.maxDepth k k (blockHere env.recording levels)
      (overseenBlock env levels) := by
  have hcallee : Sighted env.maxDepth k k (calleeHere env.recording (levels + 1))
      (overseenCallee env (levels + 1)) := sighted_calleeHere (levels + 1) hk
  exact hcallee

end Execution

namespace Program

open Run

variable {src : Source}

/-- **A whole run**, on record and overseen. -/
theorem sighted_run (env : Context σ τ) :
    Sighted env.maxDepth 0 0 (run env.recording) (overseen env) := by
  have hzero : 0 ≤ env.maxDepth := Nat.zero_le _
  refine (compatible_sighted.declareAll sighted_declare).bind fun _ => ?_
  refine (compatible_sighted.read (Reading.terminates_expect _)).bind fun _ => ?_
  refine (Execution.sighted_blockHere env.maxDepth hzero).bind fun _ => ?_
  refine compatible_sighted.here.bind fun behind => ?_
  exact sighted_ask hzero behind.place (.inl .stop) (env.agent.obey .stop)

/-- **Whatever a run does**, it leaves the number of active calls as it was. -/
theorem depth_run (env : Context σ τ) (m : Machine σ τ) :
    (endState (run env m)).depth = m.depth :=
  have hmain := Execution.steady_calleeHere env (env.maxDepth + 1)
  (((congruence_steady env).run ⟨rfl, hmain⟩).2 m).1

/-- **Between runs no call is active**, however the runs have ended. -/
theorem Reached.depth {m : Machine σ τ} (h : Reached src m) : m.depth = 0 := by
  -- the induction is on the runs that have led here; each restores the depth, also in failing
  induction h with
  | start agent output => rfl
  | @declared m m' _ hrun ih =>
    -- whichever agent and output there are, they have no part in it
    have env : Context σ τ := ⟨⟨fun _ => pure (), fun _ => pure false⟩, ⟨fun _ => pure ()⟩, 0, 0⟩
    have hrestored := ((congruence_steady env).declareAll.2 m).1
    rw [hrun] at hrestored
    exact hrestored.trans ih
  | @succeeded m m' env _ hrun ih =>
    have hrestored := depth_run env m
    rw [hrun] at hrestored
    exact hrestored.trans ih
  | @failed m m' env e _ hrun ih =>
    have hrestored := depth_run env m
    rw [hrun] at hrestored
    exact hrestored.trans ih

/-- **The number of active calls is exact and always restored.** A script is run as often as one
likes on one machine, each time with an agent, an output and a limit of its own, and however these
runs end. Then no call is active when a run begins, nor when it ends. And at every request to the
agent the number of active calls is the number of `call` instructions that are being executed, and
within the limit: the overseen run is the same run, it notes these two numbers at each request that
is made, and they are the same. -/
theorem depth_exact {m : Machine σ τ} (h : Reached src m) (env : Context σ τ) :
    m.depth = 0 ∧ (endState (run env m)).depth = 0 ∧
      run env m = onState Machine.unwatched (overseen env m.watched) ∧
      run env m = onState Machine.unrecorded (run env.recording m.onRecord) ∧
      (endState (run env.recording m.onRecord)).agent.record =
        (endState (overseen env m.watched)).agent.sightings.map Sighting.request ∧
      ∀ s ∈ (endState (overseen env m.watched)).agent.sightings,
        s.counter = s.begun ∧ s.counter ≤ env.maxDepth := by
  have hdepth := h.depth
  -- nothing is on record at the beginning, and no call is active
  have hstart : Oversight env.maxDepth 0 0 m.onRecord m.watched :=
    ⟨rfl, hdepth, rfl, rfl, fun s hs => nomatch hs⟩
  have hrecorded : run env m = onState Machine.unrecorded (run env.recording m.onRecord) :=
    (run_onRecord env m m.onRecord rfl).eq_onState
  refine ⟨hdepth, (depth_run env m).trans hdepth, ?_, hrecorded, ?_⟩
  · -- both are views of the run on record
    have hrun := sighted_run env _ _ hstart
    rw [hrecorded]
    generalize run env.recording m.onRecord = r, overseen env m.watched = r' at hrun
    cases hrun with
    | ok a hw => rw [onState, onState, hw.same]
    | error e hw => rw [onState, onState, hw.same]
  · -- what is noted and that it is exact are both kept to the end
    have hrun := sighted_run env _ _ hstart
    generalize run env.recording m.onRecord = r, overseen env m.watched = r' at hrun
    cases hrun with
    | ok a hw => exact ⟨hw.noted, hw.exact⟩
    | error e hw => exact ⟨hw.noted, hw.exact⟩

end Program

end Overseeing

/-- A script that calls without an end, with two calls allowed. Its steps are made in one call and
in two, and when the third call has ended the run, none is active. -/
theorem Program.depth_exact_endless :
    let env := (⟨Recorder.agent, Output.sink, 2, 0⟩ : Context Recorder Output)
    let start := Machine.ofSource .endless ⟨[], false, [], none, none, 0, []⟩ (.empty none)
    Run.CutShort (run env start) ∧ (endState (run env start)).depth = 0 ∧
      ((endState (overseen env start.watched)).agent.sightings.map fun s => (s.counter, s.begun)) =
        [(1, 1), (2, 2)] ∧
      ∀ s ∈ (endState (overseen env start.watched)).agent.sightings,
        s.counter = s.begun ∧ s.counter ≤ 2 := by
  intro env start
  have hfails : Run.failure? (run env start) =
      some (.grammar (.tooManyCalls "again" 2) (Source.endless.bytes.drop 23)) := by
    decide +kernel
  have hnoted : ((endState (overseen env start.watched)).agent.sightings.map
      fun s => (s.counter, s.begun)) = [(1, 1), (2, 2)] := by
    decide +kernel
  -- the runs themselves are finite computation, and the bound is taken from the theorem
  obtain ⟨-, hrestored, -, -, -, hexact⟩ := depth_exact (Reached.start _ _) env
  obtain ⟨m', hrun⟩ := Run.exists_of_failure? hfails
  exact ⟨⟨_, _, _, m', hrun⟩, hrestored, hnoted, hexact⟩

end GridScript
