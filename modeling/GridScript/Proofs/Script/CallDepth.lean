import GridScript.Agent.Recorder
import GridScript.Proofs.Script.Congruence
import GridScript.Proofs.Script.Dialogue
import GridScript.Script.Output
import Mathlib.Logic.Relation

/-!
# The limit on calls only cuts runs short

A run looks at the number of active calls in one place, where another call begins. So two runs of
one script with different limits are the same run up to the first call that is one too many for the
lower limit, if there is one, and that call ends the run with the lower limit.

The number of active calls has to be exact for this. It is: whatever ends a computation, the number
is what it was when the computation began. A call that is too deep for the lower limit and not for
the higher one begins in the same number of calls in both runs.

* `Context.Leads` — how the agent and the output can go on, and `Run.Steady` — runs that keep the
  number of active calls.
* `Run.CutShort` — a run that ends with one call too many.
* `Run.Curbed` — two runs, of which the first one may be cut short.
* `Execution.curbed_blockHere` — blocks, by the calls that are left.
* `Context.recording` — the same run with a record of its calls and its lines.
* `Program.limit_cuts_short` — whole runs.
-/

namespace GridScript

/-- **What a computation leaves behind**, whether it succeeds or not. -/
def endState {ε ω α : Type} : EStateM.Result ε ω α → ω
  | .ok _ w => w
  | .error _ w => w

/-! ### What is kept, and where it leads -/

section Leading

variable {σ τ : Type}

/-- **How a scene can go on**: through things that are said to the agent and to the sink. -/
def Context.Leads (env : Context σ τ) : Tree.Scene σ τ → Tree.Scene σ τ → Prop :=
  Relation.ReflTransGen fun s s' => ∃ what, s' = endState (env.hear what s)

/-- The same context with another limit on the number of active calls. -/
def Context.limited (env : Context σ τ) (maxDepth : Nat) : Context σ τ := { env with maxDepth }

namespace Run

variable {α β : Type} {env : Context σ τ}

/-- **A computation that keeps the number of active calls**, and leads somewhere. -/
def Steady (env : Context σ τ) (x : Run σ τ α) : Prop :=
  ∀ m, (endState (x m)).depth = m.depth ∧ env.Leads m.scene (endState (x m)).scene

/-- What touches neither the agent nor the output, nor the number of calls. -/
theorem steady_of_still {x : Run σ τ α}
    (h : ∀ m, (endState (x m)).depth = m.depth ∧ (endState (x m)).scene = m.scene) :
    Steady env x := by
  intro m
  obtain ⟨hdepth, hscene⟩ := h m
  rw [hscene]
  exact ⟨hdepth, .refl⟩

theorem Steady.bind {x : Run σ τ α} {f : α → Run σ τ β} (h : Steady env x)
    (hf : ∀ a, Steady env (f a)) : Steady env (x >>= f) := by
  intro m
  have hx := h m
  rw [bind_apply]
  -- the first part decides whether there is a second one
  cases hr : x m with
  | error e m' =>
    rw [hr] at hx
    exact hx
  | ok a m' =>
    rw [hr] at hx
    obtain ⟨hdepth, hleads⟩ := hf a m'
    exact ⟨hdepth.trans hx.1, hx.2.trans hleads⟩

theorem steady_read (r : Reading α) : Steady env (read r) := by
  refine steady_of_still fun m => ?_
  rw [read]
  cases r m.lexemes <;> exact ⟨rfl, rfl⟩

/-- What says one thing to the agent or to the sink, and keeps the number of calls. -/
theorem steady_of_heard {x : Run σ τ α} (what : Saying)
    (h : ∀ m, (endState (x m)).depth = m.depth ∧
      endState (env.hear what m.scene) = (endState (x m)).scene) : Steady env x := by
  intro m
  obtain ⟨hdepth, hheard⟩ := h m
  exact ⟨hdepth, .single ⟨what, hheard.symm⟩⟩

theorem steady_obey (place : Position) (c : Command) :
    Steady env (ask place (env.agent.obey c)) := by
  refine steady_of_heard (.tell place c) fun m => ?_
  have hagent : m.scene.agent = m.agent := rfl
  rw [ask, Context.hear, hagent]
  cases env.agent.obey c m.agent <;> exact ⟨rfl, rfl⟩

theorem steady_answer (place : Position) (c : Condition) :
    Steady env (ask place (env.agent.answer c)) := by
  refine steady_of_heard (.ask place c) fun m => ?_
  have hagent : m.scene.agent = m.agent := rfl
  rw [ask, Context.hear, hagent]
  cases env.agent.answer c m.agent <;> exact ⟨rfl, rfl⟩

theorem steady_print (line : String) : Steady env (print env.sink line) := by
  refine steady_of_heard (.print line) fun m => ?_
  have houtput : m.scene.output = m.output := rfl
  rw [print, Context.hear, houtput]
  cases env.sink.print line m.output <;> exact ⟨rfl, rfl⟩

/-- **One more active call** is one less again at the end, however it ends. -/
theorem Steady.deeper {x : Run σ τ α} (h : Steady env x) : Steady env (Run.deeper x) := by
  intro m
  obtain ⟨hdepth, hleads⟩ := h { m with depth := m.depth + 1 }
  rw [Run.deeper]
  -- both ends take the call off again, and the agent and the output do not see that
  cases hr : x { m with depth := m.depth + 1 } with
  | ok a m' =>
    rw [hr] at hdepth hleads
    have hm' : m'.depth = m.depth + 1 := hdepth
    exact ⟨by simp only [endState, hm', Nat.add_sub_cancel], hleads⟩
  | error e m' =>
    rw [hr] at hdepth hleads
    have hm' : m'.depth = m.depth + 1 := hdepth
    exact ⟨by simp only [endState, hm', Nat.add_sub_cancel], hleads⟩

/-- **Being steady is a matter of the parts.** The second run is the same one. -/
theorem congruence_steady (env : Context σ τ) :
    Congruence env env fun x x' => x' = x ∧ Steady env x where
  passes := rfl
  pure _ := ⟨rfl, steady_of_still fun _ => ⟨rfl, rfl⟩⟩
  giveUp := ⟨rfl, steady_of_still fun _ => ⟨rfl, rfl⟩⟩
  fail _ _ := ⟨rfl, steady_of_still fun _ => ⟨rfl, rfl⟩⟩
  bind hx hf := ⟨by rw [hx.1, funext fun a => (hf a).1], hx.2.bind fun a => (hf a).2⟩
  here := ⟨rfl, steady_of_still fun _ => ⟨rfl, rfl⟩⟩
  goTo _ := ⟨rfl, steady_of_still fun _ => ⟨rfl, rfl⟩⟩
  read _ := ⟨rfl, steady_read _⟩
  declare _ _ := ⟨rfl, steady_of_still fun _ => ⟨rfl, rfl⟩⟩
  obey place c := ⟨rfl, steady_obey place c⟩
  answer place c := ⟨rfl, steady_answer place c⟩
  print line := ⟨rfl, steady_print line⟩

end Run

namespace Execution

open Run

variable {env : Context σ τ} {callee : Run σ τ Unit}

/-- **A call keeps the number of active calls**, whether it may be made or not. -/
theorem steady_callNamed (h : Steady env callee) (place : Position) (name : String) :
    Steady env (callNamed env callee place name) := by
  intro m
  have hcongruence := congruence_steady env
  rcases callNamed_cases env callee place name m with
    ⟨-, heq⟩ | ⟨procedure, -, ⟨-, heq⟩ | ⟨-, heq⟩⟩
  · -- nothing has this name
    rw [heq]
    exact (hcongruence.fail _ _).2 m
  · -- one call too many
    rw [heq]
    exact (hcongruence.fail _ _).2 m
  · rw [heq]
    have hinside : Steady env (do .goTo procedure; callee) :=
      (hcongruence.goTo procedure).2.bind fun _ => h
    exact (hcongruence.visit ⟨rfl, hinside.deeper⟩).2 m

/-- **A block keeps the number of active calls.** -/
theorem steady_calleeHere (env : Context σ τ) (levels : Nat) :
    Steady env (calleeHere env levels) := by
  induction levels with
  | zero => exact (congruence_steady env).giveUp.2
  | succ levels ih =>
    have hblock := (congruence_steady env).blockCalling fun place name =>
      ⟨rfl, steady_callNamed ih place name⟩
    rw [← blockHere_eq] at hblock
    exact hblock.2

end Execution

/-! ### One call too many -/

namespace Run

variable {α β : Type} {env : Context σ τ} {k : Nat}

/-- **A run that is cut short**: it ends with one call too many. -/
def CutShort (r : EStateM.Result (Halt Failure) (Machine σ τ) α) : Prop :=
  ∃ name limit place m, r = .error (.failed (.grammar (.tooManyCalls name limit) place)) m

/-- **Two runs in the same number of calls, the first of which may be cut short.** Both keep that
number. They are the same run, unless the first one is cut short; then the second one goes on from
what the first one has left behind. -/
structure Curbed (env : Context σ τ) (k : Nat) (x x' : Run σ τ α) : Prop where
  steady : Steady env x
  steady' : Steady env x'
  same : ∀ m, m.depth = k → x m = x' m ∨
    CutShort (x m) ∧ env.Leads (endState (x m)).scene (endState (x' m)).scene

/-- The same run twice. -/
theorem Steady.curbed {x : Run σ τ α} (h : Steady env x) : Curbed env k x x :=
  ⟨h, h, fun _ _ => .inl rfl⟩

/-- **A sequence is cut short in its first part**, and then the second run goes on through its
second part, too, or else in its second part. -/
theorem Curbed.bind {x x' : Run σ τ α} {f f' : α → Run σ τ β} (h : Curbed env k x x')
    (hf : ∀ a, Curbed env k (f a) (f' a)) : Curbed env k (x >>= f) (x' >>= f') := by
  have hsteady' : Steady env (x' >>= f') := h.steady'.bind fun a => (hf a).steady'
  refine ⟨h.steady.bind fun a => (hf a).steady, hsteady', fun m hm => ?_⟩
  -- the first parts are the same, or the first of them is cut short
  rcases h.same m hm with heq | ⟨⟨name, limit, place, m', hcut⟩, hleads⟩
  · rw [bind_apply, bind_apply, ← heq]
    cases hx : x m with
    | error e m' => exact .inl rfl
    | ok a m' =>
      -- the second parts begin in `k` calls, as the first part has kept their number
      have hdepth := (h.steady m).1
      rw [hx] at hdepth
      exact (hf a).same m' (hdepth.trans hm)
  · have hfirst : (x >>= f) m = _ := bind_of_error hcut f
    rw [hfirst]
    refine .inr ⟨⟨name, limit, place, m', rfl⟩, ?_⟩
    rw [hcut] at hleads
    -- whatever the first part of the second run has come to, its second part only goes on
    rw [bind_apply]
    cases hx : x' m with
    | error e m'' =>
      rw [hx] at hleads
      exact hleads
    | ok a m'' =>
      rw [hx] at hleads
      exact hleads.trans ((hf a).steady' m'').2

/-- One more active call. -/
theorem Curbed.deeper {x x' : Run σ τ α} (h : Curbed env (k + 1) x x') :
    Curbed env k (Run.deeper x) (Run.deeper x') := by
  refine ⟨h.steady.deeper, h.steady'.deeper, fun m hm => ?_⟩
  -- what is known of the two runs in `k + 1` calls
  rcases h.same { m with depth := m.depth + 1 } (congrArg (· + 1) hm) with
    heq | ⟨⟨name, limit, place, m', hcut⟩, hleads⟩
  · left
    rw [Run.deeper, Run.deeper, heq]
  · -- cut short inside is cut short outside, and the other run only goes on
    right
    rw [Run.deeper, Run.deeper, hcut]
    rw [hcut] at hleads
    refine ⟨⟨name, limit, place, _, rfl⟩, ?_⟩
    cases hx : x' { m with depth := m.depth + 1 } with
    | ok a m'' =>
      rw [hx] at hleads
      exact hleads
    | error e m'' =>
      rw [hx] at hleads
      exact hleads

/-- Being curbed is a matter of the parts, too. -/
theorem congruence_curbed (env : Context σ τ) (d d' k : Nat) :
    Congruence (env.limited d) (env.limited d') fun x x' => Curbed env k x x' where
  passes := rfl
  pure a := ((congruence_steady env).pure a).2.curbed
  giveUp := (congruence_steady env).giveUp.2.curbed
  fail e place := ((congruence_steady env).fail e place).2.curbed
  bind hx hf := hx.bind hf
  here := (congruence_steady env).here.2.curbed
  goTo ls := ((congruence_steady env).goTo ls).2.curbed
  read _ := (steady_read _).curbed
  declare name body := ((congruence_steady env).declare name body).2.curbed
  obey place c := (steady_obey place c).curbed
  answer place c := (steady_answer place c).curbed
  print line := (steady_print line).curbed

end Run

namespace Execution

open Run

variable {env : Context σ τ} {callee callee' : Run σ τ Unit} {d d' k : Nat}

/-- Keeping the number of active calls has nothing to do with the limit, and where a run leads has
nothing to do with it either. -/
theorem steady_limited {α : Type} {x : Run σ τ α} : Steady (env.limited d) x ↔ Steady env x :=
  Iff.rfl

/-- **A call** in the same number of calls, under two limits. Either both runs make it, or the one
with the lower limit is cut short. -/
theorem curbed_callNamed (hd : d ≤ d') (hsteady : Steady env callee)
    (hsteady' : Steady env callee') (hcallee : k < d → Curbed env (k + 1) callee callee')
    (place : Position) (name : String) :
    Curbed env k (callNamed (env.limited d) callee place name)
      (callNamed (env.limited d') callee' place name) := by
  have hcall : Steady env (callNamed (env.limited d) callee place name) :=
    steady_limited.1 (steady_callNamed (steady_limited.2 hsteady) place name)
  have hcall' : Steady env (callNamed (env.limited d') callee' place name) :=
    steady_limited.1 (steady_callNamed (steady_limited.2 hsteady') place name)
  refine ⟨hcall, hcall', fun m hm => ?_⟩
  rcases callNamed_cases (env.limited d) callee place name m with
    ⟨hnone, heq⟩ | ⟨procedure, hsome, ⟨hdepth, heq⟩ | ⟨hdepth, heq⟩⟩
  · -- nothing has this name, in both runs
    rcases callNamed_cases (env.limited d') callee' place name m with
      ⟨-, heq'⟩ | ⟨procedure, hsome, -⟩
    · exact .inl (heq.trans heq'.symm)
    · rw [hnone] at hsome
      cases hsome
  · -- the call is one too many, and the other run goes on from here
    right
    rw [heq]
    exact ⟨⟨name, d, place, m, rfl⟩, (hcall' m).2⟩
  · rcases callNamed_cases (env.limited d') callee' place name m with
      ⟨hnone, -⟩ | ⟨procedure', hsome', ⟨hdepth', -⟩ | ⟨-, heq'⟩⟩
    · rw [hnone] at hsome
      cases hsome
    · exact absurd hdepth' (Nat.not_le_of_lt (Nat.lt_of_lt_of_le hdepth hd))
    · -- both runs make the call, of the same procedure
      obtain rfl : procedure = procedure' := Option.some.inj (hsome.symm.trans hsome')
      have hinside : Curbed env (k + 1) (do .goTo procedure; callee)
          (do .goTo procedure; callee') :=
        ((congruence_curbed env d d' (k + 1)).goTo procedure).bind fun _ => hcallee (hm ▸ hdepth)
      rw [heq, heq']
      exact ((congruence_curbed env d d' k).visit hinside.deeper).same m hm

/-- **A block** in the same number of calls, under two limits. The induction is on the calls that
are left under the lower limit, of which there are enough, and then there are enough under the
higher one. -/
theorem curbed_blockHere (hd : d ≤ d') (levels levels' : Nat) (h : d ≤ k + levels)
    (h' : d' ≤ k + levels') :
    Curbed env k (blockHere (env.limited d) levels) (blockHere (env.limited d') levels') := by
  -- the induction is on the calls that the lower limit allows, with both counts at hand
  induction levels generalizing k levels' with
  | zero =>
    rw [blockHere_eq, blockHere_eq]
    refine (congruence_curbed env d d' k).blockCalling fun place name => ?_
    refine curbed_callNamed hd (steady_limited.1 (steady_calleeHere (env.limited d) 0))
      (steady_limited.1 (steady_calleeHere (env.limited d') levels')) (fun hk => ?_) place name
    -- no call is left, so none is made under the lower limit
    omega
  | succ levels ih =>
    rw [blockHere_eq, blockHere_eq]
    refine (congruence_curbed env d d' k).blockCalling fun place name => ?_
    refine curbed_callNamed hd (steady_limited.1 (steady_calleeHere (env.limited d) _))
      (steady_limited.1 (steady_calleeHere (env.limited d') levels')) (fun hk => ?_) place name
    cases levels' with
    | zero =>
      -- the lower limit would be above the higher one
      omega
    | succ levels' =>
      -- one more call is active, and both limits allow one fewer from there on
      exact ih levels' (by omega) (by omega)

end Execution

/-- **A whole run under two limits.** -/
theorem Program.curbed_run (env : Context σ τ) {d d' : Nat} (hd : d ≤ d') :
    Run.Curbed env 0 (run (env.limited d)) (run (env.limited d')) := by
  have hmain : Run.Curbed env 0 (Execution.blockHere (env.limited d) d)
      (Execution.blockHere (env.limited d') d') :=
    Execution.curbed_blockHere hd d d' (by omega) (by omega)
  exact (Run.congruence_curbed env d d' 0).run hmain

end Leading

/-! ### Runs on record -/

/-- **A state with a record** of what has been asked of it. -/
structure Recorded (κ σ : Type) where
  state : σ
  record : List κ

/-- A computation that is put on record, whether it succeeds or not. -/
def Recorded.recording {κ ε σ α : Type} (entry : κ) (a : EStateM ε σ α) :
    EStateM ε (Recorded κ σ) α :=
  fun s => onState (⟨·, s.record ++ [entry]⟩) (a s.state)

/-- **The agent that records its calls.** -/
def Agent.recording {σ : Type} (agent : Agent σ) : Agent (Recorded (Command ⊕ Condition) σ) where
  obey c := Recorded.recording (.inl c) (agent.obey c)
  answer c := Recorded.recording (.inr c) (agent.answer c)

/-- **The sink that records its lines.** -/
def Sink.recording {τ : Type} (sink : Sink τ) : Sink (Recorded String τ) where
  print line := Recorded.recording line (sink.print line)

section Recording

variable {σ τ : Type}

/-- **The same run on record.** -/
def Context.recording (env : Context σ τ) :
    Context (Recorded (Command ⊕ Condition) σ) (Recorded String τ) :=
  ⟨env.agent.recording, env.sink.recording, env.maxDepth, env.passes⟩

/-- A machine without its records. -/
def Machine.unrecorded (m : Machine (Recorded (Command ⊕ Condition) σ) (Recorded String τ)) :
    Machine σ τ :=
  ⟨m.lexemes, m.procedures, m.depth, m.agent.state, m.output.state⟩

namespace Run

/-- The run on record is the run. -/
def OnRecord {α : Type} (x : Run σ τ α)
    (x' : Run (Recorded (Command ⊕ Condition) σ) (Recorded String τ) α) : Prop :=
  InTandem (fun m m' => m = m'.unrecorded) x x'

theorem onRecord_ask {α : Type} (place : Position) (entry : Command ⊕ Condition)
    (a : EStateM (Trouble Diagnostic) σ α) :
    OnRecord (ask place a : Run σ τ α) (ask place (Recorded.recording entry a)) := by
  rintro _ m rfl
  simp only [ask, Recorded.recording, Machine.unrecorded]
  cases a m.agent.state with
  | ok v s => exact .ok v rfl
  | error e s => exact .error _ rfl

theorem onRecord_read (r : Reading α) :
    OnRecord (read r : Run σ τ α) (read r) := by
  rintro _ m rfl
  simp only [read, Machine.unrecorded]
  cases r m.lexemes with
  | ok a ls => exact .ok a rfl
  | error e ls => exact .error e rfl

/-- Nobody can tell that there are records. -/
theorem congruence_onRecord (env : Context σ τ) :
    Congruence env env.recording fun x x' => OnRecord x x' where
  passes := rfl
  pure a := inTandem_pure a
  giveUp := inTandem_throw _
  fail e place := inTandem_throw _
  bind hx hf := InTandem.bind hx hf
  here := by
    rintro _ m rfl
    exact .ok _ rfl
  goTo ls := by
    rintro _ m rfl
    exact .ok _ rfl
  read _ := onRecord_read _
  declare name body := by
    rintro _ m rfl
    exact .ok _ rfl
  obey place c := onRecord_ask place (.inl c) (env.agent.obey c)
  answer place c := onRecord_ask place (.inr c) (env.agent.answer c)
  print line := by
    -- the line is put on record, and it is printed in the same way
    rintro _ m rfl
    simp only [print, Context.recording, Sink.recording, Recorded.recording, Machine.unrecorded]
    cases env.sink.print line m.output.state with
    | ok u t => exact .ok _ rfl
    | error reason t => exact .error _ rfl

theorem OnRecord.deeper {x : Run σ τ Unit}
    {x' : Run (Recorded (Command ⊕ Condition) σ) (Recorded String τ) Unit} (h : OnRecord x x') :
    OnRecord (Run.deeper x) (Run.deeper x') := by
  rintro _ m rfl
  have hx := h _ { m with depth := m.depth + 1 } rfl
  -- counting a call commutes with leaving the records out
  have hmachine : (Machine.unrecorded { m with depth := m.depth + 1 }) =
      { m.unrecorded with depth := m.unrecorded.depth + 1 } := rfl
  rw [hmachine] at hx
  rw [Run.deeper, Run.deeper]
  generalize x _ = r, x' _ = r' at hx
  cases hx with
  -- the call is taken off on both sides, and the records do not count it
  | ok a hm => exact .ok a (by rw [hm]; rfl)
  | error e hm => exact .error e (by rw [hm]; rfl)

end Run

namespace Execution

open Run

variable {env : Context σ τ}

theorem onRecord_callNamed {callee : Run σ τ Unit}
    {callee' : Run (Recorded (Command ⊕ Condition) σ) (Recorded String τ) Unit}
    (h : OnRecord callee callee') (place : Position) (name : String) :
    OnRecord (callNamed env callee place name) (callNamed env.recording callee' place name) := by
  rintro _ m rfl
  have hprocedures : m.unrecorded.procedures = m.procedures := rfl
  have hdepth : m.unrecorded.depth = m.depth := rfl
  rw [callNamed, callNamed, bind_of_ok (get_apply m), bind_of_ok (get_apply m.unrecorded),
    hprocedures, hdepth]
  cases m.procedures.get? name with
  | none => exact .error _ rfl
  | some procedure =>
    have hvisit : OnRecord (visit callee procedure) (visit callee' procedure) :=
      (congruence_onRecord env).visit
        (OnRecord.deeper (((congruence_onRecord env).goTo procedure).bind fun _ => h))
    have hlimit : env.recording.maxDepth = env.maxDepth := rfl
    rw [hlimit]
    exact InTandem.ite (inTandem_throw _) hvisit _ m rfl

theorem onRecord_blockHere (levels : Nat) :
    OnRecord (blockHere env levels) (blockHere env.recording levels) := by
  have hcallee : OnRecord (calleeHere env levels) (calleeHere env.recording levels) := by
    induction levels with
    | zero => exact inTandem_throw _
    | succ levels ih =>
      have hblock := (congruence_onRecord env).blockCalling (onRecord_callNamed ih)
      rwa [← blockHere_eq, ← blockHere_eq] at hblock
  rw [blockHere_eq, blockHere_eq]
  exact (congruence_onRecord env).blockCalling (onRecord_callNamed hcallee)

end Execution

/-- **What is on record stays there.** -/
theorem Context.Leads.record_extends {env : Context σ τ}
    {s s' : Tree.Scene (Recorded (Command ⊕ Condition) σ) (Recorded String τ)}
    (h : env.recording.Leads s s') :
    s.agent.record <+: s'.agent.record ∧ s.output.record <+: s'.output.record := by
  -- the induction is on what the agent and the output have been made to do
  induction h with
  | refl => exact ⟨List.prefix_rfl, List.prefix_rfl⟩
  | @tail s' s'' _ hstep ih =>
    obtain ⟨hagent, houtput⟩ := ih
    obtain ⟨what, rfl⟩ := hstep
    -- one more entry in one of the records
    cases what with
    | tell place c =>
      refine ⟨hagent.trans ?_, houtput.trans ?_⟩ <;>
        simp only [hear, recording, Agent.recording, Recorded.recording] <;>
        cases env.agent.obey c s'.agent.state <;> simp [onState, endState]
    | ask place c =>
      refine ⟨hagent.trans ?_, houtput.trans ?_⟩ <;>
        simp only [hear, recording, Agent.recording, Recorded.recording] <;>
        cases env.agent.answer c s'.agent.state <;> simp [onState, endState]
    | print line =>
      refine ⟨hagent.trans ?_, houtput.trans ?_⟩ <;>
        simp only [hear, recording, Sink.recording, Recorded.recording] <;>
        cases env.sink.print line s'.output.state <;> simp [onState, endState]

namespace Program

open Run

/-- The run on record is the run. -/
theorem run_onRecord (env : Context σ τ) : OnRecord (run env) (run env.recording) :=
  (congruence_onRecord env).run (Execution.onRecord_blockHere env.maxDepth)

/-- **The limit on calls only cuts runs short.** A script is run with two limits, by any agent and
with any output, and each run is put on record, which nobody can tell. If the run with the lower
limit does not end with one call too many, the run with the higher limit is the same in everything:
what it leaves behind and how, and what is on record of it. Otherwise the calls to the agent and the
printed lines up to there are the first ones of the run with the higher limit. -/
theorem limit_cuts_short (env : Context σ τ) {d d' : Nat} (hd : d ≤ d') (src : Source) (agent : σ)
    (output : τ) :
    let plain (limit : Nat) := run (env.limited limit) (.ofSource src agent output)
    let noted (limit : Nat) :=
      run (env.limited limit).recording (.ofSource src ⟨agent, []⟩ ⟨output, []⟩)
    (∀ limit, plain limit = onState Machine.unrecorded (noted limit)) ∧
      (¬ CutShort (plain d) → plain d' = plain d ∧ noted d' = noted d) ∧
      (CutShort (plain d) →
        (endState (noted d)).agent.record <+: (endState (noted d')).agent.record ∧
        (endState (noted d)).output.record <+: (endState (noted d')).output.record) := by
  intro plain noted
  have hnoted (limit : Nat) : plain limit = onState Machine.unrecorded (noted limit) := by
    have hrun := run_onRecord (env.limited limit) (.ofSource src agent output)
      (.ofSource src ⟨agent, []⟩ ⟨output, []⟩) rfl
    exact hrun.eq_onState
  -- both runs begin in no call at all
  have hplain := (curbed_run env hd).same (.ofSource src agent output) rfl
  have hrecord : noted d = noted d' ∨ CutShort (noted d) ∧
      env.recording.Leads (endState (noted d)).scene (endState (noted d')).scene :=
    (curbed_run env.recording hd).same (.ofSource src ⟨agent, []⟩ ⟨output, []⟩) rfl
  refine ⟨hnoted, fun hcut => ?_, fun hcut => ?_⟩
  · refine ⟨(hplain.resolve_right fun h => hcut h.1).symm, (hrecord.resolve_right fun h => ?_).symm⟩
    -- the run on record is cut short exactly if the run is
    obtain ⟨⟨name, limit, place, m, hm⟩, -⟩ := h
    exact hcut ⟨name, limit, place, m.unrecorded, by rw [hnoted, hm]; rfl⟩
  · -- a run that is cut short has on record what the other one has, or the beginning of it
    rcases hrecord with heq | ⟨-, hleads⟩
    · rw [heq]
      exact ⟨List.prefix_rfl, List.prefix_rfl⟩
    · exact Context.Leads.record_extends hleads

end Program

end Recording

/-- A script that calls without an end. -/
def Source.endless : Source where
  name := "endless.gs"
  bytes := Utf8.encode "proc again \x7b step; call again; \x7d main \x7b call again; \x7d"

/-- Only one call is allowed, and the second one is one too many. The step before it is also the
first one of the run that may make three calls. -/
theorem Program.limit_cuts_short_endless :
    let env : Context Recorder Output := ⟨Recorder.agent, Output.sink, 0, 0⟩
    let start : Recorder := ⟨[], false, [], none, none, 0, []⟩
    let noted (limit : Nat) := run (env.limited limit).recording
      (.ofSource .endless ⟨start, []⟩ ⟨.empty none, []⟩)
    Run.CutShort (run (env.limited 1) (.ofSource .endless start (.empty none))) ∧
      (endState (noted 1)).agent.record = [.inl (.move .step)] ∧
      (endState (noted 1)).agent.record <+: (endState (noted 3)).agent.record := by
  intro env start noted
  have hends : (match run (env.limited 1) (.ofSource .endless start (.empty none)) with
      | .error (.failed (.grammar (.tooManyCalls _ _) _)) _ => true
      | _ => false) = true := by
    decide +kernel
  have hrecord : (endState (noted 1)).agent.record = [.inl (.move .step)] := by decide +kernel
  -- the records are finite computation; that the one begins the other is the theorem
  obtain ⟨-, -, hearlier⟩ :=
    limit_cuts_short env (show 1 ≤ 3 by decide) .endless start (.empty none)
  split at hends
  · next name limit place m hrun =>
    have hcut : Run.CutShort _ := ⟨name, limit, place, m, hrun⟩
    exact ⟨hcut, hrecord, (hearlier hcut).1⟩
  · cases hends

end GridScript
