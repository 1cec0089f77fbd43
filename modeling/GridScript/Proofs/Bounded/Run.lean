import GridScript.Proofs.Bounded.Operations
import GridScript.Proofs.Link.Steadfast
import GridScript.Proofs.Script.CallDepth
import GridScript.Proofs.Script.Places

/-!
# A run within bounds

A run counts two things: the blocks that are open where it skips one, and the calls that are active.
The first cannot be more than there are tokens left, and so no more than there are bytes. The second
is limited by the settings, and as a call leaves behind the number that it has found, there is
always one to be taken off when it ends.

* `Bounded.pastBlock` — skipping a block by a number that is counted with bounds.
* `Bounded.counted` — a procedure between the two ends of its call, where the number is looked at.
* `Bounded.run` — a run with such calls.
* `Agent.Steadfast` — what an agent keeps true and how it breaks off, and `Run.Contained` — a
  computation that is the same with bounds, keeps the same true and breaks off only like that;
  `Run.congruence_contained` and `Bounded.contained_blockHere`.
* `Bounded.pastBlock_eq`, `Bounded.contained_run` — skipping and running stay within the bounds.
-/

namespace GridScript

/-! ### Open blocks -/

theorem Source.HasPlace.size_le {src : Source} {ls : Lexemes} (h : src.HasPlace ls) :
    ls.size ≤ src.size := by
  obtain ⟨p, hp, rfl⟩ := h
  exact (Lexemes.size_ofPosition_le p).trans hp.length_le

namespace Bounded

variable (broken : Abort)

/-- **Behind the brace that closes the last open block**, by the number of those that are open. -/
def pastBraces : (opened : Nat) → Reading Unit
  | 0, ls => .ok () ls
  | _ + 1, .finish _ => .error (.failed (.spelling .endsEarly [])) (.finish [])
  | _ + 1, .misspelt _ e rest => .error (.failed (.spelling e.error e.shown)) rest
  | opened + 1, .token _ t rest =>
    if t.isSpelled "\x7b" then
      match add broken USize.size (opened + 1) 1 with
      | .ok more => pastBraces more rest
      | .error a => .error (.aborted a) rest
    else if t.isSpelled "\x7d" then
      match sub broken (opened + 1) 1 with
      | .ok fewer => pastBraces fewer rest
      | .error a => .error (.aborted a) rest
    else pastBraces (opened + 1) rest

/-- **Behind a block**, whose brace is the first one that is open. -/
def pastBlock : Reading Unit := do
  .expect "\x7b"
  pastBraces broken 1

variable {broken}

end Bounded

/-! ### Active calls -/

namespace Bounded

variable (broken : Abort) {σ τ : Type}

/-- **A procedure between the two ends of its call.** The call has been counted when the procedure
begins, and it is taken off when the procedure has ended, in whatever way. -/
def counted (procedure : Run σ τ Unit) : Run σ τ Unit := fun m =>
  if UInt32.size ≤ m.depth then .error (.aborted broken) m
  else if (endState (procedure m)).depth = 0 then
    .error (.aborted broken) (endState (procedure m))
  else procedure m

/-- The block where the run stands, in which at most `levels` calls can be inside each other. -/
def blockHere (env : Context σ τ) : (levels : Nat) → Run σ τ Unit
  | 0, m => Execution.blockCalling env (throw .unfinished) m
  | levels + 1, m =>
    Execution.blockCalling env (counted broken fun m => blockHere env levels m) m

/-- **A whole run.** -/
def run (env : Context σ τ) : Run σ τ Unit := do
  Program.declareAll
  .read (.expect "main")
  blockHere broken env env.maxDepth
  let behind ← .here
  Execution.tell env behind.place .stop

end Bounded

/-- **What is left behind by an early end**: `I` is still true behind a failure or where a run is
given up, and behind what breaks off there is what `B` says. -/
def Halt.Leaves {ε σ : Type} (I : σ → Prop) (B : Abort → σ → Prop) : Halt ε → σ → Prop
  | failed _, s => I s
  | aborted a, s => B a s
  | unfinished, s => I s

/-- **An agent that keeps `I` true**, whatever it is asked, as long as it does not break off, and
that breaks off as `B` says only. -/
structure Agent.Steadfast {σ : Type} (agent : Agent σ) (I : σ → Prop) (B : Abort → σ → Prop) :
    Prop where
  obey : ∀ c s, I s → Settles (agent.obey c) s (fun _ => I) (Trouble.Leaves I B)
  answer : ∀ c s, I s → Settles (agent.answer c) s (fun _ => I) (Trouble.Leaves I B)

namespace Run

variable {σ τ α β : Type} {env : Context σ τ} {I : σ → Prop} {B : Abort → σ → Prop}

/-- **A computation within bounds**: in as many calls as may be active it is the same with bounds,
it keeps their number, it keeps true of the agent what the agent does, and it breaks off only as the
agent does. -/
structure Contained (env : Context σ τ) (I : σ → Prop) (B : Abort → σ → Prop)
    (bounded x : Run σ τ α) : Prop where
  same : ∀ m, m.depth ≤ env.maxDepth → bounded m = x m
  steady : Steady env x
  settles : ∀ m, I m.agent →
    Settles x m (fun _ m' => I m'.agent) fun e m' => e.Leaves I B m'.agent

/-- The same computation twice. -/
theorem Steady.contained {x : Run σ τ α} (h : Steady env x)
    (hsettles : ∀ m, I m.agent →
      Settles x m (fun _ m' => I m'.agent) fun e m' => e.Leaves I B m'.agent) :
    Contained env I B x x :=
  ⟨fun _ _ => rfl, h, hsettles⟩

theorem Contained.bind {bounded x : Run σ τ α} {f f' : α → Run σ τ β}
    (h : Contained env I B bounded x) (hf : ∀ a, Contained env I B (f a) (f' a)) :
    Contained env I B (bounded >>= f) (x >>= f') := by
  refine ⟨fun m hm => ?_, h.steady.bind fun a => (hf a).steady, fun m hm => ?_⟩
  · -- the second part begins in as many calls as the first one has begun in
    have hdepth := (h.steady m).1
    rw [bind_apply, bind_apply, h.same m hm]
    cases hx : x m with
    | error e m' => rfl
    | ok a m' =>
      rw [hx] at hdepth
      exact (hf a).same m' (hdepth ▸ hm)
  · exact (h.settles m hm).bind fun a m' hm' => (hf a).settles m' hm'

/-- One more active call. -/
theorem Contained.deeper {x : Run σ τ α} (h : Contained env I B x x) :
    Contained env I B (Run.deeper x) (Run.deeper x) := by
  refine h.steady.deeper.contained fun m hm => ?_
  -- the agent does not see how many calls are active
  have hinside := h.settles { m with depth := m.depth + 1 } hm
  rw [Settles, Run.deeper]
  cases hx : x { m with depth := m.depth + 1 } with
  | ok v m' =>
    have hm' : I m'.agent := hinside.of_ok hx
    exact hm'
  | error e m' =>
    have hm' : e.Leaves I B m'.agent := hinside.of_error hx
    exact hm'

/-- A reading uses nothing that could break off. -/
theorem contained_read {r : Reading α} (hr : r.Terminates) :
    Contained env I B (read r : Run σ τ α) (read r) := by
  refine (steady_read r).contained fun m hm => ?_
  have hend := hr m.lexemes trivial
  rw [Settles, read]
  cases hread : r m.lexemes with
  | ok v ls => exact hm
  | error e ls =>
    -- reading breaks off nowhere, so that this end does not occur
    cases e with
    | failed f => exact hm
    | aborted a => exact absurd rfl ((hend.of_error hread).ne_aborted a)
    | unfinished => exact hm

/-- A request leaves behind what the agent does. -/
theorem settles_ask {request : EStateM (Trouble Diagnostic) σ α}
    (h : ∀ s, I s → Settles request s (fun _ => I) (Trouble.Leaves I B)) (place : Position)
    (m : Machine σ τ) (hm : I m.agent) :
    Settles (ask place request) m (fun _ m' => I m'.agent) fun e m' => e.Leaves I B m'.agent := by
  have hrequest := h m.agent hm
  rw [Settles, ask]
  cases hact : request m.agent with
  | ok v s => exact hrequest.of_ok hact
  | error e s =>
    have hs := hrequest.of_error hact
    cases e <;> exact hs

/-- **Staying within bounds is a matter of the parts.** -/
theorem congruence_contained (hagent : env.agent.Steadfast I B) :
    Congruence env env fun x x' => Contained env I B x x' where
  passes := rfl
  pure a := ((congruence_steady env).pure a).2.contained fun _ hm => hm
  giveUp := (congruence_steady env).giveUp.2.contained fun _ hm => hm
  fail e place := ((congruence_steady env).fail e place).2.contained fun _ hm => hm
  bind hx hf := hx.bind hf
  here := (congruence_steady env).here.2.contained fun _ hm => hm
  goTo ls := ((congruence_steady env).goTo ls).2.contained fun _ hm => hm
  read hr := contained_read hr
  declare name body := ((congruence_steady env).declare name body).2.contained fun _ hm => hm
  obey place c := (steady_obey place c).contained (settles_ask (hagent.obey c) place)
  answer place c := (steady_answer place c).contained (settles_ask (hagent.answer c) place)
  print line := by
    refine (steady_print line).contained fun m hm => ?_
    rw [Settles, print]
    cases env.sink.print line m.output <;> exact hm

end Run

namespace Bounded

open Run Execution

variable {broken : Abort} {σ τ : Type} {env : Context σ τ} {bounded callee : Run σ τ Unit}
variable {I : σ → Prop} {B : Abort → σ → Prop}

/-- **The number of calls fits**: a procedure begins in one call or more, and in no more than may be
active, and that is where it ends. -/
theorem counted_eq (hlimit : env.maxDepth < UInt32.size) (h : Contained env I B bounded callee)
    {m : Machine σ τ} (hactive : 0 < m.depth) (hm : m.depth ≤ env.maxDepth) :
    counted broken bounded m = callee m := by
  have hfits : ¬ UInt32.size ≤ m.depth := Nat.not_le.2 (Nat.lt_of_le_of_lt hm hlimit)
  have hend : ¬ (endState (callee m)).depth = 0 := by
    rw [(h.steady m).1]
    exact Nat.ne_of_gt hactive
  rw [counted, if_neg hfits, h.same m hm, if_neg hend]

/-- A call that may be made runs the procedure in one call more. -/
theorem visit_congr {procedure : Lexemes} {m : Machine σ τ}
    (h : ∀ m' : Machine σ τ, m'.depth = m.depth + 1 → bounded m' = callee m') :
    visit bounded procedure m = visit callee procedure m := by
  have hdeeper : Run.deeper (do .goTo procedure; bounded) m =
      Run.deeper (do .goTo procedure; callee) m := by
    have hinside : (do .goTo procedure; bounded : Run σ τ Unit) { m with depth := m.depth + 1 } =
        (do .goTo procedure; callee : Run σ τ Unit) { m with depth := m.depth + 1 } :=
      h { m with lexemes := procedure, depth := m.depth + 1 } rfl
    rw [Run.deeper, Run.deeper, hinside]
  have hhere : (Run.here : Run σ τ Lexemes) m = .ok m.lexemes m := rfl
  rw [visit, visit, bind_of_ok hhere, bind_of_ok hhere, bind_apply, bind_apply, hdeeper]

/-- **A call stays within bounds**, if its procedure does in one call and more. -/
theorem contained_callNamed (hagent : env.agent.Steadfast I B)
    (hcallee : Contained env I B callee callee)
    (h : ∀ m : Machine σ τ, 0 < m.depth → m.depth ≤ env.maxDepth → bounded m = callee m)
    (place : Position) (name : String) :
    Contained env I B (callNamed env bounded place name) (callNamed env callee place name) := by
  have hcongruence := congruence_contained hagent
  refine ⟨fun m _ => ?_, steady_callNamed hcallee.steady place name, fun m hm => ?_⟩
  · rw [callNamed, callNamed, bind_of_ok (get_apply m), bind_of_ok (get_apply m)]
    -- the table is the same, and so is the number of active calls
    cases m.procedures.get? name with
    | none => rfl
    | some procedure =>
      dsimp only
      -- the number is looked at before the call is counted
      by_cases hdepth : env.maxDepth ≤ m.depth
      · rw [if_pos hdepth, if_pos hdepth]
      · rw [if_neg hdepth, if_neg hdepth]
        refine visit_congr fun m' hm' => h m' ?_ ?_ <;> omega
  · rw [Settles]
    rcases callNamed_cases env callee place name m with
      ⟨-, heq⟩ | ⟨procedure, -, ⟨-, heq⟩ | ⟨-, heq⟩⟩
    · -- both failures of a call are found before anything is run
      rw [heq]
      exact hm
    · rw [heq]
      exact hm
    · rw [heq]
      have hinside : Contained env I B (do .goTo procedure; callee) (do .goTo procedure; callee) :=
        (hcongruence.goTo procedure).bind fun _ => hcallee
      exact (hcongruence.visit hinside.deeper).settles m hm

/-- **A block stays within bounds**, by the number of calls that can be inside each other. -/
theorem contained_blockHere (hagent : env.agent.Steadfast I B) (hlimit : env.maxDepth < UInt32.size)
    (levels : Nat) :
    Contained env I B (blockHere broken env levels) (Execution.blockHere env levels) := by
  have hcongruence := congruence_contained hagent
  -- the induction is on the calls that may still be made; at none the body is never reached
  induction levels with
  | zero =>
    exact hcongruence.blockCalling fun place name =>
      contained_callNamed hagent hcongruence.giveUp (fun _ _ _ => rfl) place name
  | succ levels ih =>
    exact hcongruence.blockCalling fun place name =>
      contained_callNamed hagent (ih.steady.contained ih.settles)
        (fun _ hactive hm => counted_eq hlimit ih hactive hm) place name

/-- **A whole run stays within bounds.** -/
theorem contained_run (hagent : env.agent.Steadfast I B) (hlimit : env.maxDepth < UInt32.size) :
    Contained env I B (run broken env) (Program.run env) := by
  have hcongruence := congruence_contained hagent
  refine hcongruence.declareAll.bind fun _ => ?_
  refine (contained_read (Reading.terminates_expect "main")).bind fun _ => ?_
  refine (contained_blockHere hagent hlimit env.maxDepth).bind fun _ => ?_
  exact hcongruence.here.bind fun behind => hcongruence.obey behind.place .stop

end Bounded

end GridScript
