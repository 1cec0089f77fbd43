import GridScript.Proofs.Script.Dialogue
import GridScript.Proofs.Script.Simulation
import Mathlib.Tactic.Choose

/-!
# Every run is a dialogue

A run looks at its agent and its output only through what it is told by them. So what it says, and
how it goes on for each answer, can be collected in one dialogue before anyone hears it. There is no
second interpreter: the dialogue of a computation is put together from those of its parts, one rule
for each way in which runs are put together.

* `Converses` — a computation that is a dialogue, and never says that the run is over.
* `Converses.silent`, `Converses.tell`, `Converses.answer`, `Converses.print`, `Converses.bind`,
  `Converses.standing`, `Converses.deeper`, `Converses.times`, `Converses.loop` — the rules.
* `Execution.converses_instruction`, `Execution.converses_blockHere` — by recursion on how deeply
  instructions and calls are nested.
* `Program.exists_dialogue` — a whole run, which says once, at its end, that it is over;
  `Program.sameResult_played` — two runs that are heard alike.
-/

namespace GridScript

open Machine

/-- **A computation that is a dialogue** for every agent and every sink. From each stand it says the
same to all of them, and never that the run is over. -/
def Converses {α : Type} (maxDepth passes : Nat)
    (run : ∀ {σ τ : Type}, Context σ τ → Run σ τ α) : Prop :=
  ∀ p : Stand, ∃ d : Dialogue (α × Stand), d.All (·.isStop = false) ∧
    ∀ {σ τ : Type} (agent : Agent σ) (sink : Sink τ) (s : Tree.Scene σ τ),
      outcome (run ⟨agent, sink, maxDepth, passes⟩ (p.machine s)) =
        d.perform (Context.hear ⟨agent, sink, maxDepth, passes⟩) s

namespace Converses

variable {α β : Type} {maxDepth passes : Nat}
variable {run : ∀ {σ τ : Type}, Context σ τ → Run σ τ α}

/-! ### Without a word -/

/-- A computation that neither asks nor prints. -/
theorem silent (h : ∀ p : Stand, ∃ result : Except (Halt Failure) (α × Stand),
      ∀ {σ τ : Type} (env : Context σ τ) (s : Tree.Scene σ τ),
        outcome (run env (p.machine s)) = (Dialogue.ended result).perform env.hear s) :
    Converses maxDepth passes run := by
  intro p
  obtain ⟨result, hrun⟩ := h p
  exact ⟨.ended result, trivial, fun agent sink s => hrun _ s⟩

theorem pure (a : α) : Converses maxDepth passes fun _ => Pure.pure a :=
  silent fun p => ⟨.ok (a, p), fun _ _ => rfl⟩

theorem throw (e : Halt Failure) :
    Converses maxDepth passes fun _ => (MonadExcept.throw e : Run _ _ α) :=
  silent fun _ => ⟨.error e, fun _ _ => rfl⟩

theorem fail (e : GrammarError) (place : Position) :
    Converses maxDepth passes fun _ => (Run.fail e place : Run _ _ α) :=
  throw (.failed (.grammar e place))

theorem read (r : Reading α) : Converses maxDepth passes fun _ => Run.read r := by
  refine silent fun p => ?_
  -- reading is not part of the conversation: where it ends is known without any agent
  cases hr : r p.lexemes with
  | ok a ls =>
    refine ⟨.ok (a, { p with lexemes := ls }), fun env s => ?_⟩
    have hread : r (p.machine s).lexemes = .ok a ls := hr
    rw [Run.read, hread]
    rfl
  | error e ls =>
    refine ⟨.error e, fun env s => ?_⟩
    have hread : r (p.machine s).lexemes = .error e ls := hr
    rw [Run.read, hread]
    rfl

theorem here : Converses maxDepth passes fun _ => Run.here :=
  silent fun p => ⟨.ok (p.lexemes, p), fun _ _ => rfl⟩

theorem goTo (ls : Lexemes) : Converses maxDepth passes fun _ => Run.goTo ls :=
  silent fun p => ⟨.ok ((), { p with lexemes := ls }), fun _ _ => rfl⟩

/-- Declaring a procedure. -/
theorem declare (name : String) (body : Lexemes) : Converses maxDepth passes fun _ =>
    (modify fun m => { m with procedures := m.procedures.insert name body } : Run _ _ Unit) :=
  silent fun p =>
    ⟨.ok ((), { p with procedures := p.procedures.insert name body }), fun _ _ => rfl⟩

/-! ### Sayings -/

theorem tell (place : Position) {c : Command} (h : c ≠ .stop) :
    Converses maxDepth passes fun env => Execution.tell env place c := by
  intro p
  -- the last word is kept out, so that it can be said once at the end
  have hstop : (Saying.tell place c).isStop = false := by
    cases c with
    | stop => exact absurd rfl h
    | move m => rfl
    | loadGrid name => rfl
    | setGems n => rfl
  -- one saying, and the stand is what it was whatever the answer is
  refine ⟨.say (.tell place c) fun _ => .ended (.ok ((), p)), ⟨hstop, fun _ => trivial⟩,
    fun agent sink s => ?_⟩
  simp only [Dialogue.perform, bind_apply, Context.hear, Execution.tell, Run.ask]
  have hagent : (p.machine s).agent = s.agent := rfl
  rw [hagent]
  cases agent.obey c s.agent <;> rfl

theorem answer (place : Position) (c : Condition) :
    Converses maxDepth passes fun env => Run.ask place (env.agent.answer c) := by
  intro p
  refine ⟨.say (.ask place c) fun a => .ended (.ok (a, p)), ⟨rfl, fun _ => trivial⟩,
    fun agent sink s => ?_⟩
  simp only [Dialogue.perform, bind_apply, Context.hear, Run.ask]
  have hagent : (p.machine s).agent = s.agent := rfl
  rw [hagent]
  cases agent.answer c s.agent <;> rfl

theorem print (line : String) :
    Converses maxDepth passes fun env => Run.print env.sink line := by
  intro p
  refine ⟨.say (.print line) fun _ => .ended (.ok ((), p)), ⟨rfl, fun _ => trivial⟩,
    fun agent sink s => ?_⟩
  simp only [Dialogue.perform, bind_apply, Context.hear, Run.print]
  have houtput : (p.machine s).output = s.output := rfl
  rw [houtput]
  cases sink.print line s.output <;> rfl

/-! ### Putting computations together -/

/-- **One after another.** -/
theorem bind {f : α → ∀ {σ τ : Type}, Context σ τ → Run σ τ β}
    (h : Converses maxDepth passes run) (hf : ∀ a, Converses maxDepth passes (f a)) :
    Converses maxDepth passes fun env => run env >>= fun a => f a env := by
  intro p
  obtain ⟨d, hd, hrun⟩ := h p
  -- one dialogue for the rest, for each result of the first part and each stand that it leads to
  choose d' hd' hrun' using hf
  refine ⟨d.andThen fun r => d' r.1 r.2, hd.andThen fun r => hd' r.1 r.2,
    fun agent sink s => ?_⟩
  -- the dialogue of the first part leads to the stand from which the second one is taken
  have hfirst : outcome (run ⟨agent, sink, maxDepth, passes⟩ (p.machine s)) = _ :=
    hrun agent sink s
  rw [Dialogue.perform_andThen, bind_apply, ← hfirst]
  dsimp only
  rw [bind_apply]
  cases run ⟨agent, sink, maxDepth, passes⟩ (p.machine s) with
  | ok a m => exact hrun' a m.stand agent sink m.scene
  | error e m => rfl

/-- **A computation that looks at where it stands.** It is a dialogue if it does from each stand
what some dialogue does. -/
theorem standing (h : ∀ p : Stand, ∃ run' : ∀ {σ τ : Type}, Context σ τ → Run σ τ α,
      Converses maxDepth passes run' ∧
        ∀ {σ τ : Type} (agent : Agent σ) (sink : Sink τ) (s : Tree.Scene σ τ),
          run ⟨agent, sink, maxDepth, passes⟩ (p.machine s) =
            run' ⟨agent, sink, maxDepth, passes⟩ (p.machine s)) :
    Converses maxDepth passes run := by
  intro p
  obtain ⟨run', hconverses, hsame⟩ := h p
  obtain ⟨d, hd, hrun⟩ := hconverses p
  refine ⟨d, hd, fun agent sink s => ?_⟩
  exact (congrArg outcome (hsame agent sink s)).trans (hrun agent sink s)

/-- A choice that does not depend on what is heard. -/
theorem ite {c : Prop} [Decidable c] {run' : ∀ {σ τ : Type}, Context σ τ → Run σ τ α}
    (h : Converses maxDepth passes run) (h' : Converses maxDepth passes run') :
    Converses maxDepth passes fun env => if c then run env else run' env := by
  by_cases hc : c
  · simpa only [if_pos hc] using h
  · simpa only [if_neg hc] using h'

/-- **One more active call.** Where the computation fails the number of calls does not matter. -/
theorem deeper (h : Converses maxDepth passes run) :
    Converses maxDepth passes fun env => Run.deeper (run env) := by
  intro p
  -- the dialogue is that of the body, taken one call deeper
  obtain ⟨d, hd, hrun⟩ := h { p with depth := p.depth + 1 }
  refine ⟨d.andThen fun r => .ended (.ok (r.1, { r.2 with depth := r.2.depth - 1 })),
    hd.andThen fun _ => trivial, fun agent sink s => ?_⟩
  have hfirst : outcome (run ⟨agent, sink, maxDepth, passes⟩ _) = _ := hrun agent sink s
  rw [Dialogue.perform_andThen, bind_apply, ← hfirst]
  have hmachine : { p.machine s with depth := (p.machine s).depth + 1 } =
      ({ p with depth := p.depth + 1 } : Stand).machine s := rfl
  simp only [Run.deeper, hmachine]
  generalize run ⟨agent, sink, maxDepth, passes⟩ _ = r
  cases r <;> rfl

theorem times {body : ∀ {σ τ : Type}, Context σ τ → Run σ τ Unit}
    (h : Converses maxDepth passes body) (count : Nat) :
    Converses maxDepth passes fun env => Run.times (body env) count := by
  induction count with
  | zero => exact pure ()
  | succ count ih =>
    simp only [Run.times_succ]
    exact h.bind fun _ => ih

theorem loop {pass : ∀ {σ τ : Type}, Context σ τ → Run σ τ Bool}
    (h : Converses maxDepth passes pass) (count : Nat) :
    Converses maxDepth passes fun env => Run.loop (pass env) count := by
  induction count with
  | zero => exact throw .unfinished
  | succ count ih =>
    simp only [Run.loop_succ]
    refine h.bind fun again => ?_
    exact ih.ite (pure ())

end Converses

/-! ### Instructions -/

namespace Execution

open Converses

variable {maxDepth passes : Nat}

theorem converses_test : Converses maxDepth passes fun env => test env := by
  refine here.bind fun start => ?_
  refine (read _).bind fun t => ?_
  exact (answer _ _).bind fun value => pure _

theorem converses_movesUpTo (bound : Nat) :
    Converses maxDepth passes fun env => movesUpTo env bound := by
  induction bound with
  | zero => exact throw _
  | succ bound ih =>
    refine here.bind fun start => ?_
    refine (read _).bind fun token => ?_
    refine (pure ()).ite ?_
    cases token.word?.bind Move.ofWord? with
    | none => exact fail _ _
    | some m => exact (Converses.tell _ (by simp)).bind fun _ => ih

theorem converses_moves (place : Position) (first : Move) :
    Converses maxDepth passes fun env => moves env place first :=
  (Converses.tell _ (by simp)).bind fun _ => here.bind fun _ => converses_movesUpTo _

theorem converses_setUp : Converses maxDepth passes fun env => setUp env := by
  refine here.bind fun start => ?_
  refine (read _).bind fun target => ?_
  have hend : Converses maxDepth passes fun _ => Run.read (.expect ";") := read _
  split
  · exact (read _).bind fun name => (Converses.tell _ (by simp)).bind fun _ => hend
  · exact (read _).bind fun count => (Converses.tell _ (by simp)).bind fun _ => hend
  · exact (fail _ _).bind fun _ => hend

theorem converses_print : Converses maxDepth passes fun env => print env :=
  (read _).bind fun text => (read _).bind fun _ => Converses.print text

/-! What instructions are made into, from what the instructions are. -/

section Bodies

variable {instruction : ∀ {σ τ : Type}, Context σ τ → Run σ τ Unit}

theorem converses_instructionsUpTo (h : Converses maxDepth passes instruction) (bound : Nat) :
    Converses maxDepth passes fun env => instructionsUpTo (instruction env) bound := by
  induction bound with
  | zero => exact throw .unfinished
  | succ bound ih =>
    simp only [instructionsUpTo_succ]
    refine (read _).bind fun closed => ?_
    exact (read _).ite (h.bind fun _ => ih)

theorem converses_block (h : Converses maxDepth passes instruction) :
    Converses maxDepth passes fun env => block (instruction env) :=
  (read _).bind fun _ => here.bind fun _ => converses_instructionsUpTo h _

theorem converses_body (h : Converses maxDepth passes instruction) :
    Converses maxDepth passes fun env => body (instruction env) :=
  (read _).bind fun _ => (converses_block h).ite h

theorem converses_choose (h : Converses maxDepth passes instruction) :
    Converses maxDepth passes fun env => choose env (instruction env) := by
  refine converses_test.bind fun holds => ?_
  have helse : Converses maxDepth passes fun env => (do
      if ← .read (.nextIs "else") then
        discard <| .read .take
        if holds then .read .pastBody else body (instruction env) : Run _ _ Unit) := by
    -- whether there is an `else` is seen from where the run stands
    refine (read _).bind fun found => ?_
    refine Converses.ite ?_ (pure ())
    refine ((read _).bind fun _ => pure ()).bind fun _ => ?_
    exact (read _).ite (converses_body h)
  -- the body that does not run is skipped, which says nothing
  by_cases hholds : holds = true
  · simp only [if_pos hholds] at helse ⊢
    exact (converses_body h).bind fun _ => helse
  · simp only [if_neg hholds] at helse ⊢
    exact (read _).bind fun _ => helse

theorem converses_repeatWhile (h : Converses maxDepth passes instruction) :
    Converses maxDepth passes fun env => repeatWhile env (instruction env) := by
  refine here.bind fun start => ?_
  have hpass : Converses maxDepth passes fun env => (do
      .goTo start
      if ← test env then
        body (instruction env)
        return true
      else
        .read .pastBody
        return false : Run _ _ Bool) := by
    -- a pass says what its test says and then what its body says, if that runs
    refine (goTo _).bind fun _ => ?_
    refine converses_test.bind fun holds => ?_
    exact ((converses_body h).bind fun _ => pure _).ite ((read _).bind fun _ => pure _)
  exact hpass.loop passes

theorem converses_repeatTimes (h : Converses maxDepth passes instruction) :
    Converses maxDepth passes fun env => repeatTimes (instruction env) := by
  refine (read _).bind fun count => ?_
  refine here.bind fun start => ?_
  have hpass : Converses maxDepth passes fun env => (do
      .goTo start
      body (instruction env) : Run _ _ Unit) := (goTo _).bind fun _ => converses_body h
  exact (read _).ite (hpass.times count.toNat)

/-- **A call**, which looks at what is declared and at how many calls are active. -/
theorem converses_call (h : Converses maxDepth passes instruction) :
    Converses maxDepth passes fun env => call env (instruction env) := by
  refine here.bind fun start => ?_
  refine (read _).bind fun name => ?_
  refine standing fun p => ?_
  -- the table is part of the stand, and so is the number of calls
  cases hprocedure : p.procedures.get? name with
  | none =>
    refine ⟨_, fail (.undeclared name) start.place, fun agent sink s => ?_⟩
    have hget : (p.machine s).procedures.get? name = none := hprocedure
    rw [bind_of_ok (get_apply (p.machine s)), hget]
  | some procedure =>
    have hcall : Converses maxDepth passes fun env => (do
        let back ← .here
        .deeper do
          .goTo procedure
          instruction env
        .goTo back
        .read (.expect ";") : Run _ _ Unit) := by
      refine here.bind fun back => ?_
      refine ((goTo _).bind fun _ => h).deeper.bind fun _ => ?_
      exact (goTo _).bind fun _ => read _
    have hmany : Converses maxDepth passes fun _ =>
        (Run.fail (.tooManyCalls name maxDepth) start.place : Run _ _ Unit) := fail _ _
    refine ⟨_, hmany.ite (c := maxDepth ≤ p.depth) hcall, fun agent sink s => ?_⟩
    have hget : (p.machine s).procedures.get? name = some procedure := hprocedure
    rw [bind_of_ok (get_apply (p.machine s)), hget]
    rfl

end Bodies

/-! ### Whole scripts -/

theorem converses_instruction {callee : ∀ {σ τ : Type}, Context σ τ → Run σ τ Unit}
    (h : Converses maxDepth passes callee) (nesting : Nat) :
    Converses maxDepth passes fun env => instruction env (callee env) nesting := by
  induction nesting with
  | zero => exact throw .unfinished
  | succ nesting ih =>
    refine here.bind fun start => ?_
    refine (read _).bind fun token => ?_
    -- the first word is part of the stand as well, so that the kind of instruction is settled
    split
    · exact converses_choose ih
    · exact converses_repeatWhile ih
    · exact converses_repeatTimes ih
    · exact converses_call h
    · exact converses_setUp
    · exact converses_print
    · cases token.word?.bind Move.ofWord? with
      | none => exact fail _ _
      | some m => exact converses_moves _ m

theorem converses_blockCalling {callee : ∀ {σ τ : Type}, Context σ τ → Run σ τ Unit}
    (h : Converses maxDepth passes callee) :
    Converses maxDepth passes fun env => blockCalling env (callee env) :=
  standing fun p =>
    ⟨_, converses_block (converses_instruction h (p.lexemes.size + 1)), fun _ _ _ => rfl⟩

theorem converses_blockHere (levels : Nat) :
    Converses maxDepth passes fun env => blockHere env levels := by
  induction levels with
  | zero => exact converses_blockCalling (throw .unfinished)
  | succ levels ih => exact converses_blockCalling ih

end Execution

namespace Program

open Converses

variable {maxDepth passes : Nat}

theorem converses_declareNext : Converses maxDepth passes fun _ => declareNext := by
  refine ((read _).bind fun _ => pure ()).bind fun _ => ?_
  refine (read _).bind fun name => ?_
  refine here.bind fun body => ?_
  refine (read _).bind fun opens => ?_
  have hend : Converses maxDepth passes fun _ => (do
      .read .pastBlock
      modify fun m => { m with procedures := m.procedures.insert name body } : Run _ _ Unit) :=
    (read _).bind fun _ => declare name body
  refine Converses.ite hend ?_
  exact (read _).bind fun found => (fail _ _).bind fun _ => hend

theorem converses_declareUpTo (bound : Nat) :
    Converses maxDepth passes fun _ => declareUpTo bound := by
  induction bound with
  | zero => exact throw .unfinished
  | succ bound ih =>
    refine (read _).bind fun found => ?_
    exact (converses_declareNext.bind fun _ => ih).ite (pure ())

theorem converses_declareAll : Converses maxDepth passes fun _ => declareAll := by
  refine here.bind fun start => ?_
  refine (converses_declareUpTo _).bind fun _ => ?_
  refine here.bind fun behind => ?_
  refine (read _).bind fun next => ?_
  exact (fail _ _).ite (pure ())

/-- **A run up to its end**, where only the agent has to be told. The result is the place there. -/
def untilStop {σ τ : Type} (env : Context σ τ) : Run σ τ Position := do
  declareAll
  .read (.expect "main")
  Execution.blockHere env env.maxDepth
  let behind ← .here
  return behind.place

theorem run_eq_untilStop {σ τ : Type} (env : Context σ τ) :
    run env = untilStop env >>= fun place => Execution.tell env place .stop := by
  simp only [run, untilStop, bind_assoc, pure_bind]

theorem converses_untilStop : Converses maxDepth passes fun env => untilStop env := by
  refine converses_declareAll.bind fun _ => ?_
  refine (read _).bind fun _ => ?_
  have hrest : Converses maxDepth passes fun env => (do
      Execution.blockHere env maxDepth
      let behind ← .here
      return behind.place : Run _ _ Position) :=
    (Execution.converses_blockHere maxDepth).bind fun _ => here.bind fun _ => pure _
  exact hrest

/-- **What a run does to its agent and its output**, and how it ends. -/
def played {σ τ : Type} (env : Context σ τ) (src : Source) (s : Tree.Scene σ τ) :
    EStateM.Result (Halt Failure) (Tree.Scene σ τ) Unit :=
  match run env (.ofSource src s.agent s.output) with
  | .ok u m => .ok u m.scene
  | .error e m => .error e m.scene

/-- The end of a dialogue: the agent is told that the run is over. -/
def thenStop (d : Dialogue Position) : Dialogue Unit :=
  d.andThen fun place => .say (.tell place .stop) fun _ => .ended (.ok ())

/-- **Every run is a dialogue** that says at its end, and nowhere else, that the run is over. -/
theorem exists_dialogue (src : Source) (maxDepth passes : Nat) :
    ∃ d : Dialogue Position, d.All (·.isStop = false) ∧
      ∀ {σ τ : Type} (agent : Agent σ) (sink : Sink τ) (s : Tree.Scene σ τ),
        played ⟨agent, sink, maxDepth, passes⟩ src s =
          (thenStop d).perform (Context.hear ⟨agent, sink, maxDepth, passes⟩) s := by
  have huntil : Converses maxDepth passes fun env => untilStop env := converses_untilStop
  -- at the start of the source nothing is declared and no call is active
  obtain ⟨d, hd, hrun⟩ := huntil ⟨src.lexemes, .empty, 0⟩
  refine ⟨d.andThen fun r => .ended (.ok r.1), hd.andThen fun _ => trivial,
    fun agent sink s => ?_⟩
  -- the run stands where `untilStop` has left it, and says one thing more
  have hbody : outcome (untilStop ⟨agent, sink, maxDepth, passes⟩ _) = _ := hrun agent sink s
  rw [thenStop, Dialogue.perform_andThen, Dialogue.perform_andThen, bind_assoc, bind_apply, ← hbody,
    played, run_eq_untilStop, bind_apply]
  have hmachine : Machine.ofSource src s.agent s.output =
      (⟨src.lexemes, .empty, 0⟩ : Stand).machine s := rfl
  rw [hmachine]
  cases untilStop ⟨agent, sink, maxDepth, passes⟩
      ((⟨src.lexemes, .empty, 0⟩ : Stand).machine s) with
  | error e m => rfl
  | ok place m =>
    have hagent : m.scene.agent = m.agent := rfl
    simp only [outcome, Dialogue.perform, bind_apply, pure_apply, Context.hear, Execution.tell,
      Run.ask, hagent]
    cases agent.obey .stop m.agent <;> rfl

/-- **Runs in tandem.** Two agents and two outputs that hear every saying in the same way are played
in the same way by every script. -/
theorem sameResult_played {σ σ' τ τ' : Type} {S : Tree.Scene σ τ → Tree.Scene σ' τ' → Prop}
    {agent : Agent σ} {agent' : Agent σ'} {sink : Sink τ} {sink' : Sink τ'} {maxDepth passes : Nat}
    (hhear : ∀ what, InTandem S (Context.hear ⟨agent, sink, maxDepth, passes⟩ what)
      (Context.hear ⟨agent', sink', maxDepth, passes⟩ what))
    (src : Source) {s : Tree.Scene σ τ} {s' : Tree.Scene σ' τ'} (hs : S s s') :
    SameResult S (played ⟨agent, sink, maxDepth, passes⟩ src s)
      (played ⟨agent', sink', maxDepth, passes⟩ src s') := by
  obtain ⟨d, -, hplayed⟩ := exists_dialogue src maxDepth passes
  rw [hplayed, hplayed]
  exact Dialogue.inTandem_perform (fun what _ => hhear what) (Dialogue.all_true _) s s' hs

end Program

end GridScript
