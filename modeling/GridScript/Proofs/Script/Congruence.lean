import GridScript.Proofs.Script.Dealings
import GridScript.Proofs.Script.Following
import GridScript.Proofs.Script.ReadingEnds
import GridScript.Proofs.Script.Simulation
import GridScript.Script.Program

/-!
# Congruences of runs

Two runs of one script, by different agents, with different limits or with bookkeeping of their own,
are put together in the same way from parts that correspond. Whatever is to be shown of the two, it
is enough to show it of the smallest parts, of sequences, and of calls, which are where two such
runs can differ. The interpreter is gone through here once for all relations; a property of single
runs is a relation between a run and itself.

* `Run.Compatible` — what is asked of a relation for the sake of reading, and
  `Execution.Dealings.Alike` what for the sake of everything else.
* `Run.Compatible.instruction`, `Run.Compatible.dealt` — from the dealings to blocks.
* `Execution.visit`, `Execution.callNamed` — a call behind the name, and `Execution.callNamed_cases`
  what it is.
* `Run.Congruence` — a relation that fits two contexts; `Run.Congruence.blockCalling` takes it from
  calls to blocks.
* `Run.Congruence.declareAll`, `Run.Congruence.run` — whole scripts.
-/

namespace GridScript

/-- **A relation that is compatible with reading**: it holds of the same small step on both sides,
and of sequences of related parts. -/
structure Run.Compatible {σ τ σ' τ' : Type} (R : ∀ {α : Type}, Run σ τ α → Run σ' τ' α → Prop) :
    Prop where
  pure : ∀ {α : Type} (a : α), R (Pure.pure a) (Pure.pure a)
  giveUp : ∀ {α : Type}, R (throw .unfinished : Run σ τ α) (throw .unfinished)
  fail : ∀ {α : Type} (e : GrammarError) (place : Position),
    R (Run.fail e place : Run σ τ α) (Run.fail e place)
  bind : ∀ {α β : Type} {x : Run σ τ α} {x' : Run σ' τ' α} {f : α → Run σ τ β}
    {f' : α → Run σ' τ' β}, R x x' → (∀ a, R (f a) (f' a)) → R (x >>= f) (x' >>= f')
  here : R Run.here Run.here
  goTo : ∀ ls, R (Run.goTo ls) (Run.goTo ls)
  read : ∀ {α : Type} {r : Reading α}, r.Terminates → R (Run.read r) (Run.read r)

/-- **Dealings that are alike**: whatever is done on one side is related to what is done on the
other. -/
structure Execution.Dealings.Alike {σ τ σ' τ' : Type}
    (R : ∀ {α : Type}, Run σ τ α → Run σ' τ' α → Prop) (d : Dealings σ τ) (d' : Dealings σ' τ') :
    Prop where
  tell : ∀ place c, R (d.tell place c) (d'.tell place c)
  ask : ∀ place c, R (d.ask place c) (d'.ask place c)
  print : ∀ line, R (d.print line) (d'.print line)
  call : R d.call d'.call
  passes : d'.passes = d.passes

/-- **A congruence of runs** under two contexts: it is compatible with reading, and it holds of
declarations, of requests and of printed lines. -/
structure Run.Congruence {σ τ σ' τ' : Type} (env : Context σ τ) (env' : Context σ' τ')
    (R : ∀ {α : Type}, Run σ τ α → Run σ' τ' α → Prop) : Prop extends Run.Compatible R where
  passes : env'.passes = env.passes
  declare : ∀ name body,
    R (modify fun m => { m with procedures := m.procedures.insert name body })
      (modify fun m => { m with procedures := m.procedures.insert name body })
  obey : ∀ place c, R (Run.ask place (env.agent.obey c)) (Run.ask place (env'.agent.obey c))
  answer : ∀ place c, R (Run.ask place (env.agent.answer c)) (Run.ask place (env'.agent.answer c))
  print : ∀ line, R (Run.print env.sink line) (Run.print env'.sink line)

namespace Execution

variable {σ τ : Type} (env : Context σ τ) (callee : Run σ τ Unit)

/-! ### Calls -/

/-- **What a call does** once it may: it goes to the procedure and comes back. -/
def visit (procedure : Lexemes) : Run σ τ Unit := do
  let back ← .here
  .deeper do
    .goTo procedure
    callee
  .goTo back
  .read (.expect ";")

/-- **A call** behind the name, by an instruction that began at a place. -/
def callNamed (place : Position) (name : String) : Run σ τ Unit := do
  let m ← get
  match m.procedures.get? name with
  | none => .fail (.undeclared name) place
  | some procedure =>
    if env.maxDepth ≤ m.depth then .fail (.tooManyCalls name env.maxDepth) place
    else visit callee procedure

theorem call_eq : call env callee = (do
    let start ← .here
    let name ← .read .name
    callNamed env callee start.place name) := rfl

/-- **What a call is**: of nothing that is declared, one too many, or the block of the procedure. -/
theorem callNamed_cases (place : Position) (name : String) (m : Machine σ τ) :
    (m.procedures.get? name = none ∧
      callNamed env callee place name m = Run.fail (.undeclared name) place m) ∨
    ∃ procedure, m.procedures.get? name = some procedure ∧
      (env.maxDepth ≤ m.depth ∧ callNamed env callee place name m =
          Run.fail (.tooManyCalls name env.maxDepth) place m ∨
        m.depth < env.maxDepth ∧
          callNamed env callee place name m = visit callee procedure m) := by
  rw [callNamed, bind_of_ok (get_apply m)]
  -- a name that is noted is called, unless there are too many calls already
  cases m.procedures.get? name with
  | none => exact .inl ⟨rfl, rfl⟩
  | some procedure =>
    refine .inr ⟨procedure, rfl, ?_⟩
    by_cases hdepth : env.maxDepth ≤ m.depth
    · exact .inl ⟨hdepth, by simp only [if_pos hdepth]⟩
    · exact .inr ⟨Nat.lt_of_not_le hdepth, by simp only [if_neg hdepth]⟩

/-- The bound on nested instructions is taken where the block begins. -/
theorem blockCalling_eq : blockCalling env callee =
    Run.here >>= fun ls => block (instruction env callee (ls.size + 1)) := rfl

/-- **What a block calls procedures by**, if so many calls can be inside each other. -/
def calleeHere : (levels : Nat) → Run σ τ Unit
  | 0 => throw .unfinished
  | levels + 1 => fun m => blockHere env levels m

theorem blockHere_eq (levels : Nat) :
    blockHere env levels = blockCalling env (calleeHere env levels) := by
  cases levels <;> rfl

end Execution

namespace Run.Compatible

open Execution Reading

variable {σ τ σ' τ' : Type} {R : ∀ {α : Type}, Run σ τ α → Run σ' τ' α → Prop}
variable (h : Compatible R)

include h

theorem discard {α : Type} {x : Run σ τ α} {x' : Run σ' τ' α} (hx : R x x') :
    R (Functor.discard x) (Functor.discard x') :=
  h.bind hx fun _ => h.pure _

/-! ### Repetition -/

theorem times {body : Run σ τ Unit} {body' : Run σ' τ' Unit} (hbody : R body body')
    (count : Nat) : R (Run.times body count) (Run.times body' count) := by
  induction count with
  | zero => exact h.pure ()
  | succ count ih =>
    rw [Run.times_succ, Run.times_succ]
    exact h.bind hbody fun _ => ih

theorem loop {pass : Run σ τ Bool} {pass' : Run σ' τ' Bool} (hpass : R pass pass')
    (passes : Nat) : R (Run.loop pass passes) (Run.loop pass' passes) := by
  induction passes with
  | zero => exact h.giveUp
  | succ passes ih =>
    rw [Run.loop_succ, Run.loop_succ]
    refine h.bind hpass fun again => ?_
    cases again with
    | false => exact h.pure ()
    | true => exact ih

/-! ### Bodies -/

section Bodies

variable {one : Run σ τ Unit} {one' : Run σ' τ' Unit} (hone : R one one')

include hone

theorem instructionsUpTo (bound : Nat) :
    R (Execution.instructionsUpTo one bound) (Execution.instructionsUpTo one' bound) := by
  induction bound with
  | zero => exact h.giveUp
  | succ bound ih =>
    rw [instructionsUpTo_succ, instructionsUpTo_succ]
    refine h.bind (h.read (terminates_nextIs _)) fun closed => ?_
    cases closed with
    | true => exact h.read (terminates_expect _)
    | false => exact h.bind hone fun _ => ih

theorem block : R (Execution.block one) (Execution.block one') :=
  h.bind (h.read (terminates_expect _)) fun _ => h.bind h.here fun _ => h.instructionsUpTo hone _

theorem body : R (Execution.body one) (Execution.body one') := by
  refine h.bind (h.read (terminates_nextIs _)) fun opens => ?_
  cases opens with
  | true => exact h.block hone
  | false => exact hone

theorem repeatTimes : R (Execution.repeatTimes one) (Execution.repeatTimes one') := by
  refine h.bind (h.read terminates_integer) fun count => h.bind h.here fun start => ?_
  by_cases hcount : count = 0
  · simp only [if_pos hcount]
    exact h.read terminates_pastBody
  · simp only [if_neg hcount]
    exact h.times (h.bind (h.goTo _) fun _ => h.body hone) count.toNat

end Bodies

/-- A call that may be made, once it is known of the block of the procedure. -/
theorem visit {callee : Run σ τ Unit} {callee' : Run σ' τ' Unit} {procedure : Lexemes}
    (hdeeper : R (Run.deeper do .goTo procedure; callee)
      (Run.deeper do .goTo procedure; callee')) :
    R (Execution.visit callee procedure) (Execution.visit callee' procedure) :=
  h.bind h.here fun _ => h.bind hdeeper fun _ => h.bind (h.goTo _) fun _ =>
    h.read (terminates_expect ";")

/-! ### Instructions -/

section Dealt

variable {d : Dealings σ τ} {d' : Dealings σ' τ'} (hd : Dealings.Alike R d d')

include hd

theorem test : R d.test d'.test :=
  h.bind h.here fun start => h.bind (h.read terminates_test) fun t =>
    h.bind (hd.ask start.place t.condition) fun _ => h.pure _

theorem movesUpTo (bound : Nat) : R (d.movesUpTo bound) (d'.movesUpTo bound) := by
  induction bound with
  | zero => exact h.giveUp
  | succ bound ih =>
    -- both take the same token, since reading is the same in both
    refine h.bind h.here fun start => h.bind (h.read terminates_take) fun token => ?_
    by_cases hend : token.isSpelled ";" = true
    · simp only [if_pos hend]
      exact h.pure ()
    · simp only [if_neg hend]
      cases token.word?.bind Move.ofWord? with
      | none => exact h.fail _ _
      | some m => exact h.bind (hd.tell _ _) fun _ => ih

theorem moves (place : Position) (first : Move) : R (d.moves place first) (d'.moves place first) :=
  h.bind (hd.tell _ _) fun _ => h.bind h.here fun _ => h.movesUpTo hd _

theorem setUp : R d.setUp d'.setUp := by
  refine h.bind h.here fun start => h.bind (h.read terminates_take) fun target => ?_
  dsimp only
  -- a grid, gems, or something else that cannot be set up
  split
  · exact h.bind (h.read terminates_gridName) fun name => h.bind (hd.tell _ _) fun _ =>
      h.read (terminates_expect ";")
  · exact h.bind (h.read terminates_integer) fun count => h.bind (hd.tell _ _) fun _ =>
      h.read (terminates_expect ";")
  · exact h.bind (h.fail _ _) fun _ => h.read (terminates_expect ";")

theorem printing : R d.printing d'.printing :=
  h.bind (h.read terminates_text) fun _ => h.bind (h.read (terminates_expect ";")) fun _ =>
    hd.print _

theorem choose {one : Run σ τ Unit} {one' : Run σ' τ' Unit} (hone : R one one') :
    R (d.choose one) (d'.choose one') := by
  have helse (holds : Bool) : R (do
      if ← .read (.nextIs "else") then
        Functor.discard <| .read .take
        if holds then .read .pastBody else Execution.body one : Run σ τ Unit) (do
      if ← .read (.nextIs "else") then
        Functor.discard <| .read .take
        if holds then .read .pastBody else Execution.body one' : Run σ' τ' Unit) := by
    -- the same word is next in both, so that both run or skip the same bodies
    refine h.bind (h.read (terminates_nextIs _)) fun found => ?_
    cases found with
    | false => exact h.pure ()
    | true =>
      refine h.bind (h.discard (h.read terminates_take)) fun _ => ?_
      cases holds with
      | true => exact h.read terminates_pastBody
      | false => exact h.body hone
  refine h.bind (h.test hd) fun holds => ?_
  cases holds with
  | true => exact h.bind (h.body hone) fun _ => helse true
  | false => exact h.bind (h.read terminates_pastBody) fun _ => helse false

theorem repeatWhile {one : Run σ τ Unit} {one' : Run σ' τ' Unit} (hone : R one one') :
    R (d.repeatWhile one) (d'.repeatWhile one') := by
  refine h.bind h.here fun start => ?_
  rw [hd.passes]
  refine h.loop (h.bind (h.goTo _) fun _ => h.bind (h.test hd) fun holds => ?_) d.passes
  cases holds with
  | true => exact h.bind (h.body hone) fun _ => h.pure true
  | false => exact h.bind (h.read terminates_pastBody) fun _ => h.pure false

/-- **An instruction**, with dealings that are alike. -/
theorem instruction (nesting : Nat) : R (d.instruction nesting) (d'.instruction nesting) := by
  induction nesting with
  | zero => exact h.giveUp
  | succ nesting ih =>
    refine h.bind h.here fun start => h.bind (h.read terminates_take) fun token => ?_
    -- by the first word
    split
    · exact h.choose hd ih
    · exact h.repeatWhile hd ih
    · exact h.repeatTimes ih
    · exact hd.call
    · exact h.setUp hd
    · exact h.printing hd
    · cases token.word?.bind Move.ofWord? with
      | none => exact h.fail _ _
      | some m => exact h.moves hd _ m

/-- **A block**, with dealings that are alike. -/
theorem dealt : R d.block d'.block := by
  -- the bound on nested instructions is taken where the block begins
  have hblock : R (Run.here >>= fun ls => Execution.block (d.instruction (ls.size + 1)))
      (Run.here >>= fun ls => Execution.block (d'.instruction (ls.size + 1))) :=
    h.bind h.here fun ls => h.block (h.instruction hd _)
  exact hblock

end Dealt

/-! ### Procedures -/

section Procedures

variable (hdeclare : ∀ name body,
  R (modify fun m => { m with procedures := m.procedures.insert name body })
    (modify fun m => { m with procedures := m.procedures.insert name body }))

include hdeclare

theorem declareNext : R (Program.declareNext : Run σ τ Unit) Program.declareNext := by
  refine h.bind (h.discard (h.read terminates_take)) fun _ => ?_
  refine h.bind (h.read terminates_name) fun name => ?_
  refine h.bind h.here fun body => h.bind (h.read (terminates_nextIs _)) fun opens => ?_
  have hend := h.bind (h.read terminates_pastBlock) fun _ => hdeclare name body
  cases opens with
  | true => exact hend
  | false => exact h.bind (h.read terminates_peek) fun found => h.bind (h.fail _ _) fun _ => hend

theorem declareUpTo (bound : Nat) :
    R (Program.declareUpTo bound : Run σ τ Unit) (Program.declareUpTo bound) := by
  induction bound with
  | zero => exact h.giveUp
  | succ bound ih =>
    refine h.bind (h.read (terminates_nextIs _)) fun found => ?_
    cases found with
    | true => exact h.bind (h.declareNext hdeclare) fun _ => ih
    | false => exact h.pure ()

/-- **All procedures are declared.** -/
theorem declareAll : R (Program.declareAll : Run σ τ Unit) Program.declareAll := by
  refine h.bind h.here fun start => h.bind (h.declareUpTo hdeclare _) fun _ => ?_
  refine h.bind h.here fun behind => h.bind (h.read terminates_peek) fun next => ?_
  cases next with
  | none => exact h.fail _ _
  | some token => exact h.pure ()

end Procedures

end Run.Compatible

/-! ### Two contexts -/

namespace Run.Congruence

open Execution Reading

variable {σ τ σ' τ' : Type} {env : Context σ τ} {env' : Context σ' τ'}
variable {R : ∀ {α : Type}, Run σ τ α → Run σ' τ' α → Prop} (h : Congruence env env' R)

include h

/-- **A block**, once it is known of calls. -/
theorem blockCalling {callee : Run σ τ Unit} {callee' : Run σ' τ' Unit}
    (hcall : ∀ place name, R (callNamed env callee place name)
      (callNamed env' callee' place name)) :
    R (Execution.blockCalling env callee) (Execution.blockCalling env' callee') := by
  rw [← Dealings.block_of, ← Dealings.block_of]
  refine h.dealt ⟨h.obey, h.answer, h.print, ?_, h.passes⟩
  have hnamed := h.bind h.here fun start => h.bind (h.read terminates_name) fun name =>
    hcall start.place name
  rw [← call_eq, ← call_eq] at hnamed
  exact hnamed

/-- **All procedures are declared.** -/
theorem declareAll : R (Program.declareAll : Run σ τ Unit) Program.declareAll :=
  h.toCompatible.declareAll h.declare

/-- **A whole run**, once it is known of the block of `main`. -/
theorem run (hmain : R (blockHere env env.maxDepth) (blockHere env' env'.maxDepth)) :
    R (Program.run env) (Program.run env') :=
  h.bind h.declareAll fun _ => h.bind (h.read (terminates_expect _)) fun _ => h.bind hmain fun _ =>
    h.bind h.here fun _ => h.obey _ _

end Run.Congruence

end GridScript
