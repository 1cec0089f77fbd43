import GridScript.Proofs.Script.Meaning
import GridScript.Proofs.Tandem
import GridScript.Proofs.Token.Listing

/-!
# The layout of a script does not matter

A script may be laid out in many ways: with other gaps and comments between its tokens, and with
other spellings of a quoted text. Execution goes back and forth in the bytes all the time, but every
place that it goes to is one where it has stood, and so the beginning of what is left of the tokens.
Two layouts of the same tokens are left with the same tokens all the time. Only the places that
messages are about are different.

* `Lexemes.Alike`, `Failure.Alike`, `Machine.Alike` — two layouts, what is said of them, and the
  states of their runs.
* `Reading.alike_take` and the others — readings, up to `Reading.alike_pastBody`.
* `Run.alike_read` and the others — what runs are made of.
* `Execution.alike_instruction`, `Execution.alike_blockHere` — by recursion on how deeply
  instructions and calls are nested.
* `Program.alike_run`, `Program.run_of_sameTokens` — whole runs, of scripts and of what is none.
-/

namespace GridScript

/-! ### Two layouts -/

/-- **The same tokens from different places**, with no misspelling among them. -/
inductive Lexemes.Alike : Lexemes → Lexemes → Prop
  | finish (p p' : Position) : Alike (.finish p) (.finish p')
  | token (p p' : Position) (t : Token) {rest rest' : Lexemes} (h : Alike rest rest') :
    Alike (.token p t rest) (.token p' t rest')

theorem Lexemes.Alike.size_eq {ls ls' : Lexemes} (h : ls.Alike ls') : ls.size = ls'.size := by
  induction h with
  | finish p p' => rfl
  | token p p' t _ ih => rw [size, size, ih]

/-- **Equal lists of tokens are alike.** -/
theorem Lexemes.alike_of_listing {ls ls' : Lexemes} (h : ls.listing.2 = none)
    (h' : ls'.listing.2 = none)
    (htokens : ls.listing.1.map Prod.fst = ls'.listing.1.map Prod.fst) : ls.Alike ls' := by
  -- the induction is on the first source; neither of them has a word that is misspelt
  induction ls generalizing ls' with
  | finish p =>
    cases ls' with
    | finish p' => exact .finish p p'
    | token p' t' rest' => cases htokens
    | misspelt p' e' rest' => cases h'
  | token p t rest ih =>
    cases ls' with
    | finish p' => cases htokens
    | token p' t' rest' =>
      simp only [listing, List.map_cons, List.cons.injEq] at htokens
      obtain ⟨rfl, htokens⟩ := htokens
      exact .token p p' t (ih h h' htokens)
    | misspelt p' e' rest' => cases h'
  | misspelt p e rest => cases h

/-- **Failures that say the same**, of places that may be different. The only one about the spelling
is that the script ends early. -/
inductive Failure.Alike : Failure → Failure → Prop
  | endsEarly (p p' : Position) : Alike (.spelling .endsEarly p) (.spelling .endsEarly p')
  | grammar (e : GrammarError) (p p' : Position) : Alike (.grammar e p) (.grammar e p')
  | refused (reason : Diagnostic) (p p' : Position) : Alike (.refused reason p) (.refused reason p')
  | unwritten (reason : String) : Alike (.unwritten reason) (.unwritten reason)

theorem Failure.Alike.fault_eq {f f' : Failure} (h : f.Alike f') : f.fault = f'.fault := by
  cases h <;> rfl

/-- Runs that end early in the same way. -/
inductive Halt.Alike : Halt Failure → Halt Failure → Prop
  | failed {f f' : Failure} (h : f.Alike f') : Alike (.failed f) (.failed f')
  | aborted (a : Abort) : Alike (.aborted a) (.aborted a)
  | unfinished : Alike .unfinished .unfinished

theorem Halt.Alike.grammar (e : GrammarError) (p p' : Position) :
    Halt.Alike (.failed (.grammar e p)) (.failed (.grammar e p')) :=
  .failed (.grammar e p p')

/-! ### Readings -/

namespace Reading

variable {α : Type}

/-- **Readings in step**: what is left to be read is alike again, whether they succeed or fail. -/
abbrev Alike (A : α → α → Prop) (r r' : Reading α) : Prop :=
  InStep Halt.Alike Lexemes.Alike A r r'

/-- Places are alike, wherever they are. -/
theorem alike_place : Alike (fun _ _ => True) place place :=
  fun _ _ h => .ok trivial h

theorem alike_fail {A : α → α → Prop} (e : GrammarError) (p p' : Position) :
    Alike A (fail e p) (fail e p') :=
  inStep_throw (.grammar e p p')

theorem alike_peek : Alike Eq peek peek := by
  intro ls ls' h
  cases h with
  | finish p p' => exact .ok rfl (.finish p p')
  | token p p' t h => exact .ok rfl (.token p p' t h)

theorem alike_take : Alike Eq take take := by
  intro ls ls' h
  cases h with
  | finish p p' => exact .error (.failed (.endsEarly _ _)) (.finish _ _)
  | token p p' t h => exact .ok rfl h

/-- **A token is taken and judged**, and what is wrong with it is said of the place before it. -/
theorem alike_judge {judge : Position → Token → Reading α}
    (h : ∀ p p' t, Alike Eq (judge p t) (judge p' t)) :
    Alike Eq (do let place ← place; let t ← take; judge place t)
      (do let place ← place; let t ← take; judge place t) :=
  alike_place.bind fun p p' _ => alike_take.bind_eq fun t => h p p' t

theorem alike_expect (spelling : String) : Alike Eq (expect spelling) (expect spelling) :=
  alike_judge fun _ _ _ => (inStep_pure rfl).ite (alike_fail _ _ _)

theorem alike_nextIs (spelling : String) : Alike Eq (nextIs spelling) (nextIs spelling) :=
  alike_peek.bind_eq fun _ => inStep_pure rfl

theorem alike_name : Alike Eq name name := by
  refine alike_judge fun p p' t => ?_
  cases t with
  | word w => exact (inStep_pure rfl).ite (alike_fail _ _ _)
  | _ => exact alike_fail _ _ _

theorem alike_integer : Alike Eq integer integer := by
  refine alike_judge fun p p' t => ?_
  split
  · exact alike_fail _ _ _
  · exact (inStep_pure rfl).ite (alike_fail _ _ _)

theorem alike_text : Alike Eq text text := by
  refine alike_judge fun p p' t => ?_
  cases t with
  | quoted s => exact inStep_pure rfl
  | _ => exact alike_fail _ _ _

theorem alike_gridName : Alike Eq gridName gridName := by
  refine alike_judge fun p p' t => ?_
  cases t with
  | quoted s => exact inStep_pure rfl
  | word s => exact inStep_pure rfl
  | _ => exact alike_fail _ _ _

theorem alike_test : Alike Eq test test := by
  refine alike_peek.bind_eq fun next => ?_
  refine InStep.ite (alike_take.discard.bind_eq fun _ => ?_) ?_
  -- behind a negation the condition is read as it is without one
  all_goals
    refine alike_judge fun p p' t => ?_
    cases t.word?.bind Condition.ofWord? with
    | none => exact alike_fail _ _ _
    | some condition => exact inStep_pure rfl

/-! Code that does not run. -/

/-- By recursion on the tokens. -/
theorem alike_pastClosingBrace (inner : Nat) :
    Alike Eq (pastClosingBrace inner) (pastClosingBrace inner) := by
  intro ls ls' h
  -- the induction is on both sources at once; the places of their tokens differ, and nothing else
  induction h generalizing inner with
  | finish p p' =>
    rw [pastClosingBrace, pastClosingBrace]
    exact .error (.failed (.endsEarly _ _)) (.finish _ _)
  | token p p' t h ih =>
    rw [pastClosingBrace_token, pastClosingBrace_token]
    split
    · exact ih (inner + 1)
    · split
      · cases inner with
        | zero => exact .ok rfl h
        | succ inner => exact ih inner
      · exact ih inner

theorem alike_pastSemicolon : Alike Eq pastSemicolon pastSemicolon := by
  intro ls ls' h
  induction h with
  | finish p p' => exact .error (.failed (.endsEarly _ _)) (.finish _ _)
  | token p p' t h ih =>
    rw [pastSemicolon, pastSemicolon]
    split
    · exact .ok rfl h
    · split
      · exact .error (.grammar _ _ _) h
      · exact ih

theorem alike_pastBlock : Alike Eq pastBlock pastBlock :=
  (alike_expect _).bind_eq fun _ => alike_pastClosingBrace 0

theorem alike_pastBodyWith {past past' : Reading Unit} (h : Alike Eq past past') :
    Alike Eq (pastBodyWith past) (pastBodyWith past') :=
  (alike_nextIs _).bind_eq fun _ => alike_pastBlock.ite h

theorem alike_pastInstruction (nesting : Nat) :
    Alike Eq (pastInstruction nesting) (pastInstruction nesting) := by
  -- the induction is on the depth of nesting, and both sources nest alike
  induction nesting with
  | zero => exact inStep_throw .unfinished
  | succ nesting ih =>
    have hbody := alike_pastBodyWith ih
    refine alike_peek.bind_eq fun next => ?_
    dsimp only
    -- the head decides what is skipped, and it is the same token on both sides
    split
    · refine alike_take.discard.bind_eq fun _ => ?_
      refine alike_test.discard.bind_eq fun _ => ?_
      refine hbody.bind_eq fun _ => ?_
      refine (alike_nextIs _).bind_eq fun _ => ?_
      exact (alike_take.discard.bind_eq fun _ => hbody).ite (inStep_pure rfl)
    · refine alike_take.discard.bind_eq fun _ => ?_
      exact alike_test.discard.bind_eq fun _ => hbody
    · refine alike_take.discard.bind_eq fun _ => ?_
      exact alike_integer.discard.bind_eq fun _ => hbody
    · exact alike_pastSemicolon

/-- **A body is skipped in step**, with the same bound, since there are as many tokens left. -/
theorem alike_pastBody : Alike Eq pastBody pastBody := by
  intro ls ls' h
  rw [pastBody, pastBody, h.size_eq]
  exact alike_pastBodyWith (alike_pastInstruction _) ls ls' h

end Reading

/-! ### Runs -/

/-- **The same state in two layouts.** What is declared begins with the same tokens in both. -/
structure Machine.Alike {σ τ : Type} (m m' : Machine σ τ) : Prop where
  lexemes : m.lexemes.Alike m'.lexemes
  procedures : ∀ name, Option.Rel Lexemes.Alike (m.procedures.get? name) (m'.procedures.get? name)
  depth : m.depth = m'.depth
  agent : m.agent = m'.agent
  output : m.output = m'.output

namespace Run

variable {σ τ α β : Type} {A : α → α → Prop}

/-- **Runs in step**: they leave the same agent and the same output behind, and what is left to be
read is alike again. -/
abbrev Alike (A : α → α → Prop) (run run' : Run σ τ α) : Prop :=
  InStep Halt.Alike Machine.Alike A run run'

theorem alike_read {r r' : Reading α} (h : Reading.Alike A r r') :
    Alike (σ := σ) (τ := τ) A (.read r) (.read r') := by
  intro m m' hm
  have hread := h _ _ hm.lexemes
  rw [read, read]
  generalize r m.lexemes = x, r' m'.lexemes = x' at hread ⊢
  cases hread with
  | ok ha hls => exact .ok ha { hm with lexemes := hls }
  | error he hls => exact .error he { hm with lexemes := hls }

theorem alike_here : Alike (σ := σ) (τ := τ) Lexemes.Alike here here :=
  fun _ _ hm => .ok hm.lexemes hm

theorem alike_goTo {ls ls' : Lexemes} (h : ls.Alike ls') :
    Alike (σ := σ) (τ := τ) Eq (goTo ls) (goTo ls') :=
  fun _ _ hm => .ok rfl { hm with lexemes := h }

theorem alike_fail (e : GrammarError) (p p' : Position) :
    Alike (σ := σ) (τ := τ) A (fail e p) (fail e p') :=
  inStep_throw (.grammar e p p')

/-- **The agent hears the same**, of whatever place. -/
theorem alike_ask (p p' : Position) (request : EStateM (Trouble Diagnostic) σ α) :
    Alike (τ := τ) Eq (ask p request) (ask p' request) := by
  intro m m' hm
  rw [ask, ask, ← hm.agent]
  cases request m.agent with
  | ok a s => exact .ok rfl { hm with agent := rfl }
  | error e s =>
    refine .error ?_ { hm with agent := rfl }
    cases e with
    | failed reason => exact .failed (.refused reason p p')
    | aborted a => exact .aborted a

theorem alike_print (sink : Sink τ) (line : String) :
    Alike (σ := σ) Eq (print sink line) (print sink line) := by
  intro m m' hm
  rw [print, print, ← hm.output]
  cases sink.print line m.output with
  | ok u t => exact .ok rfl { hm with output := rfl }
  | error reason t => exact .error (.failed (.unwritten reason)) { hm with output := rfl }

theorem alike_deeper {run run' : Run σ τ α} (h : Alike A run run') :
    Alike A (deeper run) (deeper run') := by
  intro m m' hm
  have hbody := h { m with depth := m.depth + 1 } { m' with depth := m'.depth + 1 }
    { hm with depth := congrArg (· + 1) hm.depth }
  rw [deeper, deeper]
  generalize run { m with depth := m.depth + 1 } = x, run' { m' with depth := m'.depth + 1 } = x'
    at hbody ⊢
  cases hbody with
  | ok ha hw => exact .ok ha { hw with depth := congrArg (· - 1) hw.depth }
  | error he hw => exact .error he { hw with depth := congrArg (· - 1) hw.depth }

theorem alike_times {run run' : Run σ τ Unit} (h : Alike Eq run run') (count : Nat) :
    Alike Eq (times run count) (times run' count) := by
  induction count with
  | zero => exact inStep_pure rfl
  | succ count ih =>
    rw [times_succ, times_succ]
    exact h.bind_eq fun _ => ih

theorem alike_loop {pass pass' : Run σ τ Bool} (h : Alike Eq pass pass') (passes : Nat) :
    Alike Eq (loop pass passes) (loop pass' passes) := by
  induction passes with
  | zero => exact inStep_throw .unfinished
  | succ passes ih =>
    rw [loop_succ, loop_succ]
    exact h.bind_eq fun again => ih.ite (inStep_pure rfl)

end Run

/-! ### Instructions -/

namespace Execution

open Run

variable {σ τ : Type} (env : Context σ τ)

theorem alike_tell (p p' : Position) (c : Command) : Alike Eq (tell env p c) (tell env p' c) :=
  alike_ask p p' _

theorem alike_test : Alike Eq (test env) (test env) := by
  refine alike_here.bind fun start start' _ => ?_
  refine (alike_read Reading.alike_test).bind_eq fun t => ?_
  exact (alike_ask _ _ _).bind_eq fun value => inStep_pure rfl

theorem alike_movesUpTo (bound : Nat) :
    Alike Eq (movesUpTo env bound) (movesUpTo env bound) := by
  induction bound with
  | zero => exact inStep_throw .unfinished
  | succ bound ih =>
    refine alike_here.bind fun start start' _ => ?_
    refine (alike_read Reading.alike_take).bind_eq fun token => ?_
    refine InStep.ite (inStep_pure rfl) ?_
    cases token.word?.bind Move.ofWord? with
    | none => exact alike_fail _ _ _
    | some m => exact (alike_tell env _ _ _).bind_eq fun _ => ih

theorem alike_moves (p p' : Position) (first : Move) :
    Alike Eq (moves env p first) (moves env p' first) := by
  refine (alike_tell env _ _ _).bind_eq fun _ => ?_
  refine alike_here.bind fun rest rest' h => ?_
  rw [h.size_eq]
  exact alike_movesUpTo env _

theorem alike_setUp : Alike Eq (setUp env) (setUp env) := by
  refine alike_here.bind fun start start' _ => ?_
  refine (alike_read Reading.alike_take).bind_eq fun target => ?_
  have hend : Alike (σ := σ) (τ := τ) Eq (.read (.expect ";")) (.read (.expect ";")) :=
    alike_read (Reading.alike_expect ";")
  split
  · refine (alike_read Reading.alike_gridName).bind_eq fun name => ?_
    exact (alike_tell env _ _ _).bind_eq fun _ => hend
  · refine (alike_read Reading.alike_integer).bind_eq fun count => ?_
    exact (alike_tell env _ _ _).bind_eq fun _ => hend
  · exact (alike_fail _ _ _).bind_eq fun _ => hend

theorem alike_print : Alike Eq (print env) (print env) := by
  refine (alike_read Reading.alike_text).bind_eq fun text => ?_
  refine (alike_read (Reading.alike_expect ";")).bind_eq fun _ => ?_
  exact Run.alike_print env.sink text

/-! What instructions are made into, from what the instructions are. -/

section Bodies

variable {instruction instruction' : Run σ τ Unit}

theorem alike_instructionsUpTo (h : Alike Eq instruction instruction') (bound : Nat) :
    Alike Eq (instructionsUpTo instruction bound) (instructionsUpTo instruction' bound) := by
  induction bound with
  | zero => exact inStep_throw .unfinished
  | succ bound ih =>
    rw [instructionsUpTo_succ, instructionsUpTo_succ]
    refine (alike_read (Reading.alike_nextIs _)).bind_eq fun closed => ?_
    exact (alike_read (Reading.alike_expect _)).ite (h.bind_eq fun _ => ih)

theorem alike_block (h : Alike Eq instruction instruction') :
    Alike Eq (block instruction) (block instruction') := by
  refine (alike_read (Reading.alike_expect _)).bind_eq fun _ => ?_
  refine alike_here.bind fun rest rest' hrest => ?_
  rw [hrest.size_eq]
  exact alike_instructionsUpTo h _

theorem alike_body (h : Alike Eq instruction instruction') :
    Alike Eq (body instruction) (body instruction') :=
  (alike_read (Reading.alike_nextIs _)).bind_eq fun _ => (alike_block h).ite h

theorem alike_choose (h : Alike Eq instruction instruction') :
    Alike Eq (choose env instruction) (choose env instruction') := by
  refine (alike_test env).bind_eq fun holds => ?_
  have hpast := alike_read (σ := σ) (τ := τ) Reading.alike_pastBody
  refine InStep.ite ((alike_body h).bind_eq fun _ => ?_) (hpast.bind_eq fun _ => ?_)
  -- whether there is an `else` does not depend on the test
  all_goals
    refine (alike_read (Reading.alike_nextIs _)).bind_eq fun found => ?_
    refine InStep.ite ?_ (inStep_pure rfl)
    exact (alike_read Reading.alike_take).discard.bind_eq fun _ => hpast.ite (alike_body h)

/-- **A loop goes back** to the places of its test, which are alike. -/
theorem alike_repeatWhile (h : Alike Eq instruction instruction') :
    Alike Eq (repeatWhile env instruction) (repeatWhile env instruction') := by
  refine alike_here.bind fun start start' hstart => ?_
  refine alike_loop ?_ env.passes
  refine (alike_goTo hstart).bind_eq fun _ => ?_
  refine (alike_test env).bind_eq fun holds => ?_
  exact ((alike_body h).bind_eq fun _ => inStep_pure rfl).ite
    ((alike_read Reading.alike_pastBody).bind_eq fun _ => inStep_pure rfl)

theorem alike_repeatTimes (h : Alike Eq instruction instruction') :
    Alike Eq (repeatTimes instruction) (repeatTimes instruction') := by
  refine (alike_read Reading.alike_integer).bind_eq fun count => ?_
  refine alike_here.bind fun start start' hstart => ?_
  refine (alike_read Reading.alike_pastBody).ite ?_
  exact alike_times ((alike_goTo hstart).bind_eq fun _ => alike_body h) _

/-- **A call goes to a procedure and comes back**, to places that are alike. -/
theorem alike_call {callee callee' : Run σ τ Unit} (h : Alike Eq callee callee') :
    Alike Eq (call env callee) (call env callee') := by
  refine alike_here.bind fun start start' _ => ?_
  refine (alike_read Reading.alike_name).bind_eq fun name => ?_
  intro m m' hm
  rw [bind_of_ok (get_apply m), bind_of_ok (get_apply m')]
  -- the same name is declared on both sides or on none, and the bodies are alike
  have hprocedure := hm.procedures name
  generalize m.procedures.get? name = found, m'.procedures.get? name = found' at hprocedure ⊢
  cases hprocedure with
  | none => exact alike_fail _ _ _ m m' hm
  | some hbody =>
    dsimp only
    rw [← hm.depth]
    -- the calls are as deep on both sides
    split
    · exact alike_fail _ _ _ m m' hm
    · refine (alike_here.bind fun back back' hback => ?_) m m' hm
      refine InStep.bind_eq (alike_deeper ((alike_goTo hbody).bind_eq fun _ => h)) fun _ => ?_
      exact (alike_goTo hback).bind_eq fun _ => alike_read (Reading.alike_expect ";")

end Bodies

/-- **Every instruction**, by recursion on how deeply instructions are nested. -/
theorem alike_instruction {callee callee' : Run σ τ Unit} (h : Alike Eq callee callee')
    (nesting : Nat) :
    Alike Eq (instruction env callee nesting) (instruction env callee' nesting) := by
  induction nesting with
  | zero => exact inStep_throw .unfinished
  | succ nesting ih =>
    refine alike_here.bind fun start start' _ => ?_
    refine (alike_read Reading.alike_take).bind_eq fun token => ?_
    -- the same token begins the same kind of instruction
    split
    · exact alike_choose env ih
    · exact alike_repeatWhile env ih
    · exact alike_repeatTimes ih
    · exact alike_call env h
    · exact alike_setUp env
    · exact alike_print env
    · cases token.word?.bind Move.ofWord? with
      | none => exact alike_fail _ _ _
      | some m => exact alike_moves env _ _ m

theorem alike_blockCalling {callee callee' : Run σ τ Unit} (h : Alike Eq callee callee') :
    Alike Eq (blockCalling env callee) (blockCalling env callee') := by
  intro m m' hm
  rw [blockCalling, blockCalling, hm.lexemes.size_eq]
  exact alike_block (alike_instruction env h _) m m' hm

/-- **A block in which procedures are called**, by recursion on how deeply calls are nested. -/
theorem alike_blockHere (levels : Nat) :
    Alike Eq (blockHere env levels) (blockHere env levels) := by
  induction levels with
  | zero => exact alike_blockCalling env (inStep_throw .unfinished)
  | succ levels ih => exact alike_blockCalling env ih

end Execution

/-! ### Whole runs -/

namespace Program

open Run

variable {σ τ : Type}

/-- **A procedure is declared** in both layouts, with what is alike. -/
theorem alike_declare (name : String) {body body' : Lexemes} (h : body.Alike body') :
    Alike (σ := σ) (τ := τ) Eq
      (modify fun m => { m with procedures := m.procedures.insert name body })
      (modify fun m => { m with procedures := m.procedures.insert name body' }) := by
  intro m m' hm
  refine .ok rfl { hm with procedures := fun other => ?_ }
  rw [Procedures.get?_insert, Procedures.get?_insert]
  -- all other names are as before
  by_cases hother : other = name
  · rw [if_pos hother, if_pos hother]
    exact .some h
  · rw [if_neg hother, if_neg hother]
    exact hm.procedures other

theorem alike_declareNext : Alike (σ := σ) (τ := τ) Eq declareNext declareNext := by
  refine (alike_read Reading.alike_take).discard.bind_eq fun _ => ?_
  refine (alike_read Reading.alike_name).bind_eq fun name => ?_
  refine alike_here.bind fun body body' hbody => ?_
  refine (alike_read (Reading.alike_nextIs _)).bind_eq fun opens => ?_
  -- where the bodies begin is noted, and these places are alike
  have hend : Alike (σ := σ) (τ := τ) Eq
      (do
        .read .pastBlock
        modify fun m => { m with procedures := m.procedures.insert name body })
      (do
        .read .pastBlock
        modify fun m => { m with procedures := m.procedures.insert name body' }) :=
    (alike_read Reading.alike_pastBlock).bind_eq fun _ => alike_declare name hbody
  refine InStep.ite hend ?_
  refine (alike_read Reading.alike_peek).bind_eq fun found => ?_
  exact (alike_fail _ _ _).bind_eq fun _ => hend

theorem alike_declareUpTo (bound : Nat) :
    Alike (σ := σ) (τ := τ) Eq (declareUpTo bound) (declareUpTo bound) := by
  induction bound with
  | zero => exact inStep_throw .unfinished
  | succ bound ih =>
    refine (alike_read (Reading.alike_nextIs _)).bind_eq fun found => ?_
    exact (alike_declareNext.bind_eq fun _ => ih).ite (inStep_pure rfl)

theorem alike_declareAll : Alike (σ := σ) (τ := τ) Eq declareAll declareAll := by
  refine alike_here.bind fun start start' hstart => ?_
  rw [hstart.size_eq]
  refine (alike_declareUpTo _).bind_eq fun _ => ?_
  refine alike_here.bind fun behind behind' _ => ?_
  refine (alike_read Reading.alike_peek).bind_eq fun next => ?_
  exact (alike_fail _ _ _).ite (inStep_pure rfl)

/-- **Runs of two layouts are in step.** -/
theorem alike_run (env : Context σ τ) : Alike Eq (run env) (run env) := by
  refine alike_declareAll.bind_eq fun _ => ?_
  refine (alike_read (Reading.alike_expect _)).bind_eq fun _ => ?_
  refine (Execution.alike_blockHere env _).bind_eq fun _ => ?_
  refine alike_here.bind fun behind behind' _ => ?_
  exact Execution.alike_tell env _ _ _

end Program

/-- Two layouts of one script are in the same state at the start. -/
theorem Machine.alike_ofSource {σ τ : Type} {src src' : Source}
    (h : src.lexemes.Alike src'.lexemes) (agent : σ) (output : τ) :
    (Machine.ofSource src agent output).Alike (.ofSource src' agent output) :=
  ⟨h, fun _ => .none, rfl, rfl, rfl⟩

/-- What is seen of two results that match is the same. -/
theorem Run.seen_eq_of_matching {σ τ α : Type}
    {r r' : EStateM.Result (Halt Failure) (Machine σ τ) α}
    (h : Matching Halt.Alike Machine.Alike Eq r r') (src src' : Source) :
    Run.seen src r = Run.seen src' r' := by
  -- what is seen of a result leaves out the places, which are all that differs
  cases h with
  | ok ha hm =>
    obtain rfl := ha
    rw [Run.seen, Run.seen, Machine.scene, Machine.scene, hm.agent, hm.output]
  | error he hm =>
    rw [Run.seen, Run.seen, Machine.scene, Machine.scene, hm.agent, hm.output]
    cases he with
    | failed h =>
      rw [Halt.map, Halt.map, Failure.ofDiagnostic_diagnostic, Failure.ofDiagnostic_diagnostic,
        h.fault_eq]
    | aborted a => rfl
    | unfinished => rfl

namespace Source

/-- **Two layouts of the same tokens**: taking one token after another gives the same tokens, and no
message. -/
structure SameTokens (src src' : Source) : Prop where
  clean : src.takeAll.2 = none
  clean' : src'.takeAll.2 = none
  tokens : src.takeAll.1.map Prod.fst = src'.takeAll.1.map Prod.fst

variable {src src' : Source}

theorem SameTokens.symm (h : src.SameTokens src') : src'.SameTokens src :=
  ⟨h.clean', h.clean, h.tokens.symm⟩

theorem SameTokens.alike (h : src.SameTokens src') : src.lexemes.Alike src'.lexemes := by
  obtain ⟨hclean, hclean', htokens⟩ := h
  rw [takeAll_eq_listing] at hclean hclean'
  rw [takeAll_eq_listing, takeAll_eq_listing] at htokens
  exact Lexemes.alike_of_listing (Option.map_eq_none_iff.1 hclean)
    (Option.map_eq_none_iff.1 hclean') htokens

end Source

namespace Program

variable {src src' : Source} {σ τ : Type}

/-- A run of a script that is spelled right may come to its end too early, but it has no other fault
in its spelling. -/
theorem endsEarly_of_spelling (h : src.SameTokens src') (env : Context σ τ) (agent : σ) (output : τ)
    {e : SpellingError} {place : Position} {m : Machine σ τ}
    (hrun : run env (.ofSource src agent output) = .error (.failed (.spelling e place)) m) :
    e = .endsEarly := by
  have hmatch := alike_run env _ _ (Machine.alike_ofSource h.alike agent output)
  rw [hrun] at hmatch
  generalize run env (.ofSource src' agent output) = r at hmatch
  cases hmatch with
  | error he hm =>
    -- the other source fails alike, and the only misspelling that has its like is the end
    cases he with
    | failed hf =>
      cases hf with
      | endsEarly p p' => rfl

/-- **A run depends on the tokens only.** However two scripts are laid out, grammatical or not, if
they have the same tokens, then for every agent, sink and limits their runs ask the same of the
agent and print the same, in the same order, and end in the same way, with the same number and text
of the message if they fail, and given up after the same number of passes if they do not end. A
message about the spelling is never one about a quoted text, an escape or a comment. -/
theorem run_of_sameTokens (h : src.SameTokens src') (env : Context σ τ) (agent : σ) (output : τ) :
    Run.seen src (run env (.ofSource src agent output)) =
        Run.seen src' (run env (.ofSource src' agent output)) ∧
      ∀ s ∈ [src, src'], ∀ e place m,
        run env (.ofSource s agent output) = .error (.failed (.spelling e place)) m →
          e.code ∉ [⟨100⟩, ⟨101⟩, ⟨103⟩] := by
  have hmatch := alike_run env _ _ (Machine.alike_ofSource h.alike agent output)
  refine ⟨Run.seen_eq_of_matching hmatch src src', fun s hs e place m hrun => ?_⟩
  -- both sources have the tokens of the other, so the case is the same twice
  have hends : e = .endsEarly := by
    simp only [List.mem_cons, List.not_mem_nil, or_false] at hs
    rcases hs with rfl | rfl
    · exact endsEarly_of_spelling h env agent output hrun
    · exact endsEarly_of_spelling h.symm env agent output hrun
  rw [hends]
  decide

end Program

/-- A script with a tab in a text, and with an instruction that there is not. -/
def Source.dance : Source where
  name := "dance.gs"
  bytes := Utf8.encode
    "main \x7b
      step; // and now
      print \"left\tright\"; dance;
    \x7d"

/-- The same tokens, with as little as can be between them. The tab is written as an escape. -/
def Source.tightDance : Source where
  name := "tight.gs"
  bytes := Utf8.encode "main\x7bstep;print \"left" ++ [0x5C, 0x74] ++
    Utf8.encode "right\";dance;\x7d"

/-- In both layouts a step is made and a line is printed before the mistake shows. -/
theorem Program.run_tightDance :
    Source.dance.SameTokens .tightDance ∧
      (match Run.seen .tightDance (Program.run Execution.recorderContext
          (Machine.ofSource .tightDance ⟨[], false, [], none, none, 0, []⟩ (.empty none))) with
        | .error (.failed f) s => some (f.message, s.agent.log, s.output.written)
        | _ => none) =
      some ("'dance' is not a recognized instruction", ["step"], Utf8.encode "left\tright\n") := by
  have h : Source.dance.SameTokens .tightDance := ⟨by cbv, by cbv, by cbv⟩
  refine ⟨h, ?_⟩
  rw [← (Program.run_of_sameTokens h _ _ _).1]
  decide +kernel

end GridScript
