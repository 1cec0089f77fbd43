import GridScript.Proofs.Script.Agreement
import GridScript.Proofs.Script.Enclosure

/-!
# Procedure bodies are sealed

A procedure is declared by skipping its body, which only counts braces. When it is called the body
is executed by another grammar, with jumps into other bodies and back. It is compared with a run of
the same body in front of other bytes: the two go side by side up to the brace where skipping has
ended, whatever the instructions in front of that brace are.

* `Machine.Beside`, `Run.Confined` — two runs of the same code, with one rule for each way in which
  runs are put together.
* `Execution.Confines`, `Execution.confines_instruction`, `Execution.confined_blockHere` — by
  recursion on how deeply instructions and calls are nested.
* `Lexemes.Sealed`, `Program.body_sealed` — what holds of every body in the table, however many runs
  there have been.
-/

namespace GridScript

open Lexemes

/-! ### Runs -/

/-- **Two states of the same run** in front of different ends: only what is left to be read is not
the same, and of that `P` holds. The procedures are blocks of a source. -/
structure Machine.Beside {σ τ : Type} (src : Source) (P : Lexemes → Lexemes → Prop)
    (m m' : Machine σ τ) : Prop where
  procedures : m.procedures.In src
  same : m' = { m with lexemes := m'.lexemes }
  lexemes : P m.lexemes m'.lexemes

namespace Run

variable {σ τ α β : Type} {src : Source} {q x : Position} {k b : Nat}
variable {P P' : Lexemes → Lexemes → Prop} {Q Q' : α → α → Lexemes → Lexemes → Prop}
variable {R : β → β → Lexemes → Lexemes → Prop} {run run' : Run σ τ α}

/-- **Runs of the same code**, which find out nothing of what is behind it. -/
abbrev Confined (src : Source) (q x : Position) (P : Lexemes → Lexemes → Prop)
    (run run' : Run σ τ α) (Q : α → α → Lexemes → Lexemes → Prop) : Prop :=
  Abreast (Machine.Beside src P) run run' (fun a a' => Machine.Beside src (Q a a'))
    fun e e' m m' => m' = { m with lexemes := m'.lexemes } ∧ Halt.Confined q x e e'

theorem Confined.bind_eq {T : α → Lexemes → Lexemes → Prop} {f f' : α → Run σ τ β}
    (h : Confined src q x P run run' (Agreeing T))
    (hf : ∀ a, Confined src q x (T a) (f a) (f' a) R) :
    Confined src q x P (run >>= f) (run' >>= f') R := by
  refine Abreast.bind h fun a a' m m' hm => ?_
  obtain ⟨hprocedures, hsame, rfl, hT⟩ := hm
  exact hf a m m' ⟨hprocedures, hsame, hT⟩

theorem Confined.weaken (h : Confined src q x P run run' Q) (hP : ∀ ls ls', P' ls ls' → P ls ls')
    (hQ : ∀ a a' ls ls', Q a a' ls ls' → Q' a a' ls ls') : Confined src q x P' run run' Q' :=
  Abreast.weaken h (fun _ _ hm => { hm with lexemes := hP _ _ hm.lexemes })
    fun _ _ _ _ hm => { hm with lexemes := hQ _ _ _ _ hm.lexemes }

/-- A greater bound for what is left. -/
theorem Confined.looser {opened more : Nat}
    (h : Confined src q x P run run' (Agreeing fun _ => Inside q x opened b)) (hmore : b ≤ more) :
    Confined src q x P run run' (Agreeing fun _ => Inside q x opened more) :=
  h.weaken (fun _ _ h => h) fun _ _ _ _ h => ⟨h.1, h.2.mono hmore⟩

theorem confined_pure {a a' : α} (h : ∀ ls ls', P ls ls' → Q a a' ls ls') :
    Confined src q x P (pure a : Run σ τ α) (pure a') Q :=
  abreast_pure fun _ _ hm => { hm with lexemes := h _ _ hm.lexemes }

theorem confined_throw {e e' : Halt Failure} (h : Halt.Confined q x e e') :
    Confined src q x P (throw e : Run σ τ α) (throw e') Q :=
  abreast_throw fun _ _ hm => ⟨hm.same, h⟩

theorem confined_fail {e : GrammarError} (he : e ≠ .mainExpected) {p p' : Position}
    (hp : Position.Beside q x p p') : Confined src q x P (fail e p : Run σ τ α) (fail e p') Q :=
  confined_throw ⟨Halt.spelled_grammar he p, .failed (.grammar e hp)⟩

theorem confined_read {r r' : Reading α} (h : Reading.Confined q x P r r' Q) :
    Confined src q x P (read r : Run σ τ α) (read r') Q := by
  rintro m m' ⟨hprocedures, hsame, hP⟩
  have hread := h _ _ hP
  rw [read, read]
  generalize r m.lexemes = y, r' m'.lexemes = y' at hread ⊢
  cases hread with
  | ok hQ => exact .ok ⟨hprocedures, by rw [hsame], hQ⟩
  | error he => exact .error ⟨by rw [hsame], he⟩

/-- The result of a reading need only be there. -/
theorem confined_read_discard {r r' : Reading α} {S : Unit → Unit → Lexemes → Lexemes → Prop}
    (h : Reading.Confined q x P (Functor.discard r) (Functor.discard r') S) :
    Confined src q x P (Functor.discard (read r) : Run σ τ Unit) (Functor.discard (read r')) S := by
  have hsame (r : Reading α) : (Functor.discard (read r) : Run σ τ Unit) =
      read (Functor.discard r) := by
    funext m
    rw [discard_apply, read, read, discard_apply]
    cases r m.lexemes <;> rfl
  rw [hsame, hsame]
  exact confined_read h

/-- **What looks where it stands** finds places in the same code. -/
theorem confined_here {f f' : Lexemes → Run σ τ β}
    (h : ∀ ls ls', P ls ls' → Confined src q x P (f ls) (f' ls') R) :
    Confined src q x P (here >>= f) (here >>= f') R :=
  fun m m' hm => h _ _ hm.lexemes m m' hm

theorem confined_goTo {ls ls' : Lexemes} {T : Lexemes → Lexemes → Prop} (h : T ls ls') :
    Confined src q x P (goTo ls : Run σ τ Unit) (goTo ls') (Agreeing fun _ => T) := by
  rintro m m' ⟨hprocedures, hsame, hP⟩
  exact .ok ⟨hprocedures, by rw [hsame], rfl, h⟩

/-- **The agent hears the same**, of places in the same code. -/
theorem confined_ask {p p' : Position} (hp : Position.Beside q x p p')
    (request : EStateM (Trouble Diagnostic) σ α) :
    Confined src q x P (ask p request : Run σ τ α) (ask p' request) (Agreeing fun _ => P) := by
  rintro m m' ⟨hprocedures, hsame, hP⟩
  -- the agents are the same, and so is what they answer
  have hagent : m'.agent = m.agent := by rw [hsame]
  rw [ask, ask, hagent]
  cases request m.agent with
  | ok a s => exact .ok ⟨hprocedures, by rw [hsame], rfl, hP⟩
  | error e s =>
    refine .error ⟨by rw [hsame], Halt.spelled_of_ofTrouble e p, ?_⟩
    cases e with
    | failed reason => exact .failed (.refused reason hp)
    | aborted a => exact .aborted a

theorem confined_print (sink : Sink τ) (line : String) :
    Confined src q x P (print sink line : Run σ τ Unit) (print sink line)
      (Agreeing fun _ => P) := by
  rintro m m' ⟨hprocedures, hsame, hP⟩
  -- the outputs are the same, and so is what becomes of the line
  have houtput : m'.output = m.output := by rw [hsame]
  rw [print, print, houtput]
  cases sink.print line m.output with
  | ok u t => exact .ok ⟨hprocedures, by rw [hsame], rfl, hP⟩
  | error reason t =>
    refine .error ⟨by rw [hsame], ?_, .failed (.same _)⟩
    rintro _ ⟨⟩ c hc
    cases hc

theorem confined_deeper (h : Confined src q x P run run' Q) :
    Confined src q x P (deeper run) (deeper run') Q := by
  rintro m m' ⟨hprocedures, hsame, hP⟩
  have hbody := h { m with depth := m.depth + 1 } { m' with depth := m'.depth + 1 }
    ⟨hprocedures, by rw [hsame], hP⟩
  rw [deeper, deeper]
  generalize run { m with depth := m.depth + 1 } = y, run' { m' with depth := m'.depth + 1 } = y'
    at hbody ⊢
  cases hbody with
  | ok hm => exact .ok ⟨hm.procedures, by rw [hm.same], hm.lexemes⟩
  | error he => exact .error ⟨by rw [he.1], he.2⟩

theorem confined_times {body body' : Run σ τ Unit}
    (h : Confined src q x P body body' (Agreeing fun _ => P)) (count : Nat) :
    Confined src q x P (times body count) (times body' count) (Agreeing fun _ => P) := by
  induction count with
  | zero => exact confined_pure fun _ _ hP => ⟨rfl, hP⟩
  | succ count ih =>
    rw [times_succ, times_succ]
    exact h.bind_eq fun _ => ih

theorem confined_loop {pass pass' : Run σ τ Bool}
    (h : Confined src q x P pass pass' (Agreeing fun _ => P)) (passes : Nat) :
    Confined src q x P (loop pass passes) (loop pass' passes) (Agreeing fun _ => P) := by
  induction passes with
  | zero => exact confined_throw ⟨fun _ hf => (nomatch hf), .unfinished⟩
  | succ passes ih =>
    rw [loop_succ, loop_succ]
    exact h.bind_eq fun again =>
      Abreast.ite (fun _ => ih) fun _ => confined_pure fun _ _ hP => ⟨rfl, hP⟩

end Run

/-! ### Instructions -/

/-- Behind a word as many blocks are open as before. -/
theorem Lexemes.Inside.behind_word {q x : Position} {k b : Nat} {w : String} {ls ls' : Lexemes}
    (h : Inside q x ((Token.word w).level k) b ls ls') (hw : (Token.word w).Bare) :
    Inside q x k b ls ls' :=
  hw.plain.level k ▸ h

namespace Execution

open Run

variable {σ τ : Type} {src : Source} {q x : Position} {k b : Nat} {env : Context σ τ}

theorem confined_tell {P : Lexemes → Lexemes → Prop} {p p' : Position}
    (hp : Position.Beside q x p p') (c : Command) :
    Confined src q x P (tell env p c) (tell env p' c) (Agreeing fun _ => P) :=
  confined_ask hp _

theorem confined_test : Confined src q x (Inside q x (k + 1) b) (test env) (test env)
    (Agreeing fun _ => Inside q x (k + 1) b) := by
  refine confined_here fun start start' h => ?_
  refine (confined_read Reading.confined_test).bind_eq fun t => ?_
  exact (confined_ask h.place _).bind_eq fun value => confined_pure fun _ _ h => ⟨rfl, h⟩

/-- The bounds may be different, as long as they do not show. -/
theorem confined_movesUpTo {n n' : Nat} (hn : b ≤ n) (hn' : b ≤ n') :
    Confined src q x (Inside q x (k + 1) b) (movesUpTo env n) (movesUpTo env n')
      (Agreeing fun _ => Inside q x (k + 1) b) := by
  induction n generalizing n' b with
  -- without a token ahead there is no block to be inside of
  | zero =>
    obtain rfl := Nat.le_zero.1 hn
    exact fun m m' hm => nomatch hm.lexemes
  | succ n ih =>
    cases n' with
    | zero =>
      obtain rfl := Nat.le_zero.1 hn'
      exact fun m m' hm => nomatch hm.lexemes
    | succ n' =>
      -- a semicolon ends the moves on both sides; anything but a move fails on both
      refine confined_here fun start start' h => ?_
      refine (confined_read Reading.confined_take).bind_eq fun token => ?_
      refine Abreast.ite (fun hs => ?_) fun _ => ?_
      · refine confined_pure fun ls ls' h => ⟨rfl, ?_⟩
        have hplain := Token.plain_of_isSpelled hs (by decide) (by decide)
        exact (hplain.level _ ▸ h.2).mono (Nat.sub_le _ _)
      · cases token with
        | word w =>
          cases hmove : (Token.word w).word?.bind Move.ofWord? with
          | none => exact confined_fail (by simp) h.place
          | some m =>
            refine ((confined_tell h.place _).bind_eq fun _ => ?_).weaken
              (fun _ _ h => h.2.behind_word h.1) fun _ _ _ _ h => h
            exact (ih (by omega) (by omega)).looser (Nat.sub_le _ _)
        | _ => exact confined_fail (by simp) h.place

theorem confined_moves {p p' : Position} (hp : Position.Beside q x p p') (first : Move) :
    Confined src q x (Inside q x (k + 1) b) (moves env p first) (moves env p' first)
      (Agreeing fun _ => Inside q x (k + 1) b) := by
  refine (confined_tell hp _).bind_eq fun _ m m' hm => ?_
  obtain ⟨n, hn, hsize, hsize', h⟩ := hm.lexemes.exists_left
  exact (confined_movesUpTo (Nat.le_succ_of_le hsize) (Nat.le_succ_of_le hsize')).looser hn m m'
    { hm with lexemes := h }

theorem confined_setUp : Confined src q x (Inside q x (k + 1) b) (setUp env) (setUp env)
    (Agreeing fun _ => Inside q x (k + 1) b) := by
  refine confined_here fun start start' h => ?_
  -- what is set up is told by a word, and the rest of the instruction is read alike
  refine (confined_read Reading.confined_take).bind_eq fun target => ?_
  have hend : Confined (σ := σ) (τ := τ) src q x (Inside q x (k + 1) b) (.read (.expect ";"))
      (.read (.expect ";")) (Agreeing fun _ => Inside q x (k + 1) b) :=
    confined_read Reading.confined_semicolon
  cases target with
  | word w =>
    refine Confined.weaken ?_ (fun _ _ h => (h.2.behind_word h.1).mono (Nat.sub_le _ _))
      fun _ _ _ _ h => h
    split
    · refine (confined_read Reading.confined_gridName).bind_eq fun name => ?_
      exact (confined_tell h.place _).bind_eq fun _ => hend
    · refine (confined_read Reading.confined_integer).bind_eq fun count => ?_
      exact (confined_tell h.place _).bind_eq fun _ => hend
    · exact Confined.bind_eq (confined_fail (by simp) h.place) fun _ => hend
  | _ => exact Confined.bind_eq (confined_fail (by simp) h.place) fun _ => hend

theorem confined_print : Confined src q x (Inside q x (k + 1) b) (print env) (print env)
    (Agreeing fun _ => Inside q x (k + 1) b) := by
  refine (confined_read Reading.confined_text).bind_eq fun text => ?_
  refine (confined_read Reading.confined_semicolon).bind_eq fun _ => ?_
  exact Run.confined_print env.sink text

/-! What instructions are made into, from what the instructions are. -/

/-- **Instructions of the same code**, as long as not more than `left` tokens are left: they end in
the block in which they begin, and take a token at least. -/
def Confines (src : Source) (q x : Position) (left : Nat)
    (instruction instruction' : Run σ τ Unit) : Prop :=
  ∀ b ≤ left, ∀ k, Confined src q x (Inside q x (k + 1) b) instruction instruction'
    (Agreeing fun _ => Inside q x (k + 1) (b - 1))

section Bodies

variable {instruction instruction' : Run σ τ Unit}

/-- What stands for an instruction, with what is left in front of it as a bound. -/
theorem Confines.confined (h : Confines src q x b instruction instruction') :
    Confined src q x (Inside q x (k + 1) b) instruction instruction'
      (Agreeing fun _ => Inside q x (k + 1) b) :=
  (h b le_rfl k).looser (Nat.sub_le _ _)

/-- **Instructions up to the brace** that closes their block, which they do not miss. -/
theorem confined_instructionsUpTo (h : Confines src q x b instruction instruction') {n n' : Nat}
    (hn : b ≤ n) (hn' : b ≤ n') :
    Confined src q x (Inside q x (k + 1) b) (instructionsUpTo instruction n)
      (instructionsUpTo instruction' n') (Agreeing fun _ => Inside q x k b) := by
  induction n generalizing n' b with
  | zero =>
    -- with no token left there would be no brace either, but there is one
    obtain rfl := Nat.le_zero.1 hn
    exact fun m m' hm => nomatch hm.lexemes
  | succ n ih =>
    cases n' with
    | zero =>
      obtain rfl := Nat.le_zero.1 hn'
      exact fun m m' hm => nomatch hm.lexemes
    | succ n' =>
      rw [instructionsUpTo_succ, instructionsUpTo_succ]
      -- the brace ends the block on both sides; otherwise an instruction takes a token at least
      refine (confined_read (Reading.confined_nextIs _)).bind_eq fun closed => ?_
      refine Confined.weaken ?_ (fun _ _ h => h.1) fun _ _ _ _ h => h
      refine Abreast.ite (fun _ => confined_read Reading.confined_close) fun _ => ?_
      refine (h b le_rfl k).bind_eq fun _ => ?_
      have hrest : Confines src q x (b - 1) instruction instruction' :=
        fun c hc => h c (hc.trans (Nat.sub_le _ _))
      exact (ih hrest (by omega) (by omega)).looser (Nat.sub_le _ _)

/-- **A block** in any place where its brace can be read. -/
theorem confined_block {P : Lexemes → Lexemes → Prop}
    (hopen : Reading.Confined q x P (.expect "\x7b") (.expect "\x7b")
      (Agreeing fun _ => Inside q x (k + 1) b))
    (h : Confines src q x b instruction instruction') :
    Confined src q x P (block instruction) (block instruction')
      (Agreeing fun _ => Inside q x k b) := by
  refine (confined_read hopen).bind_eq fun _ m m' hm => ?_
  -- the bound is set anew by what is left in either place, and both have to reach to the brace
  obtain ⟨n, hn, hsize, hsize', hinside⟩ := hm.lexemes.exists_left
  have hrest : Confines src q x n instruction instruction' := fun c hc => h c (hc.trans hn)
  have hinstructions := confined_instructionsUpTo (k := k) hrest (Nat.le_succ_of_le hsize)
    (Nat.le_succ_of_le hsize')
  exact hinstructions.looser hn m m' { hm with lexemes := hinside }

theorem confined_body (h : Confines src q x b instruction instruction') :
    Confined src q x (Inside q x (k + 1) b) (body instruction) (body instruction')
      (Agreeing fun _ => Inside q x (k + 1) b) := by
  -- a body is a block, one level further in, or one instruction
  refine (confined_read (Reading.confined_nextIs _)).bind_eq fun braced => ?_
  refine Confined.weaken ?_ (fun _ _ h => h.1) fun _ _ _ _ h => h
  exact Abreast.ite (fun _ => confined_block Reading.confined_open h) fun _ => h.confined

theorem confined_choose (h : Confines src q x b instruction instruction') :
    Confined src q x (Inside q x (k + 1) b) (choose env instruction) (choose env instruction')
      (Agreeing fun _ => Inside q x (k + 1) b) := by
  have hpast : Confined (σ := σ) (τ := τ) src q x (Inside q x (k + 1) b) (.read .pastBody)
      (.read .pastBody) (Agreeing fun _ => Inside q x (k + 1) b) :=
    confined_read Reading.confined_pastBody
  have hbody := confined_body (k := k) h
  -- whether there is an `else` does not depend on the test
  have helse {second second' : Run σ τ Unit} (hsecond : Confined src q x (Inside q x (k + 1) b)
      second second' (Agreeing fun _ => Inside q x (k + 1) b)) :
      Confined src q x (Inside q x (k + 1) b)
        (do if ← .read (.nextIs "else") then discard <| .read .take; second)
        (do if ← .read (.nextIs "else") then discard <| .read .take; second')
        (Agreeing fun _ => Inside q x (k + 1) b) := by
    -- an `else` is found on both sides or on neither
    refine (confined_read (Reading.confined_nextIs _)).bind_eq fun found => ?_
    cases found with
    | false => exact confined_pure fun _ _ h => ⟨rfl, h.1⟩
    | true =>
      refine Confined.bind_eq (confined_read_discard ?_) fun _ => hsecond
      exact Reading.confined_discard_found (by decide) (by decide)
  refine confined_test.bind_eq fun holds => ?_
  cases holds with
  | true => exact hbody.bind_eq fun _ => helse hpast
  | false => exact hpast.bind_eq fun _ => helse hbody

/-- **A loop goes back** to its test, which is in the same block. -/
theorem confined_repeatWhile (h : Confines src q x b instruction instruction') :
    Confined src q x (Inside q x (k + 1) b) (repeatWhile env instruction)
      (repeatWhile env instruction') (Agreeing fun _ => Inside q x (k + 1) b) := by
  refine confined_here fun start start' hstart => confined_loop ?_ env.passes
  -- each pass goes back to the place where the loop began, which differs, and tests alike
  refine (confined_goTo hstart).bind_eq fun _ => confined_test.bind_eq fun holds => ?_
  refine Abreast.ite (fun _ => (confined_body h).bind_eq fun _ => ?_) fun _ =>
    (confined_read Reading.confined_pastBody).bind_eq fun _ => ?_
  all_goals exact confined_pure fun _ _ h => ⟨rfl, h⟩

theorem confined_repeatTimes (h : Confines src q x b instruction instruction') :
    Confined src q x (Inside q x (k + 1) b) (repeatTimes instruction) (repeatTimes instruction')
      (Agreeing fun _ => Inside q x (k + 1) b) := by
  refine (confined_read Reading.confined_integer).bind_eq fun count => ?_
  refine confined_here fun start start' hstart => ?_
  -- the body is skipped, or run from the same place in each pass
  refine Abreast.ite (fun _ => confined_read Reading.confined_pastBody) fun _ => ?_
  exact confined_times ((confined_goTo hstart).bind_eq fun _ => confined_body h) _

/-- **A call** leaves the block and comes back to it. Away from it both runs are in one state. -/
theorem confined_call {callee : Run σ τ Unit}
    (h : ∀ q x, Confined src q x (fun ls ls' => ls = ls' ∧ src.HasBlock ls) callee callee
      (Agreeing fun _ _ _ => True)) :
    Confined src q x (Inside q x (k + 1) b) (call env callee) (call env callee)
      (Agreeing fun _ => Inside q x (k + 1) b) := by
  refine confined_here fun start start' hstart => ?_
  refine (confined_read Reading.confined_name).bind_eq fun name m m' hm => ?_
  -- the name has been read alike, and the two machines differ in nothing but the place
  have hprocedures : m'.procedures = m.procedures := by rw [hm.same]
  have hdepth : m'.depth = m.depth := by rw [hm.same]
  rw [bind_of_ok (get_apply m), bind_of_ok (get_apply m'), hprocedures, hdepth]
  cases hprocedure : m.procedures.get? name with
  | none => exact confined_fail (by simp) hstart.place m m' hm
  | some procedure =>
    have hbody := hm.procedures name procedure hprocedure
    -- the calls are as many on both sides, so that both make this one or neither does
    refine Abreast.ite (fun _ => confined_fail (by simp) hstart.place) (fun _ => ?_) m m' hm
    refine confined_here fun back back' hback => ?_
    have hthere := Confined.bind_eq (confined_goTo (P := Inside q x (k + 1) b) ⟨rfl, hbody⟩)
      fun _ => h q x
    refine (confined_deeper hthere).bind_eq fun _ => ?_
    exact (confined_goTo hback).bind_eq fun _ => confined_read Reading.confined_semicolon

end Bodies

/-! ### Blocks -/

section Blocks

variable {callee : Run σ τ Unit}

/-- **Every instruction**, by recursion on how deeply instructions are nested. -/
theorem confines_instruction
    (h : ∀ q x, Confined src q x (fun ls ls' => ls = ls' ∧ src.HasBlock ls) callee callee
      (Agreeing fun _ _ _ => True)) {n n' : Nat} (hn : b ≤ n) (hn' : b ≤ n') :
    Confines src q x b (instruction env callee n) (instruction env callee n') := by
  intro c hc k
  -- the induction is on the first bound, and the other one is as good
  induction n generalizing n' b c k with
  | zero =>
    obtain rfl := Nat.le_zero.1 (hc.trans hn)
    exact fun m m' hm => nomatch hm.lexemes
  | succ n ih =>
    cases n' with
    | zero =>
      obtain rfl := Nat.le_zero.1 (hc.trans hn')
      exact fun m m' hm => nomatch hm.lexemes
    | succ n' =>
      refine confined_here fun start start' hstart => ?_
      refine (confined_read Reading.confined_take).bind_eq fun token => ?_
      -- every instruction begins with a word, and anything else is a mistake on both sides
      cases token with
      | word w =>
        have hinner : Confines src q x (c - 1) (instruction env callee n)
            (instruction env callee n') :=
          fun d hd k => ih (b := c - 1) (by omega) (by omega) d hd k
        refine Confined.weaken ?_ (fun _ _ h => h.2.behind_word h.1) fun _ _ _ _ h => h
        split
        · exact confined_choose hinner
        · exact confined_repeatWhile hinner
        · exact confined_repeatTimes hinner
        · exact confined_call h
        · exact confined_setUp
        · exact confined_print
        · cases (Token.word w).word?.bind Move.ofWord? with
          | none => exact confined_fail (by simp) hstart.place
          | some m => exact confined_moves hstart.place m
      | _ => exact confined_fail (by simp) hstart.place

theorem confined_blockCalling
    (h : ∀ q x, Confined src q x (fun ls ls' => ls = ls' ∧ src.HasBlock ls) callee callee
      (Agreeing fun _ _ _ => True)) :
    Confined src q x (AtBlock q x b) (blockCalling env callee) (blockCalling env callee)
      (Agreeing fun _ => Inside q x 0 b) := by
  intro m m' hm
  -- the bound becomes the number of tokens left, which both nestings are above
  obtain ⟨n, hn, hsize, hsize', hat⟩ := hm.lexemes.exists_left
  have hinstruction : Confines src q x n (instruction env callee _)
      (instruction env callee _) :=
    confines_instruction h (Nat.le_succ_of_le hsize) (Nat.le_succ_of_le hsize')
  exact (confined_block Reading.confined_expect_atBlock hinstruction).looser hn m m'
    { hm with lexemes := hat }

/-- **Where a block is run for itself**, it is as a callee has to be. -/
theorem confined_callee {run : Run σ τ Unit}
    (h : ∀ q x b, Confined src q x (AtBlock q x b) run run (Agreeing fun _ => Inside q x 0 b))
    (q x : Position) : Confined src q x (fun ls ls' => ls = ls' ∧ src.HasBlock ls) run run
      (Agreeing fun _ _ _ => True) := by
  rintro m m' ⟨hprocedures, hsame, hls, hblock⟩
  obtain rfl : m' = m := by rw [hsame, ← hls]
  -- away from the code the two runs are one, so each is compared with itself
  obtain ⟨code, q', hbody, -, -, hat⟩ := hblock.exists_atBlock
  have hat := hat q'
  rw [← hbody] at hat
  have hself := h q' q' _ m' m' ⟨hprocedures, rfl, hat⟩
  generalize run m' = r at hself ⊢
  cases hself with
  | ok hm => exact .ok ⟨hm.procedures, rfl, rfl, trivial⟩
  | error he => exact .error ⟨rfl, he.2.spelled, .refl q x _⟩

/-- **A block in which procedures are called**, by recursion on how deeply calls are nested. -/
theorem confined_blockHere (levels : Nat) (q x : Position) (b : Nat) :
    Confined src q x (AtBlock q x b) (blockHere env levels) (blockHere env levels)
      (Agreeing fun _ => Inside q x 0 b) := by
  induction levels generalizing q x b with
  | zero =>
    exact confined_blockCalling fun _ _ => confined_throw ⟨fun _ hf => (nomatch hf), .unfinished⟩
  | succ levels ih => exact confined_blockCalling (confined_callee ih)

/-- **What a call does** with the body of the procedure that it has found. Then it comes back and
reads its own semicolon, as `Execution.visit` has it. -/
def enter (env : Context σ τ) (levels : Nat) (body : Lexemes) : Run σ τ Unit :=
  .deeper do
    .goTo body
    blockHere env levels

/-- **A call enters the same block** in front of any end, wherever it stands itself. -/
theorem confined_enter (levels : Nat) {ls ls' : Lexemes} (h : AtBlock q x b ls ls') :
    Confined src q x (fun _ _ => True) (enter env levels ls) (enter env levels ls')
      (Agreeing fun _ => Inside q x 0 b) :=
  confined_deeper ((confined_goTo h).bind_eq fun _ => confined_blockHere levels q x b)

end Blocks

end Execution

/-! ### Procedures -/

/-- **A sealed body**, among these procedures. It begins at an offset of the source and can be
skipped from there to some place `q`. A call may enter it with any agent that answers as it likes,
with any output, and with any number of calls active: where it succeeds it has come to exactly `q`,
and where it ends early the reason is nothing in the spelling. And it does not look at what stands
behind: with any other bytes there the same is done, and it ends in the same way. -/
def Lexemes.Sealed (src : Source) (ps : Procedures Lexemes) (body : Lexemes) : Prop :=
  ∃ code q : Position, body = .ofPosition (code ++ q) ∧ code ++ q <:+ src.bytes ∧
    Reading.pastBlock body = .ok () (.ofPosition q) ∧
    ∀ {σ τ : Type} (env : Context σ τ) (levels : Nat) (m : Machine σ τ), m.procedures = ps →
      Settles (Execution.enter env levels body) m (fun _ m' => m'.lexemes = .ofPosition q)
        (fun e _ => e.Spelled) ∧
      ∀ x, Paired (fun _ _ m₁ m₂ => m₂ = { m₁ with lexemes := .ofPosition x })
        (fun e e' m₁ m₂ => Halt.Beside q x e e' ∧ m₂ = { m₁ with lexemes := m₂.lexemes })
        (Execution.enter env levels body m)
        (Execution.enter env levels (.ofPosition (code ++ x)) m)

namespace Program

variable {σ τ : Type} {src : Source} {m : Machine σ τ}

/-- **Procedure bodies are sealed.** Whatever runs there have been, every body in the table can be
skipped, and no call that enters it gets out of it but over the brace where skipping it ends. -/
theorem body_sealed (h : Reached src m) {name : String} {body : Lexemes}
    (hbody : m.procedures.get? name = some body) : body.Sealed src m.procedures := by
  have hprocedures := h.in.procedures
  obtain ⟨code, q, hstart, hoffset, hskip, hat⟩ := (hprocedures name body hbody).exists_atBlock
  refine ⟨code, q, hstart, hoffset, hskip, fun env levels w hw => ?_⟩
  have henter (x : Position) : Run.Confined src q x (fun _ _ => True)
      (Execution.enter env levels body) (Execution.enter env levels (.ofPosition (code ++ x)))
      (Agreeing fun _ => Lexemes.Inside q x 0 body.size) :=
    Execution.confined_enter levels (hat x)
  -- what stands behind the block does not matter, so `q` itself is one of the choices for it
  have hrun (x : Position) := henter x w w ⟨hw ▸ hprocedures, rfl, trivial⟩
  -- with `q` behind it the run is compared with itself: so its ends are told
  refine ⟨(hrun q).settles (fun _ _ _ _ hm => ?_) fun _ _ _ _ he => he.2.spelled, fun x => ?_⟩
  · exact hm.lexemes.2.eq_behind.1
  · -- with `x` behind it the two runs end alike, and all but the place is the same
    refine (hrun x).weaken (fun _ _ m₁ m₂ hm => ?_) fun _ _ _ _ he => ⟨he.2.beside, he.1⟩
    rw [← hm.lexemes.2.eq_behind.2]
    exact hm.same

end Program

/-- A script with a procedure whose only instruction has no end. -/
def Source.stumble : Source where
  name := "stumble.gs"
  bytes := Utf8.encode "proc walk \x7b step \x7d main \x7b call walk; \x7d"

/-- The step is made, and the brace behind it is where the run fails. -/
theorem Program.run_stumble :
    (match run Execution.recorderContext (Machine.ofSource .stumble
        ⟨[], false, [], none, none, 0, []⟩ (.empty none)) with
      | .error (.failed (.grammar e _)) m =>
        some (e, m.agent.log, (m.procedures.get? "walk").isSome)
      | _ => none) =
    some (.notMove (.mark .closeBrace), ["step"], true) := by
  decide +kernel

/-- The body that has been entered by then is sealed. -/
theorem Program.body_sealed_stumble :
    ∃ place m body, run Execution.recorderContext (Machine.ofSource .stumble
        ⟨[], false, [], none, none, 0, []⟩ (.empty none)) =
      .error (.failed (.grammar (.notMove (.mark .closeBrace)) place)) m ∧ m.agent.log = ["step"] ∧
      m.procedures.get? "walk" = some body ∧ body.Sealed .stumble m.procedures := by
  have hends := run_stumble
  split at hends
  · next e place m hrun =>
    -- the general theorem is about any machine that a run has left, and this one has failed
    simp only [Option.some.injEq, Prod.mk.injEq] at hends
    obtain ⟨rfl, hlog, hdeclared⟩ := hends
    obtain ⟨body, hbody⟩ := Option.isSome_iff_exists.1 hdeclared
    exact ⟨place, m, body, hrun, hlog, hbody, body_sealed (.failed _ (.start _ _) hrun) hbody⟩
  · cases hends

end GridScript
