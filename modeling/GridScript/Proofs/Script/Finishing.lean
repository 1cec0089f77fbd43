import GridScript.Agent.Recorder
import GridScript.Proofs.Script.Congruence
import GridScript.Proofs.Script.ReadingEnds
import GridScript.Proofs.Script.SetUps
import GridScript.Proofs.Token.Locality
import GridScript.Script.Output

/-!
# Runs without `while` come to an end

A run is given up only where a bound is used up: on the tokens that are left, on how deeply calls or
instructions are nested, or on the passes of a `while`. All but the last are bounds that no run ever
comes to. What an instruction takes is gone, so the tokens that are left bound both how many
instructions follow each other and how many are inside one another. A call and a `do` go back, but a
call uses up one level, and a `do` begins all its passes at one place.

So the measure of a run is lexicographic: first the calls that may still be made, then the tokens
that are left. A script without the word `while` has no other loop, and ends with every agent and
every output, in whatever way.

* `Lexemes.Ahead` — places of a script with less than a number of tokens left.
* `Run.Finishes` — runs that come to an end, with one rule for each way in which runs are put
  together.
* `Execution.finishes_instruction`, `Execution.finishes_blockHere` — by the tokens, and by the
  calls.
* `Program.finishes_without_while` — whole runs.
* `Source.word_notMem_tokens` — a word that is not in the bytes of a script is not one of its words.
-/

namespace GridScript

open Reading

/-- Trouble is no giving up. -/
theorem Halt.ofTrouble_ne_unfinished {ε : Type} (e : Trouble ε) : ofTrouble e ≠ .unfinished := by
  cases e with
  | failed f => exact fun h => by cases h
  | aborted a => exact fun h => by cases h

/-! ### Places with few tokens left -/

/-- **A place of a script with less than a number of tokens left.** -/
structure Lexemes.Ahead (whole : Lexemes) (c : Nat) (ls : Lexemes) : Prop where
  reaches : whole.Reaches ls
  size_lt : ls.size < c

namespace Lexemes.Ahead

variable {whole ls : Lexemes} {c : Nat}

theorem mono {c' : Nat} (h : whole.Ahead c ls) (hc : c ≤ c') : whole.Ahead c' ls :=
  ⟨h.reaches, Nat.lt_of_lt_of_le h.size_lt hc⟩

theorem of_reaches {ls' : Lexemes} (h : whole.Ahead c ls) (hreach : ls.Reaches ls') :
    whole.Ahead c ls' :=
  ⟨h.reaches.trans hreach, Nat.lt_of_le_of_lt hreach.size_le h.size_lt⟩

/-- Behind a token one less is left. -/
theorem behind {p : Position} {t : Token} {rest : Lexemes}
    (h : whole.Ahead (c + 1) (.token p t rest)) : whole.Ahead c rest :=
  ⟨h.reaches.trans (.one p t rest), Nat.lt_of_succ_lt_succ h.size_lt⟩

/-- No place has less than no tokens left. -/
theorem elim {C : Prop} (h : whole.Ahead 0 ls) : C := absurd h.size_lt (Nat.not_lt_zero _)

end Lexemes.Ahead

/-! ### Runs -/

/-- **A run in a number of calls**, whose procedures are places of the script. -/
structure Machine.AtDepth {σ τ : Type} (whole : Lexemes) (k : Nat) (m : Machine σ τ) : Prop where
  depth : m.depth = k
  procedures : ∀ name body, m.procedures.get? name = some body → whole.Reaches body

namespace Run

variable {σ τ α β : Type} {whole : Lexemes} {k c : Nat} {P P' : Lexemes → Prop}
variable {Q Q' : α → Lexemes → Prop} {run run' : Run σ τ α}

/-- **A computation that comes to an end** in `k` calls, from a place where `P` holds. Where it
succeeds, it is in as many calls, and `Q` holds of its result and its place. -/
def Finishes (whole : Lexemes) (k : Nat) (P : Lexemes → Prop) (run : Run σ τ α)
    (Q : α → Lexemes → Prop) : Prop :=
  ∀ m : Machine σ τ, m.AtDepth whole k → P m.lexemes →
    Settles run m (fun a m' => m'.AtDepth whole k ∧ Q a m'.lexemes) fun e _ => e ≠ .unfinished

theorem finishes_pure {a : α} (h : ∀ ls, P ls → Q a ls) :
    Finishes whole k P (pure a : Run σ τ α) Q :=
  fun m hm hP => ⟨hm, h m.lexemes hP⟩

theorem finishes_fail (e : GrammarError) (place : Position) :
    Finishes whole k P (fail e place : Run σ τ α) Q :=
  fun _ _ _ => Halt.IsFailure.ne_unfinished ⟨_, rfl⟩

theorem Finishes.bind {f : α → Run σ τ β} {R : β → Lexemes → Prop}
    (h : Finishes whole k P run Q) (hf : ∀ a, Finishes whole k (Q a) (f a) R) :
    Finishes whole k P (run >>= f) R :=
  fun m hm hP => (h m hm hP).bind fun a m' hm' => hf a m' hm'.1 hm'.2

theorem Finishes.weaken (h : Finishes whole k P run Q) (hP : ∀ ls, P' ls → P ls)
    (hQ : ∀ a ls, Q a ls → Q' a ls) : Finishes whole k P' run Q' :=
  fun m hm hP' => (h m hm (hP _ hP')).weaken (fun a _ h => ⟨h.1, hQ a _ h.2⟩) fun _ _ h => h

/-- What need be shown only where there is a place to begin at. -/
theorem finishes_of_exists (h : (∃ ls, P ls) → Finishes whole k P run Q) :
    Finishes whole k P run Q :=
  fun m hm hP => h ⟨m.lexemes, hP⟩ m hm hP

/-- Nothing begins where less than no tokens are left. -/
theorem finishes_of_none : Finishes whole k (whole.Ahead 0) run Q :=
  finishes_of_exists fun h => h.elim fun _ hahead => hahead.elim

theorem Finishes.ite {p : Prop} [Decidable p] (h : p → Finishes whole k P run Q)
    (h' : ¬ p → Finishes whole k P run' Q) : Finishes whole k P (if p then run else run') Q := by
  by_cases hp : p
  · simpa only [if_pos hp] using h hp
  · simpa only [if_neg hp] using h' hp

theorem finishes_read {r : Reading α} (hr : r.Terminates)
    (hQ : ∀ ls a ls', P ls → r ls = .ok a ls' → Q a ls') :
    Finishes whole k P (read r : Run σ τ α) Q := by
  intro m hm hP
  have hend := hr.ends hQ m.lexemes hP
  rw [Settles, read]
  cases hread : r m.lexemes with
  | ok a ls => exact ⟨⟨hm.depth, hm.procedures⟩, hend.of_ok hread⟩
  | error e ls => exact (hend.of_error hread).ne_unfinished

/-- **A reading that goes on over tokens** has no more of them left behind it. -/
theorem finishes_advance {r : Reading α} (hr : r.Advances) :
    Finishes whole k (whole.Ahead c) (read r : Run σ τ α) fun _ => whole.Ahead c :=
  finishes_read hr.terminates fun ls a ls' hls h => hls.of_reaches (hr.reaches ls a ls' h)

/-- **Taking a token** leaves one less, and it is one of the script. -/
theorem finishes_take : Finishes whole k (whole.Ahead (c + 1)) (read take : Run σ τ Token)
    fun t ls => t ∈ whole.tokens ∧ whole.Ahead c ls := by
  refine finishes_read terminates_take fun ls t ls' hls h => ?_
  obtain ⟨p, rfl⟩ := take_eq_ok_iff.1 h
  exact ⟨hls.reaches.tokens_suffix.subset List.mem_cons_self, hls.behind⟩

theorem finishes_here :
    Finishes whole k P (here : Run σ τ Lexemes) fun start ls => start = ls ∧ P ls :=
  fun _ hm hP => ⟨hm, rfl, hP⟩

theorem finishes_goTo {ls : Lexemes} {R : Lexemes → Prop} (h : R ls) :
    Finishes whole k P (goTo ls : Run σ τ Unit) fun _ => R :=
  fun _ hm _ => ⟨⟨hm.depth, hm.procedures⟩, h⟩

/-- A request may be refused or break off, and is not given up. -/
theorem finishes_ask (place : Position) (request : EStateM (Trouble Diagnostic) σ α) :
    Finishes whole k P (ask place request : Run σ τ α) fun _ => P := by
  intro m hm hP
  rw [Settles, ask]
  cases request m.agent with
  | ok a s => exact ⟨⟨hm.depth, hm.procedures⟩, hP⟩
  | error e s => exact Halt.ofTrouble_ne_unfinished _

theorem finishes_print (sink : Sink τ) (line : String) :
    Finishes whole k P (print sink line : Run σ τ Unit) fun _ => P := by
  intro m hm hP
  rw [Settles, print]
  cases sink.print line m.output with
  | ok u o => exact ⟨⟨hm.depth, hm.procedures⟩, hP⟩
  | error reason o => exact Halt.IsFailure.ne_unfinished ⟨_, rfl⟩

/-- **One more active call.** -/
theorem Finishes.deeper (h : Finishes whole (k + 1) P run Q) :
    Finishes whole k P (Run.deeper run) Q := by
  intro m hm hP
  have hrun := h { m with depth := m.depth + 1 } ⟨congrArg (· + 1) hm.depth, hm.procedures⟩ hP
  rw [Settles, Run.deeper]
  -- the call is taken off again, and a halt is the one of the body
  cases hr : run { m with depth := m.depth + 1 } with
  | ok a m' =>
    obtain ⟨hm', hQ⟩ := hrun.of_ok hr
    exact ⟨⟨Nat.sub_eq_of_eq_add hm'.depth, hm'.procedures⟩, hQ⟩
  | error e m' =>
    have hend : e ≠ .unfinished := hrun.of_error hr
    exact hend

/-- **The same computation several times**, each begun where the one before has led. -/
theorem Finishes.times {body : Run σ τ Unit} (h : Finishes whole k P body fun _ => P)
    (count : Nat) : Finishes whole k P (Run.times body count) fun _ => P := by
  induction count with
  | zero => exact finishes_pure fun _ hP => hP
  | succ count ih =>
    rw [Run.times_succ]
    exact h.bind fun _ => ih

end Run

/-! ### Instructions -/

namespace Execution

open Run

variable {σ τ : Type} {env : Context σ τ} {whole : Lexemes} {k c n : Nat}

theorem finishes_test :
    Finishes whole k (whole.Ahead c) (test env) fun _ => whole.Ahead c := by
  refine finishes_here.bind fun start => ?_
  refine ((finishes_advance advances_test).weaken (fun _ hP => hP.2) fun _ _ hQ => hQ).bind
    fun t => ?_
  exact (finishes_ask _ _).bind fun value => finishes_pure fun _ hP => hP

theorem finishes_movesUpTo (bound : Nat) :
    Finishes whole k (whole.Ahead bound) (movesUpTo env bound) fun _ => whole.Ahead bound := by
  -- the bound is on the tokens ahead, of which each move takes one
  induction bound with
  | zero => exact finishes_of_none
  | succ bound ih =>
    have hlater : Finishes whole k (whole.Ahead bound) (movesUpTo env bound)
        fun _ => whole.Ahead (bound + 1) :=
      ih.weaken (fun _ hP => hP) fun _ _ hQ => hQ.mono (Nat.le_succ _)
    refine finishes_here.bind fun start => ?_
    refine (finishes_take.weaken (fun _ hP => hP.2) fun _ _ hQ => hQ.2).bind fun token => ?_
    by_cases hend : token.isSpelled ";" = true
    · simp only [if_pos hend]
      exact finishes_pure fun _ hP => hP.mono (Nat.le_succ _)
    · simp only [if_neg hend]
      cases token.word?.bind Move.ofWord? with
      -- a word that is no move ends the run, though not for want of fuel
      | none => exact finishes_fail _ _
      | some m => exact (finishes_ask _ _).bind fun _ => hlater

theorem finishes_moves (place : Position) (first : Move) :
    Finishes whole k (whole.Ahead c) (moves env place first) fun _ => whole.Ahead c := by
  refine (finishes_ask _ _).bind fun _ => ?_
  refine finishes_here.bind fun rest => finishes_of_exists ?_
  rintro ⟨_, rfl, hrest⟩
  -- the bound is one more than the tokens that are left here
  refine (finishes_movesUpTo _).weaken ?_ fun _ ls hQ => hQ.mono hrest.size_lt
  rintro ls ⟨rfl, hls⟩
  exact ⟨hls.reaches, Nat.lt_succ_self _⟩

theorem finishes_setUp :
    Finishes whole k (whole.Ahead c) (setUp env) fun _ => whole.Ahead c := by
  refine finishes_here.bind fun start => ?_
  refine ((finishes_advance advances_take).weaken (fun _ hP => hP.2) fun _ _ hQ => hQ).bind
    fun target => ?_
  have hend : Finishes whole k (whole.Ahead c) (.read (.expect ";") : Run σ τ Unit)
      fun _ => whole.Ahead c := finishes_advance (advances_expect ";")
  dsimp only
  -- a grid by its name, gems by their number, anything else is a failure
  split
  · exact (finishes_advance advances_gridName).bind fun _ => (finishes_ask _ _).bind fun _ => hend
  · exact (finishes_advance advances_integer).bind fun _ => (finishes_ask _ _).bind fun _ => hend
  · exact (finishes_fail _ _).bind fun _ => hend

theorem finishes_printing :
    Finishes whole k (whole.Ahead c) (print env) fun _ => whole.Ahead c :=
  (finishes_advance advances_text).bind fun _ =>
    (finishes_advance (advances_expect ";")).bind fun _ => finishes_print _ _

/-! What instructions are made into. Each instruction takes at least one token. -/

section Bodies

/-- **Instructions that take tokens**, as long as less than a number of them is left. -/
def Consumes (whole : Lexemes) (k n : Nat) (one : Run σ τ Unit) : Prop :=
  ∀ c < n, Finishes whole k (whole.Ahead (c + 1)) one fun _ => whole.Ahead c

variable {one : Run σ τ Unit} (h : Consumes whole k n one)

include h

/-- An instruction leaves no more than there was. -/
theorem Consumes.finishes (hc : c ≤ n) :
    Finishes whole k (whole.Ahead c) one fun _ => whole.Ahead c := by
  cases c with
  | zero => exact finishes_of_none
  | succ c => exact (h c hc).weaken (fun _ hP => hP) fun _ _ hQ => hQ.mono (Nat.le_succ c)

theorem finishes_instructionsUpTo (bound : Nat) (hn : bound ≤ n) :
    Finishes whole k (whole.Ahead bound) (instructionsUpTo one bound)
      fun _ => whole.Ahead bound := by
  -- an instruction takes one token at least, so that fewer are ahead of the next one
  induction bound with
  | zero => exact finishes_of_none
  | succ bound ih =>
    rw [instructionsUpTo_succ]
    refine (finishes_advance (advances_nextIs _)).bind fun closed => ?_
    cases closed with
    | true => exact finishes_advance (advances_expect _)
    | false =>
      exact (h bound hn).bind fun _ => (ih (Nat.le_of_succ_le hn)).weaken (fun _ hP => hP)
        fun _ _ hQ => hQ.mono (Nat.le_succ _)

theorem finishes_block (hc : c ≤ n) :
    Finishes whole k (whole.Ahead c) (block one) fun _ => whole.Ahead c := by
  refine (finishes_advance (advances_expect _)).bind fun _ => ?_
  refine finishes_here.bind fun rest => finishes_of_exists ?_
  rintro ⟨_, rfl, hrest⟩
  -- the instructions of the block get the tokens behind its brace as their bound
  have hbound : rest.size + 1 ≤ c := hrest.size_lt
  refine (finishes_instructionsUpTo h _ (Nat.le_trans hbound hc)).weaken ?_
    fun _ _ hQ => hQ.mono hbound
  rintro ls ⟨rfl, hls⟩
  exact ⟨hls.reaches, Nat.lt_succ_self _⟩

theorem finishes_body (hc : c ≤ n) :
    Finishes whole k (whole.Ahead c) (body one) fun _ => whole.Ahead c := by
  refine (finishes_advance (advances_nextIs _)).bind fun opens => ?_
  cases opens with
  | true => exact finishes_block h hc
  | false => exact h.finishes hc

theorem finishes_choose (hc : c ≤ n) :
    Finishes whole k (whole.Ahead c) (choose env one) fun _ => whole.Ahead c := by
  have hskip : Finishes whole k (whole.Ahead c) (.read .pastBody : Run σ τ Unit)
      fun _ => whole.Ahead c := finishes_advance advances_pastBody
  have helse (holds : Bool) : Finishes whole k (whole.Ahead c) (do
      if ← .read (.nextIs "else") then
        discard <| .read .take
        if holds then .read .pastBody else body one : Run σ τ Unit) fun _ => whole.Ahead c := by
    -- an `else` that is found is taken, and then its body is run or skipped
    refine (finishes_advance (advances_nextIs _)).bind fun found => ?_
    refine Finishes.ite (fun _ => ?_) fun _ => finishes_pure fun _ hP => hP
    have htake : Finishes whole k (whole.Ahead c) (discard <| .read .take : Run σ τ Unit)
        fun _ => whole.Ahead c :=
      (finishes_advance advances_take).bind fun _ => finishes_pure fun _ hP => hP
    refine htake.bind fun _ => ?_
    exact Finishes.ite (fun _ => hskip) fun _ => finishes_body h hc
  refine finishes_test.bind fun holds => ?_
  cases holds with
  | true => exact (finishes_body h hc).bind fun _ => helse true
  | false => exact hskip.bind fun _ => helse false

/-- **Every pass of a `do` begins at one place**, and there are as many as the number says. -/
theorem finishes_repeatTimes (hc : c ≤ n) :
    Finishes whole k (whole.Ahead c) (repeatTimes one) fun _ => whole.Ahead c := by
  refine (finishes_advance advances_integer).bind fun count => ?_
  refine finishes_here.bind fun start => finishes_of_exists ?_
  rintro ⟨_, rfl, hstart⟩
  have hpass : Finishes whole k (whole.Ahead c) (do
      .goTo start
      body one : Run σ τ Unit) fun _ => whole.Ahead c :=
    (finishes_goTo hstart).bind fun _ => finishes_body h hc
  refine Finishes.weaken (Finishes.ite (fun _ => finishes_advance advances_pastBody)
    fun _ => hpass.times count.toNat) (fun _ hP => hP.2) fun _ _ hQ => hQ

end Bodies

section Calls

variable {callee : Run σ τ Unit}

/-- **A call uses up one level**, and comes back to where it was. -/
theorem finishes_callNamed (hcallee : k < env.maxDepth →
      Finishes whole (k + 1) whole.Reaches callee fun _ _ => True)
    (place : Position) (name : String) :
    Finishes whole k (whole.Ahead c) (callNamed env callee place name) fun _ => whole.Ahead c := by
  intro m hm hP
  -- only a name that is noted can be visited, and the two failures are ends like any other
  rcases callNamed_cases env callee place name m with
    ⟨-, heq⟩ | ⟨procedure, hprocedure, ⟨-, heq⟩ | ⟨hdepth, heq⟩⟩
  · rw [Settles, heq]
    exact Halt.IsFailure.ne_unfinished ⟨_, rfl⟩
  · rw [Settles, heq]
    exact Halt.IsFailure.ne_unfinished ⟨_, rfl⟩
  · -- behind the body the run goes back, so it does not matter how many tokens that has left
    have hvisit : Finishes whole k (whole.Ahead c) (visit callee procedure)
        fun _ => whole.Ahead c := by
      refine finishes_here.bind fun back => finishes_of_exists ?_
      rintro ⟨_, rfl, hback⟩
      have hinside : Finishes whole (k + 1) (fun ls => back = ls ∧ whole.Ahead c ls)
          (do .goTo procedure; callee) fun _ _ => True :=
        (finishes_goTo (hm.procedures name procedure hprocedure)).bind fun _ =>
          hcallee (hm.depth ▸ hdepth)
      -- behind the call the run stands where it stood, with as many tokens left
      refine hinside.deeper.bind fun _ => (finishes_goTo hback).bind fun _ => ?_
      exact finishes_advance (advances_expect ";")
    rw [Settles, heq]
    exact hvisit m hm hP

/-- **An instruction takes tokens and comes to an end**, if it is no `while` and holds none. The
induction is on how deeply instructions are nested, which the tokens that are left bound. -/
theorem finishes_instruction (hwhile : Token.word "while" ∉ whole.tokens)
    (hcallee : k < env.maxDepth → Finishes whole (k + 1) whole.Reaches callee fun _ _ => True)
    (nesting : Nat) : Consumes whole k nesting (instruction env callee nesting) := by
  -- the induction is on the nesting, which is above the number of tokens ahead
  induction nesting with
  | zero => exact fun c hc => absurd hc (Nat.not_lt_zero c)
  | succ nesting ih =>
    intro c hc
    -- the token that has been taken makes room for the bound that is left
    have hc : c ≤ nesting := Nat.le_of_lt_succ hc
    refine finishes_here.bind fun start => ?_
    refine (finishes_take.weaken (fun _ hP => hP.2) fun _ _ hQ => hQ).bind fun token => ?_
    refine finishes_of_exists fun ⟨_, htoken, _⟩ => ?_
    refine Finishes.weaken ?_ (fun _ hP => hP.2) fun _ _ hQ => hQ
    split
    · exact finishes_choose ih hc
    · next hword =>
      -- the token would be the word that the script does not have
      obtain rfl : token = .word "while" := by cases token <;> cases hword; rfl
      exact absurd htoken hwhile
    · exact finishes_repeatTimes ih hc
    · rw [call_eq]
      refine finishes_here.bind fun start => ?_
      refine ((finishes_advance advances_name).weaken (fun _ hP => hP.2) fun _ _ hQ => hQ).bind
        fun name => ?_
      exact finishes_callNamed hcallee start.place name
    · exact finishes_setUp
    · exact finishes_printing
    · cases token.word?.bind Move.ofWord? with
      | none => exact finishes_fail _ _
      | some m => exact finishes_moves _ m

theorem finishes_blockCalling (hwhile : Token.word "while" ∉ whole.tokens)
    (hcallee : k < env.maxDepth → Finishes whole (k + 1) whole.Reaches callee fun _ _ => True) :
    Finishes whole k whole.Reaches (blockCalling env callee) fun _ => whole.Reaches := by
  rw [blockCalling_eq]
  refine finishes_here.bind fun start => ?_
  refine (finishes_block (finishes_instruction hwhile hcallee (start.size + 1))
    (Nat.le_refl _)).weaken ?_ fun _ _ hQ => hQ.reaches
  rintro ls ⟨rfl, hls⟩
  exact ⟨hls, Nat.lt_succ_self _⟩

/-- **A block comes to an end**, if there are as many levels as calls may still be made. The
induction is on the levels; the last of them is never entered. -/
theorem finishes_blockHere (hwhile : Token.word "while" ∉ whole.tokens) (levels : Nat)
    (hlevels : env.maxDepth ≤ k + levels) :
    Finishes whole k whole.Reaches (blockHere env levels) fun _ => whole.Reaches := by
  -- the induction is on the calls that may still be made
  induction levels generalizing k with
  | zero =>
    rw [blockHere_eq]
    -- as many calls are active as may be
    exact finishes_blockCalling hwhile fun hk => absurd hlevels (Nat.not_le_of_lt hk)
  | succ levels ih =>
    rw [blockHere_eq]
    refine finishes_blockCalling hwhile fun _ => ?_
    -- a call more is active, and one fewer may be made
    have hlevels' : env.maxDepth ≤ k + 1 + levels := by omega
    exact (ih hlevels').weaken (fun _ hP => hP) fun _ _ _ => trivial

end Calls

end Execution

/-! ### Whole scripts -/

namespace Program

open Run Execution

variable {σ τ : Type} {env : Context σ τ} {whole : Lexemes} {k c : Nat}

theorem finishes_declareNext : Finishes whole k (whole.Ahead (c + 1)) (declareNext : Run σ τ Unit)
    fun _ => whole.Ahead c := by
  have htake : Finishes whole k (whole.Ahead (c + 1)) (discard <| .read .take : Run σ τ Unit)
      fun _ => whole.Ahead c := finishes_take.bind fun _ => finishes_pure fun _ hP => hP.2
  refine htake.bind fun _ => (finishes_advance advances_name).bind fun name => ?_
  -- that the body is a place of the script is needed when it is declared
  refine finishes_here.bind fun body => finishes_of_exists ?_
  rintro ⟨_, rfl, hbody⟩
  have hend : Finishes whole k (whole.Ahead c) (do
      .read .pastBlock
      modify fun m => { m with procedures := m.procedures.insert name body } : Run σ τ Unit)
      fun _ => whole.Ahead c := by
    refine (finishes_advance advances_pastBlock).bind fun _ m hm hP => ?_
    -- the new procedure is where the block begins
    refine ⟨⟨hm.depth, fun other place hplace => ?_⟩, hP⟩
    have hget : (m.procedures.insert name body).get? other = some place := hplace
    rw [Procedures.get?_insert] at hget
    split at hget
    · cases hget
      exact hbody.reaches
    · exact hm.procedures other place hget
  refine ((finishes_advance (advances_nextIs _)).weaken (fun _ hP => hP.2) fun _ _ hQ => hQ).bind
    fun opens => ?_
  refine Finishes.ite (fun _ => hend) fun _ => ?_
  exact (finishes_advance advances_peek).bind fun found => (finishes_fail _ _).bind fun _ => hend

theorem finishes_declareUpTo (bound : Nat) :
    Finishes whole k (whole.Ahead bound) (declareUpTo bound : Run σ τ Unit)
      fun _ => whole.Ahead bound := by
  induction bound with
  | zero => exact finishes_of_none
  | succ bound ih =>
    refine (finishes_advance (advances_nextIs _)).bind fun found => ?_
    refine Finishes.ite (fun _ => ?_) fun _ => finishes_pure fun _ hP => hP
    exact finishes_declareNext.bind fun _ =>
      ih.weaken (fun _ hP => hP) fun _ _ hQ => hQ.mono (Nat.le_succ _)

/-- **Every script is declared**, well formed or not. -/
theorem finishes_declareAll :
    Finishes whole k whole.Reaches (declareAll : Run σ τ Unit) fun _ => whole.Reaches := by
  refine finishes_here.bind fun start => ?_
  refine ((finishes_declareUpTo (start.size + 1)).weaken ?_ fun _ _ hQ => hQ.reaches).bind
    fun _ => ?_
  · -- the bound on the declarations is above the tokens that there are
    rintro ls ⟨rfl, hls⟩
    exact ⟨hls, Nat.lt_succ_self _⟩
  refine finishes_here.bind fun behind => ?_
  refine (finishes_read (Q := fun _ => whole.Reaches) terminates_peek fun ls o ls' hP ho => ?_).bind
    fun next => ?_
  · rw [eq_of_peek_eq_ok ho]
    exact hP.2
  · exact Finishes.ite (fun _ => finishes_fail _ _) fun _ => finishes_pure fun _ hP => hP

theorem finishes_run (hwhile : Token.word "while" ∉ whole.tokens) :
    Finishes whole 0 whole.Reaches (run env) fun _ _ => True := by
  refine finishes_declareAll.bind fun _ => ?_
  refine (finishes_read (Q := fun _ => whole.Reaches) (terminates_expect _)
    fun ls u ls' hP hu => hP.trans ((advances_expect _).reaches ls u ls' hu)).bind fun _ => ?_
  have hmain : Finishes whole 0 whole.Reaches (blockHere env env.maxDepth)
      fun _ => whole.Reaches := finishes_blockHere hwhile env.maxDepth (by omega)
  refine hmain.bind fun _ => finishes_here.bind fun behind => ?_
  exact (finishes_ask _ _).weaken (fun _ hP => hP) fun _ _ _ => trivial

/-- **Scripts without `while` come to an end.** Whatever the bytes are, every body and every block
is skipped, and the procedures are declared, until that succeeds or fails. A script without the word
`while` also runs until it succeeds or fails: with any agent, any output and any limit on calls,
however often its procedures call each other, and whatever its loops repeat. No pass of a `while` is
ever made, so a run that may make none at all is not given up. -/
theorem finishes_without_while (src : Source) :
    (∀ ls ls', pastBody ls ≠ .error .unfinished ls') ∧
      (∀ ls ls', pastBlock ls ≠ .error .unfinished ls') ∧
      ∀ {σ τ : Type} (env : Context σ τ) (agent : σ) (output : τ),
        (∀ m, declareAll (.ofSource src agent output : Machine σ τ) ≠ .error .unfinished m) ∧
        (Token.word "while" ∉ src.lexemes.tokens →
          ∀ m, run env (.ofSource src agent output) ≠ .error .unfinished m) := by
  refine ⟨fun ls ls' h => ?_, fun ls ls' h => ?_, fun {σ τ} env agent output => ?_⟩
  · exact ((advances_pastBody.terminates ls trivial).of_error h).ne_unfinished rfl
  · exact ((advances_pastBlock.terminates ls trivial).of_error h).ne_unfinished rfl
  · have hstart : (Machine.ofSource src agent output : Machine σ τ).AtDepth src.lexemes 0 :=
      ⟨rfl, fun name body hbody => by cases hbody⟩
    refine ⟨fun m h => ?_, fun hwhile m h => ?_⟩
    · exact (finishes_declareAll _ hstart (.refl _)).of_error h rfl
    · exact (finishes_run hwhile _ hstart (.refl _)).of_error h rfl

end Program

/-! ### Words and bytes -/

/-- A word of a script stands in its bytes. -/
theorem Lexemes.exists_infix_of_word {p : Position} {w : String}
    (h : Token.word w ∈ (ofPosition p).tokens) :
    ∃ written, written <:+: p ∧ Utf8.decode written = w := by
  fun_induction ofPosition p with
  | case1 p hscan => cases h
  | case3 p e hscan ih => cases h
  | case2 p t after hscan ih =>
    obtain ⟨gap, written, -, htoken, hp⟩ := Spelling.exists_spelling_of_scan hscan
    rcases List.mem_cons.1 h with hw | hlater
    · -- the first token, which is spelled behind the gap
      subst hw
      cases htoken with
      | word => exact ⟨written, ⟨gap, after, by rw [hp, List.append_assoc]⟩, rfl⟩
    · obtain ⟨written', hwithin, hw⟩ := ih hlater
      refine ⟨written', hwithin.trans (List.IsSuffix.isInfix ?_), hw⟩
      rw [hp, ← List.append_assoc]
      exact List.suffix_append _ after

/-- **A word that is not in the bytes** of a script is not one of its words. The word is ASCII. -/
theorem Source.word_notMem_tokens {src : Source} {w : String}
    (hascii : ∀ c ∈ w.toList, 0 < c.toNat ∧ c.toNat < 0x80)
    (h : ¬ w.toList.map Char.toNat <:+: src.bytes.map UInt8.toNat) :
    Token.word w ∉ src.lexemes.tokens := by
  intro hmem
  obtain ⟨written, hwithin, hw⟩ := Lexemes.exists_infix_of_word hmem
  have hdecoded : Utf8.decodeAfter none written = w.toList := by
    rw [← hw, Utf8.decode, String.toList_ofList]
  rw [← Utf8.map_toNat_of_decodeAfter hascii hdecoded] at h
  exact h (hwithin.map _)

/-- A script with loops in each other, in a procedure that calls itself without an end. -/
def Source.whirl : Source where
  name := "whirl.gs"
  bytes := Utf8.encode "proc whirl \x7b do 3 do 2 \x7b turnL; call whirl; \x7d \x7d
    main \x7b call whirl; \x7d"

/-- Its bytes do not hold the word, so it ends without a pass of a `while`. -/
theorem Program.finishes_whirl :
    Token.word "while" ∉ Source.whirl.lexemes.tokens ∧
      ∀ m, run ⟨Recorder.agent, Output.sink, 2, 0⟩
        (.ofSource .whirl ⟨[], false, [], none, none, 0, []⟩ (.empty none)) ≠
          .error .unfinished m := by
  have hwhile : Token.word "while" ∉ Source.whirl.lexemes.tokens :=
    Source.word_notMem_tokens (by simp) (by decide +kernel)
  obtain ⟨-, -, hruns⟩ := finishes_without_while .whirl
  obtain ⟨-, hrun⟩ := hruns ⟨Recorder.agent, Output.sink, 2, 0⟩
    ⟨[], false, [], none, none, 0, []⟩ (.empty none)
  exact ⟨hwhile, hrun hwhile⟩

end GridScript
