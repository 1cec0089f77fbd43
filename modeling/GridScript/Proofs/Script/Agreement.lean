import GridScript.Agent.Recorder
import GridScript.Proofs.Script.Skipping
import GridScript.Script.Execution
import GridScript.Script.Output
import Mathlib

/-!
# Executing and skipping end at the same place

Execution follows the structure of code by descending into it, and jumps away in calls and loops.
Skipping only counts braces and looks for semicolons. Where execution succeeds the two still end at
the same place, so what the agent answers cannot shift the code that is read next.

* `Execution.pastOne_of_instruction` — an instruction that has been executed can be skipped.
* `Execution.ends_where_skipping_ends` — the same of a body, for every place of every source, with
  what follows from it for executions from the same place and for calls.

The induction is on the nesting of instructions. A loop needs no induction of its own: the last pass
begins where all of them begin, and leaves the run where the loop leaves it.
-/

namespace GridScript

open Reading Lexemes

/-! ### Flat instructions -/

namespace Reading

theorem pastSemicolon_semicolon {p : Position} {t : Token} {rest : Lexemes}
    (h : t.isSpelled ";" = true) : pastSemicolon (.token p t rest) = .ok () rest := by
  rw [pastSemicolon, if_pos h]

theorem pastSemicolon_word {p : Position} {w : String} {rest : Lexemes}
    (h : (Token.word w).Bare) : pastSemicolon (.token p (.word w) rest) = pastSemicolon rest := by
  have hs : (Token.word w).isSpelled ";" = false := beq_false_of_ne h.1
  rw [pastSemicolon, if_neg (by simp [hs]), if_neg (by simp [h.plain.1, h.plain.2])]

theorem pastSemicolon_quoted (p : Position) (s : String) (rest : Lexemes) :
    pastSemicolon (.token p (.quoted s) rest) = pastSemicolon rest := rfl

end Reading

namespace Execution

variable {σ τ : Type} {env : Context σ τ} {m m' : Machine σ τ}

theorem lexemes_of_tell_eq_ok {p : Position} {c : Command} (h : tell env p c m = .ok () m') :
    m'.lexemes = m.lexemes :=
  Run.lexemes_of_ask_eq_ok h

/-- A test is read as it is read for skipping. -/
theorem test_of_test {b : Bool} (h : test env m = .ok b m') :
    ∃ t, Reading.test m.lexemes = .ok t m'.lexemes := by
  simp only [test, bind_eq_ok_iff, Run.here_eq_ok_iff, Run.read_eq_ok_iff] at h
  obtain ⟨_, _, ⟨rfl, rfl⟩, t, _, ⟨ls, ht, rfl⟩, v, _, hask, h⟩ := h
  cases h
  rw [Run.lexemes_of_ask_eq_ok hask]
  exact ⟨t, ht⟩

/-- Moves end behind the first semicolon. -/
theorem pastSemicolon_of_movesUpTo {bound : Nat} (hb : m.lexemes.Bare)
    (h : movesUpTo env bound m = .ok () m') :
    pastSemicolon m.lexemes = .ok () m'.lexemes := by
  -- the induction is on the bound, which is not used up where the moves end
  induction bound generalizing m with
  | zero => cases h
  | succ bound ih =>
    simp only [movesUpTo, bind_eq_ok_iff, Run.here_eq_ok_iff, Run.read_eq_ok_iff,
      take_eq_ok_iff] at h
    obtain ⟨_, _, ⟨rfl, rfl⟩, t, _, ⟨rest, ⟨p, hls⟩, rfl⟩, h⟩ := h
    rw [hls] at hb ⊢
    by_cases hs : t.isSpelled ";" = true
    · -- both take the semicolon and stop
      rw [if_pos hs] at h
      cases h
      exact pastSemicolon_semicolon hs
    rw [if_neg hs] at h
    cases hmove : t.word?.bind Move.ofWord? with
    | none =>
      rw [hmove] at h
      cases h
    | some move =>
      rw [hmove] at h
      simp only [bind_eq_ok_iff] at h
      obtain ⟨_, mid, htell, h⟩ := h
      have hmid : mid.lexemes = rest := lexemes_of_tell_eq_ok htell
      -- the other moves end where skipping does, by the hypothesis
      have hrest := ih (by rw [hmid]; exact hb.2) h
      -- only a word names a move, and a bare word is neither a semicolon nor a brace
      cases t with
      | word w => rw [pastSemicolon_word hb.1, ← hmid, hrest]
      | mark _ => cases hmove
      | quoted _ => cases hmove

/-- The moves behind their first word end behind the first semicolon. -/
theorem pastSemicolon_of_moves {p : Position} {first : Move} (hb : m.lexemes.Bare)
    (h : moves env p first m = .ok () m') : pastSemicolon m.lexemes = .ok () m'.lexemes := by
  simp only [moves, bind_eq_ok_iff, Run.here_eq_ok_iff] at h
  obtain ⟨_, mid, htell, _, _, ⟨rfl, rfl⟩, h⟩ := h
  have hmid := lexemes_of_tell_eq_ok htell
  rw [← hmid]
  exact pastSemicolon_of_movesUpTo (hmid ▸ hb) h

/-- What is set up ends behind the first semicolon: no grid name is one. -/
theorem pastSemicolon_of_setUp (hb : m.lexemes.Bare) (h : setUp env m = .ok () m') :
    pastSemicolon m.lexemes = .ok () m'.lexemes := by
  simp only [setUp, bind_eq_ok_iff, Run.here_eq_ok_iff, Run.read_eq_ok_iff, take_eq_ok_iff] at h
  obtain ⟨_, _, ⟨rfl, rfl⟩, target, _, ⟨rest, ⟨p, hls⟩, rfl⟩, h⟩ := h
  rw [hls] at hb ⊢
  -- the word that says what is set up is passed over like any other
  have htarget : ∀ w, target.word? = some w → pastSemicolon (.token p target rest) =
      pastSemicolon rest := by
    intro w hw
    cases target <;> cases hw
    exact pastSemicolon_word hb.1
  generalize hhead : target.word? = head at h
  split at h
  · -- `init grid`: the name is a word or a quoted text, and the latter may hold anything
    simp only [bind_eq_ok_iff, Run.read_eq_ok_iff, gridName_eq_ok_iff, expect_eq_ok_iff] at h
    obtain ⟨name, _, ⟨r, ⟨q, t, hr, ht⟩, rfl⟩, _, mid, htell, last, ⟨q', s, hlast, hs⟩, rfl⟩ := h
    rw [lexemes_of_tell_eq_ok htell] at hlast
    simp only at hr hlast
    rw [htarget _ hhead, hr, hlast]
    rw [hr] at hb
    rcases ht with rfl | rfl
    · rw [pastSemicolon_quoted, pastSemicolon_semicolon hs]
    · rw [pastSemicolon_word hb.2.1, pastSemicolon_semicolon hs]
  · -- `init gems`
    simp only [bind_eq_ok_iff, Run.read_eq_ok_iff, integer_eq_ok_iff, expect_eq_ok_iff] at h
    obtain ⟨count, _, ⟨r, ⟨q, w, hr, -⟩, rfl⟩, _, mid, htell, last, ⟨q', s, hlast, hs⟩, rfl⟩ := h
    rw [lexemes_of_tell_eq_ok htell] at hlast
    simp only at hr hlast
    rw [hr] at hb
    rw [htarget _ hhead, hr, hlast, pastSemicolon_word hb.2.1, pastSemicolon_semicolon hs]
  · cases h

/-- What is printed ends behind its semicolon. -/
theorem pastSemicolon_of_print (h : print env m = .ok () m') :
    pastSemicolon m.lexemes = .ok () m'.lexemes := by
  simp only [print, bind_eq_ok_iff, Run.read_eq_ok_iff, text_eq_ok_iff, expect_eq_ok_iff] at h
  obtain ⟨text, _, ⟨r, ⟨p, hls⟩, rfl⟩, _, _, ⟨r', ⟨q, s, hr, hs⟩, rfl⟩, hprint⟩ := h
  simp only at hr
  rw [Run.lexemes_of_print_eq_ok hprint, hls, pastSemicolon_quoted, hr, pastSemicolon_semicolon hs]

/-- **A call comes back to just behind its own semicolon**, wherever it has been. -/
theorem lexemes_of_call {callee : Run σ τ Unit} (h : call env callee m = .ok () m') :
    ∃ p q name s, m.lexemes = .token p (.word name) (.token q s m'.lexemes) ∧
      s.isSpelled ";" = true := by
  simp only [call, bind_eq_ok_iff, Run.here_eq_ok_iff, Run.read_eq_ok_iff, name_eq_ok_iff,
    Run.get_eq_ok_iff] at h
  obtain ⟨_, _, ⟨rfl, rfl⟩, name, _, ⟨r, ⟨p, hls, hname⟩, rfl⟩, _, _, ⟨rfl, rfl⟩, h⟩ := h
  -- a name that is not noted fails, and so does a call too deep
  cases hget : m.procedures.get? name with
  | none =>
    simp only [hget] at h
    cases h
  | some procedure =>
    simp only [hget] at h
    by_cases hdeep : env.maxDepth ≤ m.depth
    · rw [if_pos hdeep] at h
      cases h
    · -- the callee goes anywhere, and then the run goes back to where the name ended
      rw [if_neg hdeep] at h
      simp only [bind_eq_ok_iff, Run.here_eq_ok_iff, Run.goTo_eq_ok_iff, Run.read_eq_ok_iff,
        expect_eq_ok_iff] at h
      obtain ⟨_, _, ⟨rfl, rfl⟩, _, _, -, _, _, rfl, r', ⟨q, s, hr, hs⟩, rfl⟩ := h
      simp only at hr
      exact ⟨p, q, name, s, by rw [hls, hr], hs⟩

/-- A call ends behind the first semicolon. -/
theorem pastSemicolon_of_call {callee : Run σ τ Unit} (hb : m.lexemes.Bare)
    (h : call env callee m = .ok () m') : pastSemicolon m.lexemes = .ok () m'.lexemes := by
  obtain ⟨p, q, name, s, hls, hs⟩ := lexemes_of_call h
  rw [hls] at hb ⊢
  rw [pastSemicolon_word hb.1, pastSemicolon_semicolon hs]

/-! ### Blocks and bodies -/

/-- **What is asked of instructions inside**: where one succeeds, skipping it ends there too. -/
def Skippable (instruction : Run σ τ Unit) : Prop :=
  ∀ ⦃m m' : Machine σ τ⦄, m.lexemes.Bare → instruction m = .ok () m' →
    pastOne m.lexemes = .ok () m'.lexemes

namespace Skippable

variable {instruction : Run σ τ Unit} (hi : Skippable instruction)
include hi

/-- The instructions of a block are a stretch up to its closing brace. -/
theorem stretch_of_instructionsUpTo {bound : Nat} (hb : m.lexemes.Bare)
    (h : instructionsUpTo instruction bound m = .ok () m') :
    ∃ q c, c.isSpelled "\x7d" = true ∧ m.lexemes.Stretch (.token q c m'.lexemes) := by
  -- the induction is on the bound on instructions
  induction bound generalizing m with
  | zero => cases h
  | succ bound ih =>
    rw [instructionsUpTo] at h
    split at h
    · next mid hread =>
      -- the closing brace is next
      obtain ⟨ls, hnext, rfl⟩ := Run.read_eq_ok_iff.1 hread
      obtain rfl := eq_of_nextIs_eq_ok hnext
      obtain ⟨ls, hexpect, rfl⟩ := Run.read_eq_ok_iff.1 h
      obtain ⟨q, c, hls, hc⟩ := expect_eq_ok_iff.1 hexpect
      simp only at hls ⊢
      exact ⟨q, c, hc, hls ▸ .refl _⟩
    · next mid hread =>
      -- an instruction is next, and the others stand behind it
      obtain ⟨ls, hnext, rfl⟩ := Run.read_eq_ok_iff.1 hread
      obtain rfl := eq_of_nextIs_eq_ok hnext
      split at h
      · next last hone =>
        have hstretch := stretch_of_pastInstruction (hi hb hone)
        obtain ⟨q, c, hc, hrest⟩ := ih (hstretch.reaches.bare hb) h
        exact ⟨q, c, hc, hstretch.trans hrest⟩
      · cases h
    · cases h

/-- An executed block can be skipped. -/
theorem pastBlock_of_block (hb : m.lexemes.Bare) (h : block instruction m = .ok () m') :
    pastBlock m.lexemes = .ok () m'.lexemes := by
  simp only [block, bind_eq_ok_iff, Run.here_eq_ok_iff, Run.read_eq_ok_iff] at h
  obtain ⟨_, _, ⟨inside, hopen, rfl⟩, _, _, ⟨rfl, rfl⟩, h⟩ := h
  obtain ⟨p, o, hls, ho⟩ := expect_eq_ok_iff.1 hopen
  rw [hls] at hb
  obtain ⟨q, c, hc, hinside⟩ := hi.stretch_of_instructionsUpTo hb.2 h
  -- what is inside does not count, so the first brace that does is the closing one
  rw [pastBlock, bind_of_ok hopen, hinside.balanced, pastClosingBrace_token,
    if_neg (by simp [Token.isSpelled_eq_false hc]), if_pos hc]

/-- **An executed body can be skipped.** -/
theorem pastBody_of_body (hb : m.lexemes.Bare) (h : body instruction m = .ok () m') :
    pastBody m.lexemes = .ok () m'.lexemes := by
  -- whether there is a brace is looked at in the same place by both
  simp only [body, bind_eq_ok_iff, Run.read_eq_ok_iff] at h
  obtain ⟨b, _, ⟨ls, hnext, rfl⟩, h⟩ := h
  obtain rfl := eq_of_nextIs_eq_ok hnext
  cases b with
  | true =>
    obtain ⟨-, p, t, rest, hls, ht⟩ := nextIs_eq_true_iff.1 hnext
    have hblock := hi.pastBlock_of_block hb h
    rw [hls] at hblock ⊢
    rw [pastBody_of_brace ht, hblock]
  | false =>
    rw [pastBody_of_not_brace hnext]
    exact hi hb h

end Skippable

/-! ### Instructions with a body -/

/-- A body that is skipped by a run is skipped. -/
theorem pastBody_of_read (h : Run.read .pastBody m = .ok () m') :
    pastBody m.lexemes = .ok () m'.lexemes := by
  obtain ⟨ls, hls, rfl⟩ := Run.read_eq_ok_iff.1 h
  exact hls

/-- The part behind `else`, whether its body is executed or skipped. -/
theorem pastElse_of_else {second : Run σ τ Unit}
    (hsecond : ∀ ⦃a b : Machine σ τ⦄, a.lexemes.Bare → second a = .ok () b →
      pastBody a.lexemes = .ok () b.lexemes)
    (hb : m.lexemes.Bare)
    (h : (do
      if ← Run.read (.nextIs "else") then
        discard <| Run.read .take
        second : Run σ τ Unit) m = .ok () m') :
    pastElse pastBody m.lexemes = .ok () m'.lexemes := by
  simp only [bind_eq_ok_iff, Run.read_eq_ok_iff] at h
  obtain ⟨b, _, ⟨ls, hnext, rfl⟩, h⟩ := h
  obtain rfl := eq_of_nextIs_eq_ok hnext
  rw [pastElse, bind_of_ok hnext]
  cases b with
  | true =>
    -- the `else` is taken, and the second body stands behind it
    simp only [if_true, bind_eq_ok_iff, discard_eq_ok_iff, Run.read_eq_ok_iff, take_eq_ok_iff] at h
    obtain ⟨_, _, ⟨t, rest, ⟨p, hls⟩, rfl⟩, h⟩ := h
    rw [hls] at hb ⊢
    exact hsecond hb.2 h
  | false =>
    cases h
    rfl

namespace Skippable

variable {instruction : Run σ τ Unit} (hi : Skippable instruction)
include hi

/-- Behind an `if` stand a test, a body, and possibly an `else` with another body. Which of the
bodies is executed makes no difference. -/
theorem pastElse_of_choose (hb : m.lexemes.Bare) (h : choose env instruction m = .ok () m') :
    ∃ t a b, Reading.test m.lexemes = .ok t a ∧ pastBody a = .ok () b ∧
      pastElse pastBody b = .ok () m'.lexemes := by
  rw [choose] at h
  simp only [bind_eq_ok_iff] at h
  -- the test reads the same tokens whatever the agent answers
  obtain ⟨holds, mid, htest, h⟩ := h
  obtain ⟨t, ht⟩ := test_of_test htest
  have hmid := (stretch_of_test ht).reaches.bare hb
  cases holds with
  | true =>
    -- the first body is executed, the second one is skipped
    obtain ⟨_, mid', hfirst, h⟩ := bind_eq_ok_iff.1 h
    have hskip := hi.pastBody_of_body hmid hfirst
    have hmid' := (stretch_of_pastBody hskip).reaches.bare hmid
    exact ⟨t, _, _, ht, hskip, pastElse_of_else (fun _ _ _ => pastBody_of_read) hmid' h⟩
  | false =>
    -- the other way round
    obtain ⟨_, mid', hfirst, h⟩ := bind_eq_ok_iff.1 h
    have hskip := pastBody_of_read hfirst
    have hmid' := (stretch_of_pastBody hskip).reaches.bare hmid
    exact ⟨t, _, _, ht, hskip, pastElse_of_else (fun _ _ => hi.pastBody_of_body) hmid' h⟩

omit hi in
/-- A loop that ends has made a last pass, which has come to where the loop ends. -/
theorem exists_last_pass {pass : Run σ τ Bool} {passes : Nat}
    (h : Run.loop pass passes m = .ok () m') : ∃ a, pass a = .ok false m' := by
  -- the passes that hold lead to the last one, which does not
  induction passes generalizing m with
  | zero => cases h
  | succ passes ih =>
    rw [Run.loop] at h
    split at h
    · exact ih h
    · next last hlast =>
      cases h
      exact ⟨m, hlast⟩
    · cases h

omit hi in
/-- Of several passes the last one has come to where all of them end. -/
theorem exists_last_time {pass : Run σ τ Unit} {count : Nat} (hcount : count ≠ 0)
    (h : Run.times pass count m = .ok () m') : ∃ a, pass a = .ok () m' := by
  induction count generalizing m with
  | zero => exact absurd rfl hcount
  | succ count ih =>
    rw [Run.times] at h
    -- only the last time has to be known, since each begins at the same place
    split at h
    · next mid hpass =>
      cases count with
      | zero =>
        cases h
        exact ⟨m, hpass⟩
      | succ count => exact ih (Nat.succ_ne_zero count) h
    · cases h

omit hi in
/-- Behind a `while` stand a test and a body: the last pass has skipped them. -/
theorem pastBody_of_repeatWhile {instruction : Run σ τ Unit}
    (h : repeatWhile env instruction m = .ok () m') :
    ∃ t a, Reading.test m.lexemes = .ok t a ∧ pastBody a = .ok () m'.lexemes := by
  simp only [repeatWhile, bind_eq_ok_iff, Run.here_eq_ok_iff] at h
  obtain ⟨_, _, ⟨rfl, rfl⟩, h⟩ := h
  -- where the loop ends is seen from its last pass, which began where the first one did
  obtain ⟨a, hpass⟩ := exists_last_pass h
  simp only [bind_eq_ok_iff, Run.goTo_eq_ok_iff] at hpass
  obtain ⟨_, _, rfl, holds, mid, htest, hpass⟩ := hpass
  obtain ⟨t, ht⟩ := test_of_test htest
  cases holds with
  | true =>
    -- a pass whose test holds is not the last one
    obtain ⟨_, _, _, hpass⟩ := bind_eq_ok_iff.1 hpass
    cases hpass
  | false =>
    obtain ⟨_, _, hskip, hpass⟩ := bind_eq_ok_iff.1 hpass
    cases hpass
    exact ⟨t, _, ht, pastBody_of_read hskip⟩

/-- Behind a `do` stand a number and a body: the last pass has executed it. -/
theorem pastBody_of_repeatTimes (hb : m.lexemes.Bare)
    (h : repeatTimes instruction m = .ok () m') :
    ∃ n a, integer m.lexemes = .ok n a ∧ pastBody a = .ok () m'.lexemes := by
  simp only [repeatTimes, bind_eq_ok_iff, Run.here_eq_ok_iff, Run.read_eq_ok_iff] at h
  obtain ⟨count, _, ⟨a, hcount, rfl⟩, _, _, ⟨rfl, rfl⟩, h⟩ := h
  refine ⟨count, a, hcount, ?_⟩
  by_cases hzero : count = 0
  · -- `do 0` skips its body
    rw [if_pos hzero] at h
    exact pastBody_of_read h
  · rw [if_neg hzero] at h
    obtain ⟨mid, hpass⟩ := exists_last_time (by simpa [← UInt32.toNat_inj] using hzero) h
    simp only [bind_eq_ok_iff, Run.goTo_eq_ok_iff] at hpass
    obtain ⟨_, _, rfl, hbody⟩ := hpass
    -- the body does not depend on what the machine has become in the meantime
    have hbare : a.Bare := (stretch_of_integer hcount).reaches.bare hb
    have hskip := hi.pastBody_of_body (m := { mid with lexemes := a }) hbare hbody
    exact hskip

end Skippable

/-- **An executed instruction can be skipped**, whatever is called by it. -/
theorem pastOne_of_instruction (env : Context σ τ) (callee : Run σ τ Unit) (nesting : Nat) :
    Skippable (instruction env callee nesting) := by
  induction nesting with
  | zero =>
    intro m m' _ h
    cases h
  | succ nesting ih =>
    intro m m' hb h
    simp only [instruction, bind_eq_ok_iff, Run.here_eq_ok_iff, Run.read_eq_ok_iff,
      take_eq_ok_iff] at h
    obtain ⟨_, _, ⟨rfl, rfl⟩, t, _, ⟨rest, ⟨p, hls⟩, rfl⟩, h⟩ := h
    rw [hls] at hb ⊢
    rw [pastOne_token]
    -- a first word that is no head is passed over up to the semicolon
    have hword : ∀ w, t.word? = some w → pastSemicolon (.token p t rest) = pastSemicolon rest := by
      intro w hw
      cases t <;> cases hw
      exact pastSemicolon_word hb.1
    generalize hhead : t.word? = head at h
    -- the same first words are told apart by execution and by skipping
    split at h
    · -- `if`
      obtain ⟨c, a, b, htest, hthen, helse⟩ := ih.pastElse_of_choose hb.2 h
      simp only [pastHeaded, discard_apply, bind_apply, take, htest, hthen, helse]
    · -- `while`
      obtain ⟨c, a, htest, hskip⟩ := Skippable.pastBody_of_repeatWhile h
      simp only [pastHeaded, discard_apply, bind_apply, take, htest, hskip]
    · -- `do`
      obtain ⟨n, a, hcount, hskip⟩ := ih.pastBody_of_repeatTimes hb.2 h
      simp only [pastHeaded, discard_apply, bind_apply, take, hcount, hskip]
    · -- `call`
      rw [pastHeaded_flat (by decide) (by decide) (by decide), hword _ hhead]
      exact pastSemicolon_of_call hb.2 h
    · -- `init`
      rw [pastHeaded_flat (by decide) (by decide) (by decide), hword _ hhead]
      exact pastSemicolon_of_setUp hb.2 h
    · -- `print`
      rw [pastHeaded_flat (by decide) (by decide) (by decide), hword _ hhead]
      exact pastSemicolon_of_print h
    · next hif hwhile hdo _ _ _ =>
      -- any other word has to be a move
      rw [pastHeaded_flat hif hwhile hdo]
      cases head with
      | none => cases h
      | some w =>
        rw [hword w hhead]
        cases hmove : Move.ofWord? w with
        | none =>
          simp only [Option.bind_some, hmove] at h
          cases h
        | some move =>
          simp only [Option.bind_some, hmove] at h
          exact pastSemicolon_of_moves hb.2 h

/-! ### Bodies of a source -/

/-- **Executing and skipping agree on where code ends.** Where a body is executed from a place of a
source and that succeeds, there is a place of the source at which

* the execution ends, and skipping the body from the same place ends too, without any change to the
  agent, the output, the procedures and the depth;
* every successful execution from the same place ends, by whatever agent, sink, limits, procedures
  and depth.

A call that succeeds comes back to just behind its own semicolon. -/
theorem ends_where_skipping_ends (p : Position) {σ τ : Type} (env : Context σ τ)
    (callee : Run σ τ Unit) (nesting : Nat) (m m' : Machine σ τ) :
    (body (instruction env callee nesting) { m with lexemes := .ofPosition p } = .ok () m' →
      ∃ q, m'.lexemes = .ofPosition q ∧
        Run.read .pastBody { m with lexemes := .ofPosition p } =
          .ok () { m with lexemes := .ofPosition q } ∧
        ∀ {σ' τ' : Type} (env' : Context σ' τ') (callee' : Run σ' τ' Unit) (nesting' : Nat)
          (n n' : Machine σ' τ'),
          body (instruction env' callee' nesting') { n with lexemes := .ofPosition p } =
            .ok () n' → n'.lexemes = .ofPosition q) ∧
    (call env callee { m with lexemes := .ofPosition p } = .ok () m' →
      ∃ place place' name, Lexemes.ofPosition p =
        .token place (.word name) (.token place' (.mark .semicolon) m'.lexemes)) := by
  -- execution reads a source, in which no word is a mark
  have hb := bare_ofPosition p
  refine ⟨fun h => ?_, fun h => ?_⟩
  · have hskip := (pastOne_of_instruction env callee nesting).pastBody_of_body hb h
    obtain ⟨q, hq⟩ := (stretch_of_pastBody hskip).reaches.eq_ofPosition rfl
    refine ⟨q, hq, Run.read_eq_ok_iff.2 ⟨_, hskip, by rw [hq]⟩, ?_⟩
    -- where skipping ends does not depend on who executes
    intro σ' τ' env' callee' nesting' n n' h'
    have hskip' := (pastOne_of_instruction env' callee' nesting').pastBody_of_body hb h'
    have hsame : EStateM.Result.ok () m'.lexemes = .ok () n'.lexemes := hskip.symm.trans hskip'
    injection hsame with _ hsame
    rw [← hsame, hq]
  · obtain ⟨place, place', name, s, hls, hs⟩ := lexemes_of_call h
    refine ⟨place, place', name, ?_⟩
    simp only at hls
    rw [hls] at hb
    rw [hls, hb.2.1.eq_semicolon hs]

/-- A recorder that says yes once, with room for three calls and five passes. -/
def recorderContext : Context Recorder Output :=
  { agent := Recorder.agent, sink := Output.sink, maxDepth := 3, passes := 5 }

/-- A machine of that recorder, in which the procedure `walk` is declared. -/
def recorderMachine : Machine Recorder Output :=
  { lexemes := .finish []
    procedures := .insert .empty "walk"
      (.ofPosition (Utf8.encode "\x7b step; print \"\x7d\"; \x7d main"))
    depth := 0
    agent := ⟨[true], false, [], none, none, 0, []⟩
    output := .empty none }

/-- An `if` with an `else` is executed and skipped up to the same `take`, and a call of `walk` comes
back to its own semicolon. -/
theorem if_and_call_end_where_skipping_ends :
    (∃ q, Run.read .pastBody { recorderMachine with
          lexemes := .ofPosition
            (Utf8.encode "if seejem \x7b call walk; \x7d else turnL; take;") } =
        .ok () { recorderMachine with lexemes := .ofPosition q }) ∧
      ∃ place place' name rest, Lexemes.ofPosition (Utf8.encode "walk; take;") =
        .token place (.word name) (.token place' (.mark .semicolon) rest) := by
  refine ⟨?_, ?_⟩
  · obtain ⟨q, -, h, -⟩ := (ends_where_skipping_ends
      (Utf8.encode "if seejem \x7b call walk; \x7d else turnL; take;") recorderContext
      (blockHere recorderContext 2) 20 recorderMachine
      { recorderMachine with
        lexemes := .ofPosition (Utf8.encode " take;")
        agent := ⟨[], false, [], none, none, 2, ["seejem", "step"]⟩
        output := ⟨Utf8.encode "\x7d\n", none⟩ }).1 (by cbv)
    exact ⟨q, h⟩
  · obtain ⟨place, place', name, h⟩ := (ends_where_skipping_ends
      (Utf8.encode "walk; take;") recorderContext (blockHere recorderContext 2) 20 recorderMachine
      { recorderMachine with
        lexemes := .ofPosition (Utf8.encode " take;")
        agent := ⟨[true], false, [], none, none, 1, ["step"]⟩
        output := ⟨Utf8.encode "\x7d\n", none⟩ }).2 (by cbv)
    exact ⟨place, place', name, _, h⟩

end Execution

end GridScript
