import GridScript.Proofs.Script.Following
import GridScript.Proofs.Script.Rendering
import GridScript.Script.Program

/-!
# Written instructions follow their trees

Where the tokens of a tree are written, executing them follows the walk through the tree. A body is
executed or skipped, and both end at the same place, so that what stands behind it does not depend
on the agent. A loop comes back to the place of its test or body, where the same tree is written.

* `Tree.follows_when`, `Tree.follows_choose`, `Tree.follows_repeatWhile`,
  `Tree.follows_repeatTimes` — one rule for each construct, from what its bodies do.
* `Tree.Calls` — what is assumed of calls.
* `Tree.Instruction.follows`, `Tree.Body.follows`, `Tree.Sequence.follows` — by recursion on the
  tree.
-/

namespace GridScript

open Reading

/-- Behind some tokens there is no more to be read than in front of them. -/
theorem Lexemes.Reads.size_lt {ls rest : Lexemes} {ts : List Token} {n : Nat}
    (h : ls.Reads ts rest) (hn : ls.size < n) : rest.size < n :=
  Nat.lt_of_le_of_lt h.reaches.size_le hn

namespace Execution

variable {σ τ : Type}

/-- Instructions up to a brace, as a sequence of computations. -/
theorem instructionsUpTo_succ (instruction : Run σ τ Unit) (bound : Nat) :
    instructionsUpTo instruction (bound + 1) = (Run.read (.nextIs "\x7d") >>= fun closed =>
      if closed then Run.read (.expect "\x7d")
      else instruction >>= fun _ => instructionsUpTo instruction bound) := by
  funext m
  rw [bind_apply, instructionsUpTo]
  cases Run.read (nextIs "\x7d") m with
  | ok closed m' =>
    cases closed with
    | false =>
      dsimp only
      rw [if_neg Bool.false_ne_true, bind_apply]
      cases instruction m' <;> rfl
    | true => rfl
  | error e m' => rfl

end Execution

namespace Tree

open Lexemes

variable {σ τ : Type} {env : Context σ τ} {m : Machine σ τ} {ls rest : Lexemes}

/-! ### Flat instructions -/

/-- A written test is read and asked. -/
theorem Test.follows {t : Test} (h : ls.Reads t.tokens rest) :
    Follows m ls rest (Execution.test env) (t.value env) :=
  .here <| .read (test_of_reads h) <| (Follows.ask _ _).seq fun _ => .nothing _

/-- Written moves are made up to their semicolon. -/
theorem follows_movesUpTo {others : List Move} {bound : Nat} (hbound : ls.size ≤ bound)
    (h : ls.Reads (others.map (.word ·.keyword) ++ [.mark .semicolon]) rest) :
    Follows m ls rest (Execution.movesUpTo env (bound + 1)) (tellMoves env others) := by
  -- the induction is on the moves that are left; the last one is followed by the semicolon
  induction others generalizing ls bound with
  | nil =>
    obtain ⟨p, _, rfl, ⟨⟩⟩ := reads_cons_iff.1 h
    exact .here <| .read rfl <| .nothing ()
  | cons move others ih =>
    obtain ⟨p, mid, rfl, hmid⟩ := reads_cons_iff.1 h
    have hword : (Token.word move.keyword).isSpelled ";" = false := by cases move <;> rfl
    refine .here <| .read rfl ?_
    simp only [hword, Token.word?, Option.bind_some, Move.ofWord?_keyword]
    refine (Follows.ask _ _).seq fun _ => ?_
    -- each move takes a token, so the bound is not used up before the semicolon
    cases bound with
    | zero => cases hbound
    | succ bound => exact ih (Nat.le_of_succ_le_succ hbound) hmid

/-- What is set up is told to the agent. -/
theorem follows_setUp_grid (name : GridName)
    (h : ls.Reads [.word "grid", name.token, .mark .semicolon] rest) :
    Follows m ls rest (Execution.setUp env) (Walk.ask (env.agent.obey (.loadGrid name.text))) := by
  obtain ⟨p, _, rfl, hname⟩ := reads_cons_iff.1 h
  obtain ⟨q, _, rfl, hsemicolon⟩ := reads_cons_iff.1 hname
  obtain ⟨r, _, rfl, ⟨⟩⟩ := reads_cons_iff.1 hsemicolon
  exact .here <| .read rfl <| .read (name.gridName_eq q) <|
    (Follows.ask _ _).last fun _ => .readLast rfl

theorem follows_setUp_gems (count : Count)
    (h : ls.Reads [.word "gems", .word count.digits, .mark .semicolon] rest) :
    Follows m ls rest (Execution.setUp env) (Walk.ask (env.agent.obey (.setGems count.value))) := by
  obtain ⟨p, _, rfl, hcount⟩ := reads_cons_iff.1 h
  obtain ⟨q, _, rfl, hsemicolon⟩ := reads_cons_iff.1 hcount
  obtain ⟨r, _, rfl, ⟨⟩⟩ := reads_cons_iff.1 hsemicolon
  exact .here <| .read rfl <| .read (count.integer_eq q) <|
    (Follows.ask _ _).last fun _ => .readLast rfl

/-- A written text is printed. -/
theorem follows_print (text : String)
    (h : ls.Reads [.quoted text, .mark .semicolon] rest) :
    Follows m ls rest (Execution.print env) (Walk.print env.sink text) := by
  obtain ⟨p, _, rfl, hsemicolon⟩ := reads_cons_iff.1 h
  obtain ⟨q, _, rfl, ⟨⟩⟩ := reads_cons_iff.1 hsemicolon
  exact .read rfl <| .read rfl <| .print _ _

/-! ### Instructions with a body -/

variable {instruction : Run σ τ Unit} {mid last : Lexemes} {test : Test}
variable {walk walk' : Walk σ τ Unit}

/-- An `if` without an `else` runs its body if the test holds, and skips it otherwise. -/
theorem follows_when (htest : ls.Reads test.tokens mid) (hskip : pastBody mid = .ok () rest)
    (hyes : Follows m mid rest (Execution.body instruction) walk) (hrest : rest.NoElse) :
    Follows m ls rest (Execution.choose env instruction) (do if ← test.value env then walk) := by
  refine (test.follows htest).seq fun holds => ?_
  cases holds with
  | false => exact .read hskip <| .read hrest <| .nothing ()
  | true =>
    -- the run still looks for an `else`, which the walk knows nothing of
    exact hyes.last fun _ => .read hrest <| .nothing ()

/-- An `if` with an `else` runs one of its bodies and skips the other. -/
theorem follows_choose {p : Position} (htest : ls.Reads test.tokens mid)
    (hskip : pastBody mid = .ok () (.token p (.word "else") last))
    (hyes : Follows m mid (.token p (.word "else") last) (Execution.body instruction) walk)
    (hskip' : pastBody last = .ok () rest)
    (hno : Follows m last rest (Execution.body instruction) walk') :
    Follows m ls rest (Execution.choose env instruction)
      (do if ← test.value env then walk else walk') := by
  refine (test.follows htest).seq fun holds => ?_
  -- of the two bodies one is run, and the run passes over the other
  cases holds with
  | false => exact .read hskip <| .read (nextIs_token _ _ _ _) <| .discard rfl hno
  | true =>
    exact hyes.last fun _ => .read (nextIs_token _ _ _ _) <| .discard rfl <| .readLast hskip'

/-- A `while` asks its test before every pass, and skips its body behind the last one. -/
theorem follows_repeatWhile (htest : ls.Reads test.tokens mid) (hskip : pastBody mid = .ok () rest)
    (hbody : Follows m mid rest (Execution.body instruction) walk) :
    Follows m ls rest (Execution.repeatWhile env instruction)
      (Walk.loop (test.value env) walk env.passes) := by
  refine .here <| .loop (fun ls' => ?_) env.passes
  refine .goTo <| (test.follows htest).seq fun holds => ?_
  cases holds with
  | false => exact .read hskip <| .nothing false
  | true =>
    -- the pass has come to `rest`, from where the next one goes back to the test
    exact hbody.seq fun _ => .nothing true

/-- A `do` runs its body as often as its number says, and with 0 skips it. -/
theorem follows_repeatTimes {count : Count} {p : Position} (hskip : pastBody mid = .ok () rest)
    (hbody : Follows m mid rest (Execution.body instruction) walk) :
    Follows m (.token p (.word count.digits) mid) rest (Execution.repeatTimes instruction)
      (Walk.times walk count.value.toNat) := by
  refine .read (count.integer_eq p) <| .here ?_
  -- the body is skipped if the count is zero, and else run as many times as the walk has passes
  by_cases hzero : count.value = 0
  · rw [if_pos hzero, hzero]
    exact .readLast hskip
  · rw [if_neg hzero]
    have hpos : count.value.toNat ≠ 0 := fun h => hzero (UInt32.toNat_inj.1 h)
    obtain ⟨n, hn⟩ := Nat.exists_eq_add_one_of_ne_zero hpos
    rw [hn]
    exact .times (fun ls' => .goTo hbody) n

/-! ### Putting them together -/

/-- **Calls that follow the calls of a walk**, wherever they are written. -/
def Calls (env : Context σ τ) (m : Machine σ τ) (callee : Run σ τ Unit)
    (call : String → Walk σ τ Unit) : Prop :=
  ∀ (name : Name) {ls rest : Lexemes}, ls.Reads [.word name.text, .mark .semicolon] rest →
    Follows m ls rest (Execution.call env callee) (call name.text)

variable {callee : Run σ τ Unit} {call : String → Walk σ τ Unit}

mutual

/-- **A written instruction follows its tree.** -/
theorem Instruction.follows (i : Instruction) (hcall : Calls env m callee call) {ls rest : Lexemes}
    {nesting : Nat} (hnesting : ls.size < nesting) (hb : ls.Bare) (hn : i.Nearest)
    (hrest : i.isOpen = true → rest.NoElse) (h : ls.Reads i.tokens rest) :
    Follows m ls rest (Execution.instruction env callee nesting) (i.walk env call) := by
  -- there is a token to be read, so that the nesting is not used up
  obtain ⟨nesting, rfl⟩ := Nat.exists_eq_add_one_of_ne_zero (Nat.ne_zero_of_lt hnesting)
  match i with
  | .moves first others =>
    obtain ⟨p, mid, rfl, htail⟩ := reads_cons_iff.1 h
    refine .here <| .read rfl ?_
    have hmoves : Follows m mid rest (Execution.moves env p first)
        (tellMoves env (first :: others)) :=
      (Follows.ask _ _).seq fun _ => .here <| follows_movesUpTo (Nat.le_refl _) htail
    -- for each of the five keywords execution comes to `Execution.moves`
    cases first <;> exact hmoves
  | .when test yes =>
    obtain ⟨p, _, rfl, htail⟩ := reads_cons_iff.1 h
    obtain ⟨mid, htest, hyes⟩ := reads_append_iff.1 htail
    have hmid := htest.bare hb.2
    have hsize := htest.size_lt (Nat.lt_of_succ_lt_succ hnesting)
    -- the body is skipped or executed, and ends at the same place either way
    have hskip := yes.pastBody_of_reads hmid hn (fun _ => hrest rfl) hyes
    have hfollow := yes.follows hcall hsize hmid hn (fun _ => hrest rfl) hyes
    exact .here <| .read rfl <| follows_when htest hskip hfollow (hrest rfl)
  | .choose test yes no =>
    obtain ⟨p, _, rfl, htail⟩ := reads_cons_iff.1 h
    obtain ⟨mid, htest, hbodies⟩ := reads_append_iff.1 htail
    obtain ⟨mid', hyes, helse⟩ := reads_append_iff.1 hbodies
    obtain ⟨q, last, rfl, hno⟩ := reads_cons_iff.1 helse
    have hmid := htest.bare hb.2
    have hlast := (hyes.bare hmid).2
    have hsize := htest.size_lt (Nat.lt_of_succ_lt_succ hnesting)
    have hsize' := (Reads.cons q _ (.nil last)).size_lt (hyes.size_lt hsize)
    -- the first body is not open, so the `else` behind it is no part of it
    have hclosed : yes.isOpen = true → (Lexemes.token q (.word "else") last).NoElse :=
      fun hopen => absurd hopen (by rw [hn.1]; decide)
    have hskip := yes.pastBody_of_reads hmid hn.2.1 hclosed hyes
    have hskip' := no.pastBody_of_reads hlast hn.2.2 hrest hno
    have hfollow := yes.follows hcall hsize hmid hn.2.1 hclosed hyes
    have hfollow' := no.follows hcall hsize' hlast hn.2.2 hrest hno
    exact .here <| .read rfl <| follows_choose htest hskip hfollow hskip' hfollow'
  | .loop test body =>
    obtain ⟨p, _, rfl, htail⟩ := reads_cons_iff.1 h
    -- the body ends the instruction, so that it may be open if the instruction may
    obtain ⟨mid, htest, hbody⟩ := reads_append_iff.1 htail
    have hmid := htest.bare hb.2
    have hsize := htest.size_lt (Nat.lt_of_succ_lt_succ hnesting)
    have hskip := body.pastBody_of_reads hmid hn hrest hbody
    have hfollow := body.follows hcall hsize hmid hn hrest hbody
    exact .here <| .read rfl <| follows_repeatWhile htest hskip hfollow
  | .times count body =>
    obtain ⟨p, _, rfl, htail⟩ := reads_cons_iff.1 h
    obtain ⟨q, mid, rfl, hbody⟩ := reads_cons_iff.1 htail
    -- the count is one token, and the body is everything behind it
    have hsize := (Reads.cons q _ (.nil mid)).size_lt (Nat.lt_of_succ_lt_succ hnesting)
    have hskip := body.pastBody_of_reads hb.2.2 hn hrest hbody
    have hfollow := body.follows hcall hsize hb.2.2 hn hrest hbody
    exact .here <| .read rfl <| follows_repeatTimes hskip hfollow
  | .call name =>
    obtain ⟨p, mid, rfl, htail⟩ := reads_cons_iff.1 h
    exact .here <| .read rfl <| hcall name htail
  | .loadGrid name =>
    obtain ⟨p, mid, rfl, htail⟩ := reads_cons_iff.1 h
    exact .here <| .read rfl <| follows_setUp_grid name htail
  | .setGems count =>
    obtain ⟨p, mid, rfl, htail⟩ := reads_cons_iff.1 h
    exact .here <| .read rfl <| follows_setUp_gems count htail
  | .print text =>
    obtain ⟨p, mid, rfl, htail⟩ := reads_cons_iff.1 h
    exact .here <| .read rfl <| follows_print text htail

/-- **A written body follows its tree.** -/
theorem Body.follows (b : Body) (hcall : Calls env m callee call) {ls rest : Lexemes}
    {nesting : Nat} (hnesting : ls.size < nesting) (hb : ls.Bare) (hn : b.Nearest)
    (hrest : b.isOpen = true → rest.NoElse) (h : ls.Reads b.tokens rest) :
    Follows m ls rest (Execution.body (Execution.instruction env callee nesting))
      (b.walk env call) := by
  match b with
  | .block inside =>
    -- inside a block no `else` is asked for, since a brace closes it
    obtain ⟨p, mid, rfl, htail⟩ := reads_cons_iff.1 h
    have hsize : mid.size < nesting := Nat.lt_of_succ_lt hnesting
    have hinside := inside.follows hcall hsize (Nat.le_refl _) hb.2 hn htail
    exact .read (nextIs_token _ _ _ _) <| .read rfl <| .here hinside
  | .single i =>
    exact .read (i.nextIs_brace_of_reads h).1 <| i.follows hcall hnesting hb hn hrest h

/-- **Written instructions follow their trees**, up to the brace that closes their block. -/
theorem Sequence.follows (s : Sequence) (hcall : Calls env m callee call) {ls rest : Lexemes}
    {nesting bound : Nat} (hnesting : ls.size < nesting) (hbound : ls.size ≤ bound) (hb : ls.Bare)
    (hn : s.Nearest) (h : ls.Reads (s.tokens ++ [.mark .closeBrace]) rest) :
    Follows m ls rest (Execution.instructionsUpTo (Execution.instruction env callee nesting)
      (bound + 1)) (s.walk env call) := by
  rw [Execution.instructionsUpTo_succ]
  match s with
  | .nil =>
    obtain ⟨p, _, rfl, ⟨⟩⟩ := reads_cons_iff.1 h
    exact .read (nextIs_token _ _ _ _) <| .readLast rfl
  | .cons first others =>
    have htokens : ls.Reads (first.tokens ++ (others.tokens ++ [.mark .closeBrace])) rest := by
      rw [← List.append_assoc]
      exact h
    -- behind the first instruction stand the others, and behind those the brace
    obtain ⟨mid, hfirst, hothers⟩ := reads_append_iff.1 htokens
    obtain ⟨last, hlast, hclose⟩ := reads_append_iff.1 hothers
    obtain ⟨p, _, rfl, ⟨⟩⟩ := reads_cons_iff.1 hclose
    have helse : first.isOpen = true → mid.NoElse := fun _ => others.noElse_of_reads hlast
    refine .read (first.nextIs_brace_of_reads hfirst).2 ?_
    refine (first.follows hcall hnesting hb hn.1 helse hfirst).seq fun _ => ?_
    -- an instruction is not empty, so the bound is not used up
    have hlt := Nat.lt_of_lt_of_le (first.size_lt_of_reads hfirst) hbound
    obtain ⟨bound, rfl⟩ := Nat.exists_eq_add_one_of_ne_zero (Nat.ne_zero_of_lt hlt)
    exact others.follows hcall (hfirst.size_lt hnesting) (Nat.le_of_lt_succ hlt) (hfirst.bare hb)
      hn.2 hothers

end

end Tree

end GridScript
