import GridScript.Proofs.Script.Skipping
import GridScript.Proofs.Sequencing

/-!
# Readings come to an end

A reading is given up only where a bound is used up: on the tokens that are left, or on how deeply
the code that it skips is nested. What a reading takes is gone, so it never comes to either bound,
from whatever place it begins. And it uses nothing that could break off. So every reading succeeds
or fails.

* `Halt.IsFailure` — an end that is neither a giving up nor a breaking off.
* `Reading.Ends`, `Reading.Terminates` — readings that come to an end.
* `Reading.Advances` — readings that also go on over tokens; `Reading.ends_pastInstruction` and
  `Reading.advances_pastBody` are the ones that recur.
-/

namespace GridScript

/-- **An early end by failing**, and not by being given up or breaking off. -/
def Halt.IsFailure {ε : Type} (e : Halt ε) : Prop := ∃ f, e = .failed f

theorem Halt.IsFailure.ne_unfinished {ε : Type} {e : Halt ε} (h : e.IsFailure) :
    e ≠ .unfinished := by
  obtain ⟨f, rfl⟩ := h
  exact fun h => by cases h

theorem Halt.IsFailure.ne_aborted {ε : Type} {e : Halt ε} (h : e.IsFailure) (a : Abort) :
    e ≠ .aborted a := by
  obtain ⟨f, rfl⟩ := h
  exact fun h => by cases h

namespace Reading

variable {α β : Type} {P P' : Lexemes → Prop} {Q : α → Lexemes → Prop} {r : Reading α}

/-- **A reading that comes to an end** from where `P` holds: it succeeds, with `Q`, or it fails. -/
def Ends (P : Lexemes → Prop) (r : Reading α) (Q : α → Lexemes → Prop) : Prop :=
  ∀ ls, P ls → Settles r ls Q fun e _ => e.IsFailure

/-- **A reading that comes to an end** from everywhere. -/
def Terminates (r : Reading α) : Prop := Ends (fun _ => True) r fun _ _ => True

theorem Ends.bind {f : α → Reading β} {R : β → Lexemes → Prop} (h : Ends P r Q)
    (hf : ∀ a, Ends (Q a) (f a) R) : Ends P (r >>= f) R :=
  fun ls hP => (h ls hP).bind fun a ls' hQ => hf a ls' hQ

theorem Terminates.bind {f : α → Reading β} (h : r.Terminates) (hf : ∀ a, (f a).Terminates) :
    (r >>= f).Terminates :=
  Ends.bind h hf

/-- What is known of the success of a reading that comes to an end. -/
theorem Terminates.ends (h : r.Terminates) (hQ : ∀ ls a ls', P ls → r ls = .ok a ls' → Q a ls') :
    Ends P r Q := by
  intro ls hP
  -- it ends from anywhere, so that only where it ends has to be said
  have hend := h ls trivial
  rw [Settles] at hend ⊢
  cases hr : r ls with
  | ok a ls' => exact hQ ls a ls' hP hr
  | error e ls' =>
    rw [hr] at hend
    exact hend

theorem terminates_pure (a : α) : (pure a : Reading α).Terminates := fun _ _ => trivial

theorem terminates_fail (e : GrammarError) (p : Position) : (fail e p : Reading α).Terminates :=
  fun _ _ => ⟨_, rfl⟩

theorem terminates_peek : peek.Terminates := by
  intro ls _
  cases ls with
  | finish p => exact trivial
  | token p t rest => exact trivial
  | misspelt p e rest => exact ⟨_, rfl⟩

theorem terminates_take : take.Terminates := by
  intro ls _
  cases ls with
  | finish p => exact ⟨_, rfl⟩
  | token p t rest => exact trivial
  | misspelt p e rest => exact ⟨_, rfl⟩

/-- A token is taken and judged. -/
theorem terminates_judge {judge : Position → Token → Reading α}
    (h : ∀ p t, (judge p t).Terminates) :
    Terminates (do let place ← place; let t ← take; judge place t) :=
  have hplace : place.Terminates := fun _ _ => trivial
  hplace.bind fun p => terminates_take.bind fun t => h p t

theorem terminates_expect (spelling : String) : (expect spelling).Terminates := by
  refine terminates_judge fun p t => ?_
  split
  · exact terminates_pure _
  · exact terminates_fail _ _

theorem terminates_nextIs (spelling : String) : (nextIs spelling).Terminates :=
  terminates_peek.bind fun _ => terminates_pure _

theorem terminates_name : name.Terminates := by
  refine terminates_judge fun p t => ?_
  split
  · split
    · exact terminates_pure _
    · exact terminates_fail _ _
  · exact terminates_fail _ _

theorem terminates_integer : integer.Terminates := by
  refine terminates_judge fun p t => ?_
  split
  · exact terminates_fail _ _
  · split
    · exact terminates_pure _
    · exact terminates_fail _ _

theorem terminates_text : text.Terminates := by
  refine terminates_judge fun p t => ?_
  split
  · exact terminates_pure _
  · exact terminates_fail _ _

theorem terminates_gridName : gridName.Terminates := by
  refine terminates_judge fun p t => ?_
  split
  · exact terminates_pure _
  · exact terminates_pure _
  · exact terminates_fail _ _

theorem terminates_discard_take : (discard take).Terminates :=
  terminates_take.bind fun _ => terminates_pure _

/-- The condition behind the words of negation. -/
theorem terminates_condition (negated : Bool) : Terminates (do
    let place ← place
    let token ← take
    match token.word?.bind Condition.ofWord? with
    | some condition => return ⟨condition, negated⟩
    | none => fail (.notCondition token) place : Reading Test) := by
  refine terminates_judge fun p t => ?_
  split
  · exact terminates_pure _
  · exact terminates_fail _ _

theorem terminates_test : test.Terminates := by
  refine terminates_peek.bind fun next => ?_
  dsimp only
  split
  · exact terminates_discard_take.bind fun _ => terminates_condition _
  · exact terminates_condition _

/-! Code that does not run. -/

theorem terminates_pastClosingBrace (inner : Nat) : (pastClosingBrace inner).Terminates := by
  intro ls _
  -- over the tokens, whatever the number of open braces is
  induction ls generalizing inner with
  | finish p => cases inner <;> exact ⟨_, rfl⟩
  | misspelt p e rest _ => cases inner <;> exact ⟨_, rfl⟩
  | token p t rest ih =>
    rw [Settles, pastClosingBrace_token]
    by_cases hopen : t.isSpelled "\x7b" = true
    · rw [if_pos hopen]
      exact ih (inner + 1)
    rw [if_neg hopen]
    by_cases hclose : t.isSpelled "\x7d" = true
    · rw [if_pos hclose]
      cases inner with
      | zero => exact trivial
      | succ inner => exact ih inner
    · rw [if_neg hclose]
      exact ih inner

theorem terminates_pastSemicolon : pastSemicolon.Terminates := by
  intro ls _
  -- over the tokens; where there is none it fails, which is an end as well
  induction ls with
  | finish p => exact ⟨_, rfl⟩
  | misspelt p e rest _ => exact ⟨_, rfl⟩
  | token p t rest ih =>
    rw [Settles, pastSemicolon]
    by_cases hend : t.isSpelled ";" = true
    · rw [if_pos hend]
      exact trivial
    rw [if_neg hend]
    by_cases hbrace : (t.isSpelled "\x7b" || t.isSpelled "\x7d") = true
    · rw [if_pos hbrace]
      exact ⟨_, rfl⟩
    · rw [if_neg hbrace]
      exact ih

theorem terminates_pastBlock : pastBlock.Terminates :=
  (terminates_expect _).bind fun _ => terminates_pastClosingBrace 0

/-- **A reading that comes to an end and goes on over tokens.** -/
structure Advances (r : Reading α) : Prop where
  terminates : r.Terminates
  reaches : ∀ ls a ls', r ls = .ok a ls' → ls.Reaches ls'

/-- Where a reading that goes on over tokens begins with few of them, few are left. -/
theorem Advances.ends_size (h : r.Advances) (n : Nat) :
    Ends (fun ls => ls.size < n) r fun _ ls => ls.size < n :=
  h.terminates.ends fun ls a ls' hls hr => Nat.lt_of_le_of_lt (h.reaches ls a ls' hr).size_le hls

theorem advances_nextIs (spelling : String) : (nextIs spelling).Advances := by
  refine ⟨terminates_nextIs spelling, fun ls b ls' h => ?_⟩
  rw [eq_of_nextIs_eq_ok h]
  exact .refl ls

theorem advances_peek : peek.Advances := by
  refine ⟨terminates_peek, fun ls o ls' h => ?_⟩
  rw [eq_of_peek_eq_ok h]
  exact .refl ls

theorem advances_take : take.Advances := by
  refine ⟨terminates_take, fun ls t ls' h => ?_⟩
  obtain ⟨p, rfl⟩ := take_eq_ok_iff.1 h
  exact .one p t ls'

theorem advances_expect (spelling : String) : (expect spelling).Advances := by
  refine ⟨terminates_expect spelling, fun ls u ls' h => ?_⟩
  obtain ⟨p, t, rfl, -⟩ := expect_eq_ok_iff.1 h
  exact .one p t ls'

theorem advances_name : name.Advances := by
  refine ⟨terminates_name, fun ls w ls' h => ?_⟩
  obtain ⟨p, rfl, -⟩ := name_eq_ok_iff.1 h
  exact .one p _ ls'

theorem advances_integer : integer.Advances := by
  refine ⟨terminates_integer, fun ls n ls' h => ?_⟩
  exact (stretch_of_integer h).reaches

theorem advances_text : text.Advances := by
  refine ⟨terminates_text, fun ls s ls' h => ?_⟩
  obtain ⟨p, rfl⟩ := text_eq_ok_iff.1 h
  exact .one p _ ls'

theorem advances_gridName : gridName.Advances := by
  refine ⟨terminates_gridName, fun ls s ls' h => ?_⟩
  obtain ⟨p, t, rfl, -⟩ := gridName_eq_ok_iff.1 h
  exact .one p t ls'

theorem advances_test : test.Advances :=
  ⟨terminates_test, fun _ _ _ h => (stretch_of_test h).reaches⟩

theorem advances_pastBlock : pastBlock.Advances :=
  ⟨terminates_pastBlock, fun _ _ _ h => (stretch_of_pastBlock h).reaches⟩

/-- **An instruction is skipped within its bound**, if that is above the number of tokens left. The
first word of an instruction is gone where a body begins. -/
theorem ends_pastInstruction (n : Nat) :
    Ends (fun ls => ls.size < n) (pastInstruction n) fun _ ls => ls.size < n := by
  -- the induction is on the bound, which every body is below since a token has been taken
  induction n with
  | zero => exact fun ls hls => absurd hls (Nat.not_lt_zero _)
  | succ n ih =>
    have hbody : Ends (fun ls => ls.size < n) (pastBodyWith (pastInstruction n))
        fun _ ls => ls.size < n := by
      refine ((advances_nextIs "\x7b").ends_size n).bind fun opens => ?_
      cases opens with
      | true => exact advances_pastBlock.ends_size n
      | false => exact ih
    have hlater : Ends (fun ls => ls.size < n) (pastBodyWith (pastInstruction n))
        fun _ ls => ls.size < n + 1 :=
      fun ls hls => (hbody ls hls).weaken (fun _ _ h => Nat.lt_succ_of_lt h) fun _ _ h => h
    -- only this step lowers the bound; all others keep it
    have htake : Ends (fun ls => ls.size < n + 1) (discard take) fun _ ls => ls.size < n := by
      refine terminates_discard_take.ends fun ls u ls' hls h => ?_
      obtain ⟨t, htake⟩ := discard_eq_ok_iff.1 h
      obtain ⟨p, rfl⟩ := take_eq_ok_iff.1 htake
      exact Nat.lt_of_succ_lt_succ hls
    have hdiscard {α : Type} {r : Reading α} (h : r.Advances) :
        Ends (fun ls => ls.size < n) (discard r) fun _ ls => ls.size < n :=
      (h.ends_size n).bind fun _ _ hls => hls
    have helse : Ends (fun ls => ls.size < n) (pastElse (pastBodyWith (pastInstruction n)))
        fun _ ls => ls.size < n + 1 := by
      refine ((advances_nextIs "else").ends_size n).bind fun found => ?_
      cases found with
      | false => exact fun ls hls => Nat.lt_succ_of_lt hls
      | true => exact (hdiscard advances_take).bind fun _ => hlater
    have hflat : Ends (fun ls => ls.size < n + 1) pastSemicolon fun _ ls => ls.size < n + 1 :=
      Advances.ends_size ⟨terminates_pastSemicolon,
        fun _ _ _ h => (stretch_of_pastSemicolon h).reaches⟩ (n + 1)
    refine (advances_peek.ends_size (n + 1)).bind fun next => ?_
    change Ends _ (pastHeaded (pastBodyWith (pastInstruction n)) (next.bind Token.word?)) _
    unfold pastHeaded
    split
    · -- `if`
      exact htake.bind fun _ => (hdiscard advances_test).bind fun _ => hbody.bind fun _ => helse
    · -- `while`
      exact htake.bind fun _ => (hdiscard advances_test).bind fun _ => hlater
    · -- `do`
      exact htake.bind fun _ => (hdiscard advances_integer).bind fun _ => hlater
    · -- any other instruction
      exact hflat

/-- **Every body is skipped**, well formed or not. -/
theorem advances_pastBody : pastBody.Advances := by
  refine ⟨fun ls _ => ?_, fun _ _ _ h => (stretch_of_pastBody h).reaches⟩
  -- the bound is one more than the tokens from here on
  have hnext := (advances_nextIs "\x7b").ends_size (ls.size + 1)
  have hbody : Ends (fun ls' => ls'.size < ls.size + 1)
      (pastBodyWith (pastInstruction (ls.size + 1))) fun _ _ => True := by
    refine hnext.bind fun opens => ?_
    cases opens with
    | true => exact fun ls' _ => terminates_pastBlock ls' trivial
    | false =>
      exact fun ls' hls' => (ends_pastInstruction _ ls' hls').weaken (fun _ _ _ => trivial)
        fun _ _ h => h
  exact hbody ls (Nat.lt_succ_self _)

theorem terminates_pastBody : pastBody.Terminates := advances_pastBody.terminates

end Reading

end GridScript
