import GridScript.Proofs.Script.Reading
import GridScript.Script.Skip

/-!
# What skipping skips

The bound on the nesting of instructions never shows: with the bound that skipping is given, it
takes what the grammar of instructions says. What it takes is balanced, so a block around it is
skipped by counting braces as if it was not there.

* `Lexemes.Stretch` — code between two places that closes the blocks that it opens.
* `Reading.stretch_of_pastBody` — what is skipped is such a stretch.
* `Reading.pastInstruction_bound` — bounds above what is left to be read make no difference.
* `Reading.pastBody_eq` and `Reading.pastOne_token` — skipping by the shape of the code, without a
  bound.
-/

namespace GridScript

open Reading

/-! ### Balanced code -/

namespace Token

/-- A token that neither opens nor closes a block. -/
def Plain (t : Token) : Prop :=
  t.isSpelled "\x7b" = false ∧ t.isSpelled "\x7d" = false

/-- Another spelling than a brace. -/
theorem plain_of_isSpelled {t : Token} {s : String} (h : t.isSpelled s = true)
    (hopen : s ≠ "\x7b") (hclose : s ≠ "\x7d") : t.Plain :=
  ⟨isSpelled_eq_false h hopen, isSpelled_eq_false h hclose⟩

/-- Another word than a brace. -/
theorem plain_of_word {t : Token} {w : String} (h : t.word? = some w) (hopen : w ≠ "\x7b")
    (hclose : w ≠ "\x7d") : t.Plain := by
  cases t <;> cases h
  exact ⟨beq_false_of_ne hopen, beq_false_of_ne hclose⟩

/-- A bare word is no brace. -/
theorem Bare.plain {w : String} (h : (word w).Bare) : (word w).Plain :=
  ⟨beq_false_of_ne h.2.1, beq_false_of_ne h.2.2⟩

end Token

/-- Counting braces over one token. -/
theorem Reading.pastClosingBrace_token (inner : Nat) (p : Position) (t : Token) (rest : Lexemes) :
    pastClosingBrace inner (.token p t rest) =
      if t.isSpelled "\x7b" then pastClosingBrace (inner + 1) rest
      else if t.isSpelled "\x7d" then
        match inner with
        | 0 => .ok () rest
        | inner + 1 => pastClosingBrace inner rest
      else pastClosingBrace inner rest := by
  cases inner <;> rfl

namespace Lexemes

/-- **A stretch of code**: the first place leads to the second, and between them every block that
is opened is closed, and no other. Counting braces therefore comes to the same from both. -/
structure Stretch (ls last : Lexemes) : Prop where
  reaches : ls.Reaches last
  balanced : ∀ inner, pastClosingBrace inner ls = pastClosingBrace inner last

namespace Stretch

theorem refl (ls : Lexemes) : ls.Stretch ls := ⟨.refl ls, fun _ => rfl⟩

theorem trans {ls mid last : Lexemes} (h : ls.Stretch mid) (h' : mid.Stretch last) :
    ls.Stretch last :=
  ⟨h.reaches.trans h'.reaches, fun inner => (h.balanced inner).trans (h'.balanced inner)⟩

/-- A plain token in front. -/
theorem plain {p : Position} {t : Token} {rest last : Lexemes} (ht : t.Plain)
    (h : rest.Stretch last) : (Lexemes.token p t rest).Stretch last := by
  refine ⟨.token p t h.reaches, fun inner => ?_⟩
  rw [pastClosingBrace_token, if_neg (by simp [ht.1]), if_neg (by simp [ht.2])]
  exact h.balanced inner

end Stretch

end Lexemes

namespace Reading

open Lexemes

variable {ls ls' : Lexemes}

/-- **Behind a brace that closes an outer block.** What was counted down before it counts for
every block around it. -/
theorem pastClosingBrace_add {k : Nat} (h : pastClosingBrace k ls = .ok () ls') (n : Nat) :
    ls.Reaches ls' ∧ pastClosingBrace (n + 1 + k) ls = pastClosingBrace n ls' := by
  -- the induction is on the tokens, while `k` counts the blocks that are open
  induction ls generalizing k with
  | finish p => cases h
  | misspelt p e rest _ => cases h
  | token p t rest ih =>
    rw [pastClosingBrace_token] at h ⊢
    by_cases ho : t.isSpelled "\x7b" = true
    · rw [if_pos ho] at h ⊢
      exact ⟨.token p t (ih h).1, (ih h).2⟩
    rw [if_neg ho] at h ⊢
    by_cases hc : t.isSpelled "\x7d" = true
    · rw [if_pos hc] at h ⊢
      -- the brace that is looked for, or one of a block inside
      cases k with
      | zero =>
        cases h
        exact ⟨.one p t _, rfl⟩
      | succ k => exact ⟨.token p t (ih h).1, (ih h).2⟩
    · rw [if_neg hc] at h ⊢
      exact ⟨.token p t (ih h).1, (ih h).2⟩

/-- A block is a stretch. -/
theorem stretch_of_pastBlock (h : pastBlock ls = .ok () ls') : ls.Stretch ls' := by
  simp only [pastBlock, bind_eq_ok_iff] at h
  obtain ⟨_, inside, hopen, hclose⟩ := h
  obtain ⟨p, t, rfl, ht⟩ := expect_eq_ok_iff.1 hopen
  refine ⟨.token p t (pastClosingBrace_add hclose 0).1, fun inner => ?_⟩
  rw [pastClosingBrace_token, if_pos ht]
  exact (pastClosingBrace_add hclose inner).2

/-- A flat instruction is a stretch. -/
theorem stretch_of_pastSemicolon (h : pastSemicolon ls = .ok () ls') : ls.Stretch ls' := by
  -- the semicolon ends it; braces are refused, so that all that is skipped is plain
  induction ls with
  | finish p => cases h
  | misspelt p e rest _ => cases h
  | token p t rest ih =>
    rw [pastSemicolon] at h
    by_cases hs : t.isSpelled ";" = true
    · rw [if_pos hs] at h
      cases h
      exact .plain (Token.plain_of_isSpelled hs (by decide) (by decide)) (.refl _)
    rw [if_neg hs] at h
    by_cases hb : (t.isSpelled "\x7b" || t.isSpelled "\x7d") = true
    · rw [if_pos hb] at h
      cases h
    · rw [if_neg hb] at h
      exact .plain (by simpa [Token.Plain] using hb) (ih h)

/-- A test is a stretch. -/
theorem stretch_of_test {t : Test} (h : test ls = .ok t ls') : ls.Stretch ls' := by
  obtain ⟨p, w, hw, hls⟩ := test_eq_ok h
  -- no brace names a condition
  have hword : (Token.word w).Plain := by
    constructor <;> refine beq_false_of_ne ?_ <;> rintro rfl <;> cases hw
  rcases hls with ⟨rfl, -⟩ | ⟨q, neg, rfl, -, hneg⟩
  · exact .plain hword (.refl _)
  · refine .plain ?_ (.plain hword (.refl _))
    rcases hneg with hneg | hneg <;>
      exact Token.plain_of_isSpelled hneg (by decide) (by decide)

/-- A number is a stretch. -/
theorem stretch_of_integer {n : UInt32} (h : integer ls = .ok n ls') : ls.Stretch ls' := by
  obtain ⟨p, w, rfl, hw⟩ := integer_eq_ok_iff.1 h
  refine .plain ?_ (.refl _)
  constructor <;> refine beq_false_of_ne ?_ <;> rintro rfl <;> cases hw

/-- A body is a stretch, if an instruction is. -/
theorem stretch_of_pastBodyWith {pastOne : Reading Unit}
    (hone : ∀ ls ls', pastOne ls = .ok () ls' → ls.Stretch ls')
    (h : pastBodyWith pastOne ls = .ok () ls') : ls.Stretch ls' := by
  simp only [pastBodyWith, bind_eq_ok_iff] at h
  obtain ⟨b, mid, hnext, h⟩ := h
  obtain rfl := eq_of_nextIs_eq_ok hnext
  cases b with
  | true => exact stretch_of_pastBlock h
  | false => exact hone _ _ h

/-! ### Skipping by the shape of the code -/

/-- What may follow the first body of an `if`. -/
def pastElse (pastBody : Reading Unit) : Reading Unit := do
  if ← nextIs "else" then
    discard take
    pastBody

/-- **Behind an instruction, by its first word**: three of them have a body. -/
def pastHeaded (pastBody : Reading Unit) : Option String → Reading Unit
  | some "if" => do
    discard take
    discard test
    pastBody
    pastElse pastBody
  | some "while" => do
    discard take
    discard test
    pastBody
  | some "do" => do
    discard take
    discard integer
    pastBody
  | _ => pastSemicolon

/-- An instruction that begins with none of the three words is flat. -/
theorem pastHeaded_flat {pastBody : Reading Unit} {head : Option String} (hif : head ≠ some "if")
    (hwhile : head ≠ some "while") (hdo : head ≠ some "do") :
    pastHeaded pastBody head = pastSemicolon := by
  unfold pastHeaded
  split
  · exact absurd rfl hif
  · exact absurd rfl hwhile
  · exact absurd rfl hdo
  · rfl

/-- The else part of an instruction is a stretch. -/
theorem stretch_of_pastElse {pastBody : Reading Unit}
    (hbody : ∀ a b, pastBody a = .ok () b → a.Stretch b)
    (h : pastElse pastBody ls = .ok () ls') : ls.Stretch ls' := by
  simp only [pastElse, bind_eq_ok_iff] at h
  obtain ⟨b, mid, hnext, h⟩ := h
  cases b with
  -- behind the `else` the other body follows; without it nothing has been taken
  | true =>
    obtain ⟨rfl, p, t, rest, rfl, ht⟩ := nextIs_eq_true_iff.1 hnext
    simp only [if_true, bind_eq_ok_iff, discard_eq_ok_iff, take_eq_ok_iff] at h
    obtain ⟨_, rest', ⟨_, _, heq⟩, h⟩ := h
    cases heq
    exact .plain (Token.plain_of_isSpelled ht (by decide) (by decide)) (hbody _ _ h)
  | false =>
    obtain rfl := eq_of_nextIs_eq_ok hnext
    cases h
    exact .refl _

/-- An instruction of any shape is a stretch, if a body is. -/
theorem stretch_of_pastHeaded {pastBody : Reading Unit} {t : Token} {p : Position} {rest : Lexemes}
    (hbody : ∀ a b, pastBody a = .ok () b → a.Stretch b)
    (h : pastHeaded pastBody t.word? (.token p t rest) = .ok () ls') :
    (Lexemes.token p t rest).Stretch ls' := by
  generalize hhead : t.word? = head at h
  unfold pastHeaded at h
  split at h
  · -- `if`
    simp only [bind_eq_ok_iff, discard_eq_ok_iff, take_eq_ok_iff] at h
    obtain ⟨_, _, ⟨_, _, heq⟩, _, _, ⟨c, htest⟩, _, _, hthen, helse⟩ := h
    cases heq
    exact .plain (Token.plain_of_word hhead (by decide) (by decide))
      ((stretch_of_test htest).trans ((hbody _ _ hthen).trans (stretch_of_pastElse hbody helse)))
  · -- `while`
    simp only [bind_eq_ok_iff, discard_eq_ok_iff, take_eq_ok_iff] at h
    obtain ⟨_, _, ⟨_, _, heq⟩, _, _, ⟨c, htest⟩, h⟩ := h
    cases heq
    exact .plain (Token.plain_of_word hhead (by decide) (by decide))
      ((stretch_of_test htest).trans (hbody _ _ h))
  · -- `do`
    simp only [bind_eq_ok_iff, discard_eq_ok_iff, take_eq_ok_iff] at h
    obtain ⟨_, _, ⟨_, _, heq⟩, _, _, ⟨n, hn⟩, h⟩ := h
    cases heq
    exact .plain (Token.plain_of_word hhead (by decide) (by decide))
      ((stretch_of_integer hn).trans (hbody _ _ h))
  · exact stretch_of_pastSemicolon h

/-- An instruction does not begin where there is no token. -/
theorem exists_token_of_pastInstruction {n : Nat} (h : pastInstruction n ls = .ok () ls') :
    ∃ p t rest, ls = .token p t rest := by
  cases n with
  | zero => cases h
  | succ n =>
    cases ls with
    | token p t rest => exact ⟨p, t, rest, rfl⟩
    | finish p => cases h
    | misspelt p e rest => cases h

/-- **An instruction is a stretch**, whatever the bound. -/
theorem stretch_of_pastInstruction {n : Nat} (h : pastInstruction n ls = .ok () ls') :
    ls.Stretch ls' := by
  obtain ⟨p, t, rest, rfl⟩ := exists_token_of_pastInstruction h
  -- the induction is on the bound, with any token in front at each bound
  induction n generalizing p t rest ls' with
  | zero => cases h
  | succ n ih =>
    -- the bodies are stretches by the hypothesis, since their bound is smaller
    refine stretch_of_pastHeaded ?_ (h : pastHeaded _ t.word? (.token p t rest) = .ok () ls')
    intro a b hab
    refine stretch_of_pastBodyWith ?_ hab
    intro a b hab
    obtain ⟨p, t, rest, rfl⟩ := exists_token_of_pastInstruction hab
    exact ih p t rest hab

/-! ### The bound does not show -/

/-- Skipping an instruction looks at its bodies only where they are. -/
theorem pastHeaded_congr {pastBody pastBody' : Reading Unit} {t : Token} {p : Position}
    {rest : Lexemes} (hbody : ∀ a b, pastBody a = .ok () b → a.Stretch b)
    (h : ∀ a, rest.Reaches a → pastBody a = pastBody' a) :
    pastHeaded pastBody t.word? (.token p t rest) =
      pastHeaded pastBody' t.word? (.token p t rest) := by
  -- only the head matters for what is skipped, so the token is forgotten
  generalize t.word? = head
  unfold pastHeaded
  split
  · -- `if`: the second body begins further on than the first one
    refine bind_congr_of_ok fun _ a ha => bind_congr_of_ok fun _ b hb => ?_
    obtain ⟨_, ha⟩ := discard_eq_ok_iff.1 ha
    obtain ⟨_, hb⟩ := discard_eq_ok_iff.1 hb
    cases ha
    -- the body begins behind the test, and `h` speaks of what is reached from there
    have hreach := (stretch_of_test hb).reaches
    rw [bind_apply, bind_apply, ← h b hreach]
    cases hc : pastBody b with
    -- a first body that fails ends both alike
    | error e c => rfl
    | ok _ c =>
      have hreach := hreach.trans (hbody _ _ hc).reaches
      refine bind_congr_of_ok fun more d hd => ?_
      obtain rfl := eq_of_nextIs_eq_ok hd
      cases more with
      | false => rfl
      | true =>
        -- the `else` itself is passed over before the second body begins
        refine bind_congr_of_ok fun _ e he => h e (hreach.trans ?_)
        obtain ⟨_, he⟩ := discard_eq_ok_iff.1 he
        obtain ⟨q, rfl⟩ := take_eq_ok_iff.1 he
        exact .one q _ e
  · -- `while`
    refine bind_congr_of_ok fun _ a ha => bind_congr_of_ok fun _ b hb => h b ?_
    obtain ⟨_, ha⟩ := discard_eq_ok_iff.1 ha
    obtain ⟨_, hb⟩ := discard_eq_ok_iff.1 hb
    cases ha
    exact (stretch_of_test hb).reaches
  · -- `do`
    refine bind_congr_of_ok fun _ a ha => bind_congr_of_ok fun _ b hb => h b ?_
    obtain ⟨_, ha⟩ := discard_eq_ok_iff.1 ha
    obtain ⟨_, hb⟩ := discard_eq_ok_iff.1 hb
    cases ha
    exact (stretch_of_integer hb).reaches
  · -- up to a semicolon no body is skipped at all
    rfl

/-- Skipping a body looks at an instruction only where the body is. -/
theorem pastBodyWith_congr {pastOne pastOne' : Reading Unit} (h : pastOne ls = pastOne' ls) :
    pastBodyWith pastOne ls = pastBodyWith pastOne' ls := by
  refine bind_congr_of_ok fun b mid hnext => ?_
  obtain rfl := eq_of_nextIs_eq_ok hnext
  cases b with
  | true => rfl
  | false => exact h

/-- **Any bound above what is left to be read will do.** -/
theorem pastInstruction_bound {n k : Nat} (hn : ls.size < n) (hk : ls.size < k) :
    pastInstruction n ls = pastInstruction k ls := by
  -- the induction is on the bound: a body begins further on, where less is left
  induction n generalizing k ls with
  | zero => omega
  | succ n ih =>
    obtain ⟨k, rfl⟩ : ∃ k', k = k' + 1 := ⟨k - 1, by omega⟩
    cases ls with
    -- without a token there is nothing to be skipped, whatever the bound is
    | finish p => rfl
    | misspelt p e rest => rfl
    | token p t rest =>
      have hbody : ∀ a b, pastBodyWith (pastInstruction n) a = .ok () b → a.Stretch b :=
        fun _ _ => stretch_of_pastBodyWith fun _ _ => stretch_of_pastInstruction
      refine pastHeaded_congr hbody fun a ha => pastBodyWith_congr ?_
      -- the first word has been taken, so that less is left where a body begins
      have := ha.size_le
      simp only [size] at hn hk
      exact ih (by omega) (by omega)

/-- **Behind one instruction.** -/
def pastOne : Reading Unit := fun ls => pastInstruction (ls.size + 1) ls

/-- A body is a block or one instruction. -/
theorem pastBody_eq : pastBody ls = pastBodyWith pastOne ls :=
  pastBodyWith_congr rfl

/-- **What is skipped as a body is a stretch of code.** -/
theorem stretch_of_pastBody (h : pastBody ls = .ok () ls') : ls.Stretch ls' :=
  stretch_of_pastBodyWith (fun _ _ => stretch_of_pastInstruction) h

/-- A body that begins with a brace is a block. -/
theorem pastBody_of_brace {p : Position} {t : Token} {rest : Lexemes}
    (h : t.isSpelled "\x7b" = true) : pastBody (.token p t rest) = pastBlock (.token p t rest) := by
  rw [pastBody_eq, pastBodyWith, bind_apply, nextIs_token, h]
  rfl

/-- A body that begins with no brace is an instruction. -/
theorem pastBody_of_not_brace (h : nextIs "\x7b" ls = .ok false ls) :
    pastBody ls = pastOne ls := by
  rw [pastBody_eq, pastBodyWith, bind_of_ok h]
  rfl

/-- **An instruction is skipped by its first word**, and its bodies as bodies are. -/
theorem pastOne_token (p : Position) (t : Token) (rest : Lexemes) :
    pastOne (.token p t rest) = pastHeaded pastBody t.word? (.token p t rest) := by
  have hbody : ∀ a b, pastBodyWith (pastInstruction (rest.size + 1)) a = .ok () b → a.Stretch b :=
    fun _ _ => stretch_of_pastBodyWith fun _ _ => stretch_of_pastInstruction
  refine pastHeaded_congr hbody fun a ha => pastBodyWith_congr ?_
  have := ha.size_le
  exact pastInstruction_bound (by simp only [size]; omega) (by omega)

end Reading

end GridScript
