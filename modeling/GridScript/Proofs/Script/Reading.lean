import GridScript.Proofs.Sequencing
import GridScript.Proofs.Token.Words
import GridScript.Script.Machine

/-!
# What a successful reading has read

Each reading is inverted once: where it succeeds, the tokens that it has taken stood in front. Runs
change the place where they read only by readings, so the same holds of them.

* `Reading.take_eq_ok_iff`, `Reading.expect_eq_ok_iff`, `Reading.name_eq_ok_iff` and their like —
  the tokens in front.
* `Lexemes.Reaches` — the places that can be come to by taking tokens.
* `Run.read_eq_ok_iff` — a reading of a run changes nothing but the place.
-/

namespace GridScript

/-! ### Places further on -/

namespace Lexemes

/-- **The places reached by taking tokens**, from one place to another. -/
inductive Reaches : Lexemes → Lexemes → Prop
  | refl (ls : Lexemes) : Reaches ls ls
  | token (p : Position) (t : Token) {rest last : Lexemes} (h : Reaches rest last) :
    Reaches (.token p t rest) last

namespace Reaches

theorem trans {ls mid last : Lexemes} (h : ls.Reaches mid) (h' : mid.Reaches last) :
    ls.Reaches last := by
  induction h with
  | refl ls => exact h'
  | token p t _ ih => exact .token p t (ih h')

/-- Taking one token. -/
theorem one (p : Position) (t : Token) (rest : Lexemes) : (Lexemes.token p t rest).Reaches rest :=
  .token p t (.refl rest)

/-- There is no more to be read further on. -/
theorem size_le {ls last : Lexemes} (h : ls.Reaches last) : last.size ≤ ls.size := by
  induction h with
  | refl ls => exact Nat.le_refl _
  | token p t _ ih => exact Nat.le_succ_of_le ih

/-- Tokens further on are bare too. -/
theorem bare {ls last : Lexemes} (h : ls.Reaches last) (hb : ls.Bare) : last.Bare := by
  induction h with
  | refl ls => exact hb
  | token p t _ ih => exact ih hb.2

/-- **Places of a source lead to places of the same source.** -/
theorem eq_ofPosition {ls last : Lexemes} (h : ls.Reaches last) {p : Position}
    (hls : ls = .ofPosition p) : ∃ q, last = .ofPosition q := by
  -- the induction is on the tokens between; behind each of them a position is left
  induction h generalizing p with
  | refl ls => exact ⟨p, hls⟩
  | token p' t _ ih =>
    rw [ofPosition] at hls
    split at hls
    · cases hls
    · next t' after _ =>
      injection hls with _ _ hrest
      exact ih hrest
    · cases hls

end Reaches

end Lexemes

/-! ### Inverting readings -/

namespace Reading

variable {ls ls' : Lexemes}

/-- A failed reading is no success. -/
@[simp] theorem fail_ne_ok {α : Type} {e : GrammarError} {p : Position} {a : α} :
    (fail e p : Reading α) ls ≠ .ok a ls' := by
  intro h
  cases h

theorem place_eq_ok_iff {p : Position} : place ls = .ok p ls' ↔ ls.place = p ∧ ls = ls' := by
  simp only [place, EStateM.Result.ok.injEq]

theorem take_eq_ok_iff {t : Token} : take ls = .ok t ls' ↔ ∃ p, ls = .token p t ls' := by
  cases ls with
  | finish p => simp [take]
  | token p t' rest => simp [take, and_comm]
  | misspelt p e rest => simp [take]

/-- Looking ahead moves nothing. -/
theorem eq_of_peek_eq_ok {o : Option Token} (h : peek ls = .ok o ls') : ls' = ls := by
  cases ls <;> cases h <;> rfl

theorem nextIs_eq {spelling : String} :
    nextIs spelling ls = match peek ls with
      | .ok o ls' => .ok (o.any (·.isSpelled spelling)) ls'
      | .error e ls' => .error e ls' := by
  unfold nextIs
  rw [bind_apply]
  cases peek ls <;> rfl

/-- Looking for a spelling moves nothing. -/
theorem eq_of_nextIs_eq_ok {spelling : String} {b : Bool} (h : nextIs spelling ls = .ok b ls') :
    ls' = ls := by
  rw [nextIs_eq] at h
  cases hp : peek ls with
  | ok o ls'' =>
    rw [hp] at h
    cases h
    exact eq_of_peek_eq_ok hp
  | error e ls'' =>
    rw [hp] at h
    cases h

theorem nextIs_token (spelling : String) (p : Position) (t : Token) (rest : Lexemes) :
    nextIs spelling (.token p t rest) = .ok (t.isSpelled spelling) (.token p t rest) := rfl

theorem nextIs_eq_true_iff {spelling : String} :
    nextIs spelling ls = .ok true ls' ↔
      ls' = ls ∧ ∃ p t rest, ls = .token p t rest ∧ t.isSpelled spelling = true := by
  -- only a token can be the one that is looked for
  cases ls with
  | finish p => simp [nextIs_eq, peek]
  | token p t rest =>
    rw [nextIs_token]
    constructor
    · intro h
      cases ht : t.isSpelled spelling with
      | true =>
        rw [ht] at h
        cases h
        exact ⟨rfl, p, t, rest, rfl, ht⟩
      | false =>
        rw [ht] at h
        cases h
    · rintro ⟨rfl, p', t', rest', heq, ht⟩
      cases heq
      rw [ht]
  | misspelt p e rest => simp [nextIs_eq, peek]

theorem expect_eq_ok_iff {spelling : String} {u : Unit} :
    expect spelling ls = .ok u ls' ↔ ∃ p t, ls = .token p t ls' ∧ t.isSpelled spelling = true := by
  simp only [expect, bind_eq_ok_iff, place_eq_ok_iff, take_eq_ok_iff]
  constructor
  · rintro ⟨_, _, ⟨rfl, rfl⟩, t, rest, ⟨p, rfl⟩, h⟩
    by_cases ht : t.isSpelled spelling = true
    · rw [if_pos ht] at h
      cases h
      exact ⟨p, t, rfl, ht⟩
    · rw [if_neg ht] at h
      cases h
  · rintro ⟨p, t, rfl, ht⟩
    exact ⟨_, _, ⟨rfl, rfl⟩, t, ls', ⟨p, rfl⟩, by rw [if_pos ht]; rfl⟩

theorem name_eq_ok_iff {w : String} :
    name ls = .ok w ls' ↔ ∃ p, ls = .token p (.word w) ls' ∧ isName w = true := by
  simp only [name, bind_eq_ok_iff, place_eq_ok_iff, take_eq_ok_iff]
  constructor
  · rintro ⟨_, _, ⟨rfl, rfl⟩, t, rest, ⟨p, rfl⟩, h⟩
    split at h
    · next w' =>
      by_cases hw : isName w' = true
      · rw [if_pos hw] at h
        cases h
        exact ⟨p, rfl, hw⟩
      · rw [if_neg hw] at h
        cases h
    · cases h
  · rintro ⟨p, rfl, hw⟩
    exact ⟨_, _, ⟨rfl, rfl⟩, .word w, ls', ⟨p, rfl⟩, by simp only [hw]; rfl⟩

theorem text_eq_ok_iff {s : String} : text ls = .ok s ls' ↔ ∃ p, ls = .token p (.quoted s) ls' := by
  simp only [text, bind_eq_ok_iff, place_eq_ok_iff, take_eq_ok_iff]
  constructor
  · rintro ⟨_, _, ⟨rfl, rfl⟩, t, rest, ⟨p, rfl⟩, h⟩
    split at h
    · cases h
      exact ⟨p, rfl⟩
    · cases h
  · rintro ⟨p, rfl⟩
    exact ⟨_, _, ⟨rfl, rfl⟩, .quoted s, ls', ⟨p, rfl⟩, rfl⟩

theorem gridName_eq_ok_iff {s : String} :
    gridName ls = .ok s ls' ↔
      ∃ p t, ls = .token p t ls' ∧ (t = .quoted s ∨ t = .word s) := by
  simp only [gridName, bind_eq_ok_iff, place_eq_ok_iff, take_eq_ok_iff]
  constructor
  · -- in quotes a name is what is quoted, and else it is the word
    rintro ⟨_, _, ⟨rfl, rfl⟩, t, rest, ⟨p, rfl⟩, h⟩
    split at h
    · cases h
      exact ⟨p, _, rfl, .inl rfl⟩
    · cases h
      exact ⟨p, _, rfl, .inr rfl⟩
    · cases h
  · rintro ⟨p, t, rfl, rfl | rfl⟩ <;> exact ⟨_, _, ⟨rfl, rfl⟩, _, ls', ⟨p, rfl⟩, rfl⟩

theorem integer_eq_ok_iff {n : UInt32} :
    integer ls = .ok n ls' ↔
      ∃ p w, ls = .token p (.word w) ls' ∧ Numeral.digits? w.toList = some n.toNat := by
  simp only [integer, bind_eq_ok_iff, place_eq_ok_iff, take_eq_ok_iff]
  constructor
  · rintro ⟨_, _, ⟨rfl, rfl⟩, t, rest, ⟨p, rfl⟩, h⟩
    -- there are digits, or there is no number
    cases hd : t.word?.bind fun w => (Numeral.digits? w.toList).map (w, ·) with
    | none =>
      rw [hd] at h
      cases h
    | some dk =>
      obtain ⟨digits, k⟩ := dk
      rw [hd] at h
      simp only at h
      obtain ⟨w, ht, hw⟩ := Option.bind_eq_some_iff.1 hd
      obtain ⟨k', hk, heq⟩ := Option.map_eq_some_iff.1 hw
      cases heq
      -- digits that stand for too great a number are not read either
      by_cases hlt : k < UInt32.size
      · rw [if_pos hlt] at h
        cases h
        refine ⟨p, digits, ?_, ?_⟩
        · cases t <;> cases ht
          rfl
        · rw [hk, Nat.toUInt32, UInt32.toNat_ofNat_of_lt' hlt]
      · rw [if_neg hlt] at h
        cases h
  · rintro ⟨p, w, rfl, hw⟩
    refine ⟨_, _, ⟨rfl, rfl⟩, .word w, ls', ⟨p, rfl⟩, ?_⟩
    simp only [Token.word?, Option.bind_some, hw, Option.map_some]
    rw [if_pos n.toNat_lt_size]
    simp [Nat.toUInt32]

/-- The word that spells a condition. -/
private theorem condition_eq_ok {c : Token} {negated : Bool} {p : Position} {t : Test}
    (h : (match c.word?.bind Condition.ofWord? with
      | some condition => pure ⟨condition, negated⟩
      | none => fail (.notCondition c) p : Reading Test) ls = .ok t ls') :
    ∃ w, c = .word w ∧ Condition.ofWord? w = some t.condition ∧ ls' = ls ∧ t.negated = negated := by
  -- a condition is a word, and one of those that are known
  cases hc : c.word?.bind Condition.ofWord? with
  | none =>
    rw [hc] at h
    cases h
  | some condition =>
    rw [hc] at h
    cases h
    obtain ⟨w, hw, hcond⟩ := Option.bind_eq_some_iff.1 hc
    refine ⟨w, ?_, hcond, rfl, rfl⟩
    cases c <;> cases hw
    rfl

/-- The tokens that spell a test, the negation and the condition. -/
theorem test_eq_ok {t : Test} (h : test ls = .ok t ls') :
    ∃ p w, Condition.ofWord? w = some t.condition ∧
      (ls = .token p (.word w) ls' ∧ t.negated = false ∨
        ∃ q neg, ls = .token q neg (.token p (.word w) ls') ∧ t.negated = true ∧
          (neg.isSpelled "!" = true ∨ neg.isSpelled "not" = true)) := by
  simp only [test, bind_eq_ok_iff] at h
  obtain ⟨o, mid, hpeek, h⟩ := h
  obtain rfl := eq_of_peek_eq_ok hpeek
  by_cases hneg : o.any (fun t => t.isSpelled "!" || t.isSpelled "not") = true
  · -- the negation is taken, and the condition stands behind it
    rw [if_pos hneg] at h
    simp only [bind_eq_ok_iff, discard_eq_ok_iff, place_eq_ok_iff, take_eq_ok_iff] at h
    obtain ⟨_, rest, ⟨neg, q, rfl⟩, _, _, ⟨rfl, rfl⟩, c, rest', ⟨p, rfl⟩, h⟩ := h
    obtain ⟨w, rfl, hw, rfl, hnegated⟩ := condition_eq_ok h
    cases hpeek
    exact ⟨p, w, hw, .inr ⟨q, neg, rfl, hnegated.trans hneg, by simpa using hneg⟩⟩
  · -- nothing is taken in front of the condition
    rw [if_neg hneg] at h
    simp only [bind_eq_ok_iff, place_eq_ok_iff, take_eq_ok_iff] at h
    obtain ⟨_, _, ⟨rfl, rfl⟩, c, rest', ⟨p, rfl⟩, h⟩ := h
    obtain ⟨w, rfl, hw, rfl, hnegated⟩ := condition_eq_ok h
    exact ⟨p, w, hw, .inl ⟨rfl, hnegated.trans (by simpa using hneg)⟩⟩

end Reading

/-! ### Readings of a run -/

namespace Run

variable {σ τ : Type} {m m' : Machine σ τ}

/-- **A reading changes the place and nothing else.** -/
theorem read_eq_ok_iff {α : Type} {r : Reading α} {a : α} :
    Run.read r m = .ok a m' ↔ ∃ ls, r m.lexemes = .ok a ls ∧ m' = { m with lexemes := ls } := by
  unfold Run.read
  cases r m.lexemes with
  | ok b ls =>
    simp only [EStateM.Result.ok.injEq]
    constructor
    · rintro ⟨rfl, rfl⟩
      exact ⟨ls, ⟨rfl, rfl⟩, rfl⟩
    · rintro ⟨_, ⟨rfl, rfl⟩, rfl⟩
      exact ⟨rfl, rfl⟩
  | error e ls => simp

theorem here_eq_ok_iff {ls : Lexemes} : Run.here m = .ok ls m' ↔ m.lexemes = ls ∧ m = m' := by
  simp only [Run.here, EStateM.Result.ok.injEq]

theorem goTo_eq_ok_iff {ls : Lexemes} {u : Unit} :
    Run.goTo ls m = .ok u m' ↔ m' = { m with lexemes := ls } := by
  simp only [Run.goTo, EStateM.Result.ok.injEq, true_and]
  exact eq_comm

theorem get_eq_ok_iff {s : Machine σ τ} :
    (get : Run σ τ (Machine σ τ)) m = .ok s m' ↔ m = s ∧ m = m' := by
  constructor
  · intro h
    cases h
    exact ⟨rfl, rfl⟩
  · rintro ⟨rfl, rfl⟩
    rfl

/-- The run of a mistake is no success. -/
@[simp] theorem fail_ne_ok {α : Type} {e : GrammarError} {p : Position} {a : α} :
    (Run.fail e p : Run σ τ α) m ≠ .ok a m' := by
  intro h
  cases h

/-- A request leaves the place as it is. -/
theorem lexemes_of_ask_eq_ok {α : Type} {p : Position}
    {request : EStateM (Trouble Diagnostic) σ α} {a : α}
    (h : Run.ask p request m = .ok a m') : m'.lexemes = m.lexemes := by
  unfold Run.ask at h
  split at h <;> cases h
  rfl

/-- Output leaves the place as it is. -/
theorem lexemes_of_print_eq_ok {sink : Sink τ} {line : String}
    (h : Run.print sink line m = .ok () m') : m'.lexemes = m.lexemes := by
  unfold Run.print at h
  split at h <;> cases h
  rfl

end Run

end GridScript
