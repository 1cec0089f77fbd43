import GridScript.Proofs.Script.Places
import GridScript.Proofs.Tandem

/-!
# What stands behind a block does not matter to it

The brace that closes a block is found by counting braces before the block is ever executed.
Execution counts nothing. But none of its readings gets over a closing brace except the one that
ends a block, so it does not come to the end of the block before counting does. Whatever stands
there, the same tokens are read: readings of the same block in front of different ends are compared.

* `Lexemes.Inside`, `Lexemes.AtBlock` — the same code in front of two ends, up to the brace that
  closes a block.
* `Source.HasBlock.exists_atBlock` — every block that can be skipped is such code, in front of any
  other end.
* `Failure.Beside`, `Halt.Confined` — what may be said of such code.
* `Reading.confined_take` and the others — readings inside a block, up to
  `Reading.confined_pastBody`.
-/

namespace GridScript

open Lexemes

/-! ### The same code in front of two ends -/

/-- **Places in the same code**, in front of `q` and in front of `x`. -/
def Position.Beside (q x p p' : Position) : Prop := ∃ code, p = code ++ q ∧ p' = code ++ x

/-- **The number of open blocks** behind a token, if it is `opened` in front of it. -/
def Token.level (t : Token) (opened : Nat) : Nat :=
  if t.isSpelled "\x7b" then opened + 1 else if t.isSpelled "\x7d" then opened - 1 else opened

namespace Token

variable {t : Token}

theorem level_of_open (h : t.isSpelled "\x7b" = true) (n : Nat) : t.level n = n + 1 := if_pos h

theorem level_of_close (h : t.isSpelled "\x7d" = true) (n : Nat) : t.level n = n - 1 := by
  rw [level, if_neg (by simp [isSpelled_eq_false h]), if_pos h]

theorem Plain.level (h : t.Plain) (n : Nat) : t.level n = n := by
  rw [Token.level, if_neg (by simp [h.1]), if_neg (by simp [h.2])]

/-- Blocks around the ones that are counted stay open. -/
theorem level_add (t : Token) (k n : Nat) : t.level (k + (n + 1)) = k + t.level (n + 1) := by
  unfold level
  split_ifs <;> omega

/-- A token that is read as a condition is no brace. -/
theorem Bare.plain_of_condition (h : t.Bare) {c : Condition}
    (hcondition : t.word?.bind Condition.ofWord? = some c) : t.Plain := by
  cases t with
  | word w => exact h.plain
  | _ => cases hcondition

/-- Only the mark itself ends the outermost block. -/
theorem Bare.eq_closeBrace (h : t.Bare) {n : Nat} (hlevel : t.level (n + 1) = 0) :
    t = mark .closeBrace := by
  by_cases hclose : t.isSpelled "\x7d" = true
  · cases t with
    | mark m => cases m <;> first | rfl | exact absurd hclose (by decide)
    | quoted s => cases hclose
    | word w => exact absurd (beq_iff_eq.1 hclose) h.2.2
  · rw [level, if_neg hclose] at hlevel
    split_ifs at hlevel

end Token

/-- Counting braces over one token. -/
theorem Reading.pastClosingBrace_level (inner : Nat) (p : Position) (t : Token) (rest : Lexemes) :
    pastClosingBrace inner (.token p t rest) = match t.level (inner + 1) with
      | 0 => .ok () rest
      | opened + 1 => pastClosingBrace opened rest := by
  rw [pastClosingBrace_token, Token.level]
  split_ifs <;> cases inner <;> rfl

/-- **Inside a block**, with `q` behind it in one place and `x` in the other: `opened` blocks are
open, and up to the end of the outermost of them there are not more than `left` tokens. -/
inductive Lexemes.Inside (q x : Position) : (opened left : Nat) → Lexemes → Lexemes → Prop
  | behind (left : Nat) : Inside q x 0 left (.ofPosition q) (.ofPosition x)
  | token {p p' : Position} {t : Token} {rest rest' : Lexemes} {opened left : Nat}
    (hp : Position.Beside q x p p') (ht : t.Bare)
    (h : Inside q x (t.level (opened + 1)) left rest rest') :
    Inside q x (opened + 1) (left + 1) (.token p t rest) (.token p' t rest')

namespace Lexemes.Inside

variable {q x : Position} {opened left more : Nat} {ls ls' : Lexemes}

/-- A greater bound is one, too. -/
theorem mono (h : Inside q x opened left ls ls') (hmore : left ≤ more) :
    Inside q x opened more ls ls' := by
  induction h generalizing more with
  | behind left => exact .behind more
  | token hp ht _ ih =>
    obtain ⟨more, rfl⟩ := Nat.exists_eq_add_one_of_ne_zero (Nat.ne_zero_of_lt hmore)
    exact .token hp ht (ih (Nat.le_of_succ_le_succ hmore))

/-- What is left to be read in either place is a bound. -/
theorem exists_left (h : Inside q x opened left ls ls') :
    ∃ n ≤ left, n ≤ ls.size ∧ n ≤ ls'.size ∧ Inside q x opened n ls ls' := by
  induction h with
  | behind left => exact ⟨0, Nat.zero_le _, Nat.zero_le _, Nat.zero_le _, .behind 0⟩
  | token hp ht _ ih =>
    obtain ⟨n, hleft, hsize, hsize', hinside⟩ := ih
    exact ⟨n + 1, Nat.succ_le_succ hleft, Nat.succ_le_succ hsize, Nat.succ_le_succ hsize',
      .token hp ht hinside⟩

theorem place (h : Inside q x opened left ls ls') : Position.Beside q x ls.place ls'.place := by
  cases h with
  | behind left => exact ⟨[], place_ofPosition q, place_ofPosition x⟩
  | token hp => exact hp

/-- With no block open, both are at the ends. -/
theorem eq_behind (h : Inside q x 0 left ls ls') : ls = .ofPosition q ∧ ls' = .ofPosition x := by
  cases h
  exact ⟨rfl, rfl⟩

end Lexemes.Inside

/-- **A token of such code** stands in front of any other end, if it is a mark or code follows. -/
theorem Lexemes.ofPosition_append {begun code q : Position} {t : Token}
    (h : scan (begun ++ (code ++ q)) = .ok (some (t, code ++ q)))
    (hcode : code = [] → ∃ m, t = .mark m) (x : Position) :
    ofPosition (begun ++ code ++ x) =
      .token (begun ++ code ++ x) t (.ofPosition (code ++ x)) := by
  rw [← List.append_assoc] at h
  exact ofPosition_of_token (Spelling.scan_append h hcode x)

/-- **Where counting braces leads to the end of a block**, the block is the same in front of any
other end. -/
theorem Lexemes.exists_inside {inner : Nat} {p q : Position}
    (h : Reading.pastClosingBrace inner (.ofPosition p) = .ok () (.ofPosition q)) :
    ∃ code, code ≠ [] ∧ p = code ++ q ∧ ∀ x,
      Inside q x (inner + 1) (ofPosition p).size (.ofPosition p) (.ofPosition (code ++ x)) := by
  -- behind the first token there are fewer bytes, with more blocks open or with fewer
  induction hn : p.length using Nat.strong_induction_on generalizing p inner with
  | _ n ih =>
  -- neither a misspelling nor the end of the file lets the skipping succeed
  cases hscan : scan p with
  | error e =>
    rw [ofPosition_of_misspelt hscan] at h
    cases h
  | ok o =>
    cases o with
    | none =>
      rw [ofPosition_of_end hscan] at h
      cases h
    | some r =>
      obtain ⟨t, after⟩ := r
      have hp := ofPosition_of_token hscan
      have ht : t.Bare := bare_of_scan hscan
      have hlt := scan_length_lt hscan
      obtain ⟨begun, rfl⟩ := Spelling.scan_suffix hscan
      rw [hp, Reading.pastClosingBrace_level] at h
      -- the code behind the token, and that the token does not look beyond it
      obtain ⟨code, rfl, hcode, hinside⟩ : ∃ code, after = code ++ q ∧
          (code = [] → ∃ m, t = .mark m) ∧ ∀ x, Inside q x (t.level (inner + 1))
            (ofPosition after).size (.ofPosition after) (.ofPosition (code ++ x)) := by
        generalize hlevel : t.level (inner + 1) = opened at h
        -- the token closes the last block that is open, or the skipping goes on behind it
        cases opened with
        | zero =>
          obtain rfl := ofPosition_inj (EStateM.Result.ok.inj h).2
          exact ⟨[], rfl, fun _ => ⟨_, ht.eq_closeBrace hlevel⟩, fun x => .behind _⟩
        | succ opened =>
          obtain ⟨code, hne, hafter, hinside⟩ := ih after.length (hn ▸ hlt) h rfl
          exact ⟨code, hafter, fun hnil => absurd hnil hne, hinside⟩
      refine ⟨begun ++ code, ?_, (List.append_assoc _ _ _).symm, fun x => ?_⟩
      · rintro hnil
        rw [(List.append_eq_nil_iff.1 hnil).1] at hlt
        exact absurd hlt (lt_irrefl _)
      · rw [hp, ofPosition_append hscan hcode]
        exact .token ⟨begun ++ code, by simp, rfl⟩ ht (hinside x)

/-- **In front of a block**, with `q` behind it in one place and `x` in the other. -/
inductive Lexemes.AtBlock (q x : Position) (left : Nat) : Lexemes → Lexemes → Prop
  | intro {p p' : Position} {t : Token} {rest rest' : Lexemes} (ht : t.isSpelled "\x7b" = true)
    (h : Inside q x 1 left rest rest') : AtBlock q x left (.token p t rest) (.token p' t rest')

/-- What is left to be read in either place is a bound for what is in the block. -/
theorem Lexemes.AtBlock.exists_left {q x : Position} {left : Nat} {ls ls' : Lexemes}
    (h : AtBlock q x left ls ls') :
    ∃ n ≤ left, n ≤ ls.size ∧ n ≤ ls'.size ∧ AtBlock q x n ls ls' := by
  cases h with
  | intro ht h =>
    obtain ⟨n, hleft, hsize, hsize', hinside⟩ := h.exists_left
    exact ⟨n, hleft, Nat.le_succ_of_le hsize, Nat.le_succ_of_le hsize', .intro ht hinside⟩

/-- **Every block of a source** that can be skipped is the same in front of any other end. -/
theorem Source.HasBlock.exists_atBlock {src : Source} {body : Lexemes} (h : src.HasBlock body) :
    ∃ code q, body = .ofPosition (code ++ q) ∧ code ++ q <:+ src.bytes ∧
      Reading.pastBlock body = .ok () (.ofPosition q) ∧
      ∀ x, AtBlock q x body.size body (.ofPosition (code ++ x)) := by
  obtain ⟨hplace, behind, hskip⟩ := h
  obtain ⟨q, -, rfl⟩ := (Reading.keeps_pastBlock _ hplace).of_ok hskip
  obtain ⟨p, hp, rfl⟩ := hplace
  -- the brace that opens it, and then what is inside up to the brace that closes it
  simp only [Reading.pastBlock, bind_eq_ok_iff] at hskip
  obtain ⟨_, inside, hopen, hclose⟩ := hskip
  obtain ⟨p', t, hbody, ht⟩ := Reading.expect_eq_ok_iff.1 hopen
  obtain ⟨rfl, after, hscan, rfl⟩ := ofPosition_eq_token_iff.1 hbody
  -- what the opening brace is made of is kept in front of the code
  obtain ⟨begun, rfl⟩ := Spelling.scan_suffix hscan
  obtain ⟨code, hne, rfl, hinside⟩ := exists_inside hclose
  refine ⟨begun ++ code, q, by rw [List.append_assoc], by rwa [List.append_assoc], ?_, fun x => ?_⟩
  · simp only [Reading.pastBlock, bind_eq_ok_iff]
    exact ⟨(), _, hopen, hclose⟩
  · rw [hbody, ofPosition_append hscan fun hnil => absurd hnil hne]
    exact .intro ht ((hinside x).mono (Nat.le_succ _))

/-! ### How it ends -/

/-- The number of the message about the tokens of a script, if it is about those. -/
def Failure.scriptCode? : Failure → Option Code
  | .spelling e _ => some e.code
  | .grammar e _ => some e.code
  | .refused .. | .unwritten _ => none

/-- **An end that has nothing to do with the spelling**: it is none of the messages about texts,
escapes, comments and the end of the script. -/
def Halt.Spelled (e : Halt Failure) : Prop :=
  ∀ f, e = .failed f → ∀ c ∈ f.scriptCode?, c ∉ [⟨100⟩, ⟨101⟩, ⟨102⟩, (⟨103⟩ : Code)]

/-- **Failures that say the same**, of places in the same code or of the same place. -/
inductive Failure.Beside (q x : Position) : Failure → Failure → Prop
  | same (f : Failure) : Beside q x f f
  | grammar (e : GrammarError) {p p' : Position} (h : Position.Beside q x p p') :
    Beside q x (.grammar e p) (.grammar e p')
  | refused (reason : Diagnostic) {p p' : Position} (h : Position.Beside q x p p') :
    Beside q x (.refused reason p) (.refused reason p')

/-- **Runs that end early in the same way.** -/
inductive Halt.Beside (q x : Position) : Halt Failure → Halt Failure → Prop
  | failed {f f' : Failure} (h : Failure.Beside q x f f') : Beside q x (.failed f) (.failed f')
  | aborted (a : Abort) : Beside q x (.aborted a) (.aborted a)
  | unfinished : Beside q x .unfinished .unfinished

theorem Halt.Beside.refl (q x : Position) (e : Halt Failure) : Halt.Beside q x e e := by
  cases e with
  | failed f => exact .failed (.same f)
  | aborted a => exact .aborted a
  | unfinished => exact .unfinished

/-- A script without a `main` is the only mistake of those that the grammar knows. -/
theorem Halt.spelled_grammar {e : GrammarError} (h : e ≠ .mainExpected) (p : Position) :
    Halt.Spelled (.failed (.grammar e p)) := by
  rintro _ ⟨⟩ c hc
  obtain rfl := Option.mem_some_iff.1 hc
  cases e <;> first | exact absurd rfl h | simp [GrammarError.code]

theorem Halt.spelled_of_ofTrouble (e : Trouble Diagnostic) (place : Position) :
    Halt.Spelled (Halt.ofTrouble (e.map (.refused · place))) := by
  cases e with
  | failed reason =>
    rintro _ ⟨⟩ c hc
    cases hc
  | aborted a => rintro _ ⟨⟩

/-- **Early ends of two runs of the same code**: the same, and nothing of the spelling. -/
structure Halt.Confined (q x : Position) (e e' : Halt Failure) : Prop where
  spelled : e.Spelled
  beside : Halt.Beside q x e e'

/-! ### Readings -/

namespace Reading

variable {q x : Position} {k b : Nat} {α β : Type}

/-- **Readings of the same code**, which find out nothing of what is behind it. -/
abbrev Confined (q x : Position) (P : Lexemes → Lexemes → Prop) (r r' : Reading α)
    (Q : α → α → Lexemes → Lexemes → Prop) : Prop :=
  Abreast P r r' Q fun e e' _ _ => Halt.Confined q x e e'

variable {P : Lexemes → Lexemes → Prop} {Q : α → α → Lexemes → Lexemes → Prop}

/-- A greater bound for what is left. -/
theorem Confined.looser {r r' : Reading α} {opened more : Nat}
    (h : Confined q x P r r' (Agreeing fun _ => Inside q x opened b)) (hmore : b ≤ more) :
    Confined q x P r r' (Agreeing fun _ => Inside q x opened more) :=
  h.weaken (fun _ _ h => h) fun _ _ _ _ h => ⟨h.1, h.2.mono hmore⟩

theorem confined_fail {e : GrammarError} (he : e ≠ .mainExpected) {p p' : Position}
    (hp : Position.Beside q x p p') : Confined q x P (fail e p) (fail e p') Q :=
  abreast_throw fun _ _ _ => ⟨Halt.spelled_grammar he p, .failed (.grammar e hp)⟩

/-- **A token is taken**, and it is the same. -/
theorem confined_take : Confined q x (Inside q x (k + 1) b) take take (Agreeing fun t ls ls' =>
    t.Bare ∧ Inside q x (t.level (k + 1)) (b - 1) ls ls') := by
  intro ls ls' h
  cases h with
  | token hp ht h => exact .ok ⟨rfl, ht, h⟩

/-- **A token is taken and judged**, from two places in the same code. -/
theorem confined_judge {judge : Position → Token → Reading α}
    (h : ∀ p p' t, Position.Beside q x p p' → t.Bare →
      Confined q x (Inside q x (t.level (k + 1)) b) (judge p t) (judge p' t) Q) :
    Confined q x (Inside q x (k + 1) b) (do let place ← place; let t ← take; judge place t)
      (do let place ← place; let t ← take; judge place t) Q := by
  intro ls ls' hls
  cases hls with
  | token hp ht hrest => exact h _ _ _ hp ht _ _ (hrest.mono (Nat.le_succ _))

/-- What is behind a token that is no brace is in the same block. -/
theorem confined_pure_of_plain {t : Token} (ht : t.Plain) (a : α) :
    Confined q x (Inside q x (t.level (k + 1)) b) (pure a) (pure a)
      (Agreeing fun _ => Inside q x (k + 1) b) :=
  abreast_pure fun _ _ h => ⟨rfl, ht.level (k + 1) ▸ h⟩

/-- **A spelling is expected.** How many blocks are open behind it is known from the spelling. -/
theorem confined_expect {spelling : String} {opened : Nat}
    (h : ∀ t : Token, t.isSpelled spelling = true → t.level (k + 1) = opened) :
    Confined q x (Inside q x (k + 1) b) (expect spelling) (expect spelling)
      (Agreeing fun _ => Inside q x opened b) :=
  confined_judge fun p p' t hp ht => Abreast.ite
    (fun hs => abreast_pure fun _ _ hls => ⟨rfl, h t hs ▸ hls⟩)
    fun _ => confined_fail (by simp) hp

theorem confined_semicolon : Confined q x (Inside q x (k + 1) b) (expect ";") (expect ";")
    (Agreeing fun _ => Inside q x (k + 1) b) :=
  confined_expect fun _ hs => (Token.plain_of_isSpelled hs (by decide) (by decide)).level _

theorem confined_open : Confined q x (Inside q x (k + 1) b) (expect "\x7b") (expect "\x7b")
    (Agreeing fun _ => Inside q x (k + 2) b) :=
  confined_expect fun _ hs => Token.level_of_open hs _

/-- The brace that opens the outermost block is there. -/
theorem confined_expect_atBlock : Confined q x (AtBlock q x b) (expect "\x7b") (expect "\x7b")
    (Agreeing fun _ => Inside q x 1 b) := by
  intro ls ls' h
  cases h with
  | @intro p p' t rest rest' ht h =>
    have hfirst : expect "\x7b" (.token p t rest) = .ok () rest :=
      expect_eq_ok_iff.2 ⟨p, t, rfl, ht⟩
    have hsecond : expect "\x7b" (.token p' t rest') = .ok () rest' :=
      expect_eq_ok_iff.2 ⟨p', t, rfl, ht⟩
    rw [hfirst, hsecond]
    exact .ok ⟨rfl, h⟩

theorem confined_close : Confined q x (Inside q x (k + 1) b) (expect "\x7d") (expect "\x7d")
    (Agreeing fun _ => Inside q x k b) :=
  confined_expect fun _ hs => Token.level_of_close hs _

theorem confined_name : Confined q x (Inside q x (k + 1) b) name name
    (Agreeing fun _ => Inside q x (k + 1) b) := by
  refine confined_judge fun p p' t hp ht => ?_
  cases t with
  | word w =>
    exact Abreast.ite (fun _ => confined_pure_of_plain ht.plain w) fun _ =>
      confined_fail (by simp) hp
  | _ => exact confined_fail (by simp) hp

theorem confined_integer : Confined q x (Inside q x (k + 1) b) integer integer
    (Agreeing fun _ => Inside q x (k + 1) b) := by
  refine confined_judge fun p p' t hp ht => ?_
  cases t with
  | word w =>
    split
    · exact confined_fail (by simp) hp
    · exact Abreast.ite (fun _ => confined_pure_of_plain ht.plain _) fun _ =>
        confined_fail (by simp) hp
  | _ => exact confined_fail (by simp) hp

theorem confined_text : Confined q x (Inside q x (k + 1) b) text text
    (Agreeing fun _ => Inside q x (k + 1) b) := by
  refine confined_judge fun p p' t hp ht => ?_
  cases t with
  | quoted s => exact confined_pure_of_plain ⟨rfl, rfl⟩ s
  | _ => exact confined_fail (by simp) hp

theorem confined_gridName : Confined q x (Inside q x (k + 1) b) gridName gridName
    (Agreeing fun _ => Inside q x (k + 1) b) := by
  refine confined_judge fun p p' t hp ht => ?_
  cases t with
  | quoted s => exact confined_pure_of_plain ⟨rfl, rfl⟩ s
  | word w => exact confined_pure_of_plain ht.plain w
  | mark m => exact confined_fail (by simp) hp

/-- **A token is looked at.** There is one. -/
theorem confined_peek : Confined q x (Inside q x (k + 1) b) peek peek (Agreeing fun o ls ls' =>
    Inside q x (k + 1) b ls ls' ∧ ∃ t, o = some t ∧ peek ls = .ok (some t) ls) := by
  intro ls ls' h
  cases h with
  | token hp ht h => exact .ok ⟨rfl, .token hp ht h, _, rfl, rfl⟩

theorem confined_nextIs (spelling : String) :
    Confined q x (Inside q x (k + 1) b) (nextIs spelling) (nextIs spelling)
      (Agreeing fun found ls ls' => Inside q x (k + 1) b ls ls' ∧
        (found = true → ∃ t, t.isSpelled spelling = true ∧ peek ls = .ok (some t) ls)) := by
  refine confined_peek.bind_eq fun o => abreast_pure fun ls ls' h => ⟨rfl, h.1, ?_⟩
  obtain ⟨-, t, rfl, hpeek⟩ := h
  exact fun hfound => ⟨t, hfound, hpeek⟩

/-- A token that has been looked at, and is no brace, is taken. -/
theorem confined_discard {c : Nat} (hc : b ≤ c + 1) :
    Confined q x (fun ls ls' => Inside q x (k + 1) b ls ls' ∧
        ∃ t, t.Plain ∧ peek ls = .ok (some t) ls)
      (Functor.discard take) (Functor.discard take)
      (Agreeing fun _ => Inside q x (k + 1) c) := by
  rintro ls ls' ⟨h, t, ht, hpeek⟩
  -- a plain token opens no block and closes none, so that both stay as deep as they were
  cases h with
  | token hp _ h =>
    cases hpeek
    have hrest := h.mono (Nat.le_of_succ_le_succ hc)
    rw [ht.level] at hrest
    exact .ok ⟨rfl, hrest⟩

theorem confined_test : Confined q x (Inside q x (k + 1) b) test test
    (Agreeing fun _ => Inside q x (k + 1) b) := by
  have htake := confined_discard (q := q) (x := x) (k := k) (Nat.le_succ b)
  -- the same token is next on both sides, so that both have a negation or neither has one
  refine confined_peek.bind_eq fun next => Abreast.ite
    (fun hnegated => Abreast.bind_eq (htake.weaken ?hplain fun _ _ _ _ h => h) fun _ => ?_)
    fun _ => Abreast.weaken (P := Inside q x (k + 1) b) ?_ (fun _ _ h => h.1) fun _ _ _ _ h => h
  case hplain =>
    rintro ls ls' ⟨h, t, rfl, hpeek⟩
    refine ⟨h, t, ?_, hpeek⟩
    rcases Bool.or_eq_true_iff.1 hnegated with hs | hs <;>
      exact Token.plain_of_isSpelled hs (by decide) (by decide)
  -- behind a negation the condition is read as it is without one
  all_goals
    refine confined_judge fun p p' t hp ht => ?_
    cases hcondition : t.word?.bind Condition.ofWord? with
    | none => exact confined_fail (by simp) hp
    | some condition => exact confined_pure_of_plain (ht.plain_of_condition hcondition) _

/-! Code that does not run. -/

/-- **Counting braces comes to the end of the block** that is counted, and finds no fault. -/
theorem confined_pastClosingBrace (inner : Nat) : Confined q x (Inside q x (k + inner + 1) b)
    (pastClosingBrace inner) (pastClosingBrace inner) (Agreeing fun _ => Inside q x k b) := by
  induction b generalizing inner with
  | zero =>
    -- where a block is open there is a token left, the brace that closes it at least
    intro ls ls' h
    cases h
  | succ b ih =>
    intro ls ls' h
    cases h with
    | @token _ _ t _ _ _ _ hp ht h =>
      rw [Nat.add_assoc, Token.level_add] at h
      rw [pastClosingBrace_level, pastClosingBrace_level]
      -- the token closes the last of the blocks, or leaves some open to be counted on
      generalize t.level (inner + 1) = opened at h ⊢
      cases opened with
      | zero => exact .ok ⟨rfl, h.mono (Nat.le_succ b)⟩
      | succ opened => exact (ih opened).looser (Nat.le_succ b) _ _ h

theorem confined_pastSemicolon : Confined q x (Inside q x (k + 1) b) pastSemicolon pastSemicolon
    (Agreeing fun _ => Inside q x (k + 1) b) := by
  induction b with
  | zero =>
    intro ls ls' h
    cases h
  | succ b ih =>
    intro ls ls' h
    cases h with
    | @token _ _ t _ _ _ _ hp ht h =>
      rw [pastSemicolon, pastSemicolon]
      -- the semicolon, a brace in its place, or a token to be passed over
      split_ifs with hs hbrace
      · have hplain := Token.plain_of_isSpelled hs (by decide) (by decide)
        rw [hplain.level] at h
        exact .ok ⟨rfl, h.mono (Nat.le_succ b)⟩
      · exact .error ⟨Halt.spelled_grammar (by simp) _, .failed (.grammar _ hp)⟩
      · have hplain : t.Plain := by simpa [Token.Plain] using hbrace
        rw [hplain.level] at h
        exact ih.looser (Nat.le_succ b) _ _ h

theorem confined_pastBlock : Confined q x (Inside q x (k + 1) b) pastBlock pastBlock
    (Agreeing fun _ => Inside q x (k + 1) b) :=
  confined_open.bind_eq fun _ => confined_pastClosingBrace 0

theorem confined_pastBodyWith {past : Reading Unit}
    (h : Confined q x (Inside q x (k + 1) b) past past (Agreeing fun _ => Inside q x (k + 1) b)) :
    Confined q x (Inside q x (k + 1) b) (pastBodyWith past) (pastBodyWith past)
      (Agreeing fun _ => Inside q x (k + 1) b) :=
  (confined_nextIs _).bind_eq fun _ => (Abreast.ite (fun _ => confined_pastBlock) fun _ => h).weaken
    (fun _ _ h => h.1) fun _ _ _ _ h => h

/-- What has been found to be spelled like no brace can be taken. -/
theorem confined_discard_found {spelling : String} (hopen : spelling ≠ "\x7b")
    (hclose : spelling ≠ "\x7d") :
    Confined q x (fun ls ls' => Inside q x (k + 1) b ls ls' ∧
        (true = true → ∃ t, t.isSpelled spelling = true ∧ peek ls = .ok (some t) ls))
      (Functor.discard take) (Functor.discard take) (Agreeing fun _ => Inside q x (k + 1) b) := by
  refine (confined_discard (Nat.le_succ b)).weaken ?_ fun _ _ _ _ h => h
  rintro ls ls' ⟨h, hfound⟩
  obtain ⟨t, ht, hpeek⟩ := hfound rfl
  exact ⟨h, t, Token.plain_of_isSpelled ht hopen hclose, hpeek⟩

theorem confined_pastElse {past : Reading Unit}
    (h : Confined q x (Inside q x (k + 1) b) past past (Agreeing fun _ => Inside q x (k + 1) b)) :
    Confined q x (Inside q x (k + 1) b) (pastElse past) (pastElse past)
      (Agreeing fun _ => Inside q x (k + 1) b) := by
  refine (confined_nextIs _).bind_eq fun found => ?_
  cases found with
  | true => exact (confined_discard_found (by decide) (by decide)).bind_eq fun _ => h
  | false => exact abreast_pure fun _ _ h => ⟨rfl, h.1⟩

/-- An instruction is skipped, if bodies are of which one token less is left. -/
theorem confined_pastHeaded {t : Token} (h : Confined q x (Inside q x (k + 1) b) pastBody pastBody
      (Agreeing fun _ => Inside q x (k + 1) b)) :
    Confined q x (fun ls ls' => Inside q x (k + 1) (b + 1) ls ls' ∧ peek ls = .ok (some t) ls)
      (pastHeaded pastBody t.word?) (pastHeaded pastBody t.word?)
      (Agreeing fun _ => Inside q x (k + 1) (b + 1)) := by
  -- every head is a plain word, and one token less is left behind it
  have htake (w : String) (hw : t.word? = some w) (hopen : w ≠ "\x7b") (hclose : w ≠ "\x7d") :
      Confined q x (fun ls ls' => Inside q x (k + 1) (b + 1) ls ls' ∧ peek ls = .ok (some t) ls)
        (Functor.discard take) (Functor.discard take) (Agreeing fun _ => Inside q x (k + 1) b) := by
    refine (confined_discard le_rfl).weaken ?_ fun _ _ _ _ h => h
    rintro ls ls' ⟨hls, hpeek⟩
    exact ⟨hls, t, Token.plain_of_word hw hopen hclose, hpeek⟩
  generalize hhead : t.word? = head
  rw [hhead] at htake
  unfold pastHeaded
  -- for each head the readings that follow it are confined one by one
  split
  · refine (htake "if" rfl (by decide) (by decide)).bind_eq fun _ => ?_
    refine confined_test.discard.bind_eq fun _ => h.bind_eq fun _ => ?_
    exact (confined_pastElse h).looser (Nat.le_succ b)
  · refine (htake "while" rfl (by decide) (by decide)).bind_eq fun _ => ?_
    exact confined_test.discard.bind_eq fun _ => h.looser (Nat.le_succ b)
  · refine (htake "do" rfl (by decide) (by decide)).bind_eq fun _ => ?_
    exact confined_integer.discard.bind_eq fun _ => h.looser (Nat.le_succ b)
  · exact confined_pastSemicolon.weaken (fun _ _ h => h.1) fun _ _ _ _ h => h

/-- **A body is skipped** without coming to the end of the block that it stands in. -/
theorem confined_pastBody : Confined q x (Inside q x (k + 1) b) pastBody pastBody
    (Agreeing fun _ => Inside q x (k + 1) b) := by
  -- the bound is on the tokens that are left, and a body takes one at least
  induction b with
  | zero =>
    intro ls ls' h
    cases h
  | succ b ih =>
    intro ls ls' h
    rw [pastBody_eq, pastBody_eq]
    refine confined_pastBodyWith (fun ls ls' h => ?_) ls ls' h
    cases h with
    | token hp ht h =>
      rw [pastOne_token, pastOne_token]
      exact confined_pastHeaded ih _ _ ⟨.token hp ht h, rfl⟩

end Reading

end GridScript
