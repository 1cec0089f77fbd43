import GridScript.Proofs.Script.Skipping
import GridScript.Proofs.Script.Tree

/-!
# Written trees are skipped

A place reads some tokens if they stand there, up to another place. Where a place reads the tokens
of a tree, skipping ends behind the tree, as long as no `else` that follows could be taken for a
part of it.

* `Lexemes.Reads` — the tokens between two places.
* `Source.Renders.reads` — a rendering of a script reads its tokens up to the end.
* `Tree.Instruction.pastOne_of_reads`, `Tree.Body.pastBody_of_reads` and
  `Tree.Sequence.stretch_of_reads` — skipping what is written, by recursion on the tree.
-/

namespace GridScript

open Reading

/-! ### Tokens between two places -/

namespace Lexemes

/-- **The tokens that are read from one place to another.** -/
inductive Reads : Lexemes → List Token → Lexemes → Prop
  | nil (ls : Lexemes) : Reads ls [] ls
  | cons (p : Position) (t : Token) {ls rest : Lexemes} {ts : List Token} (h : Reads ls ts rest) :
    Reads (.token p t ls) (t :: ts) rest

variable {ls rest : Lexemes} {t : Token} {ts us : List Token}

theorem reads_nil_iff : ls.Reads [] rest ↔ ls = rest := by
  constructor
  · rintro ⟨⟩
    rfl
  · rintro rfl
    exact .nil ls

theorem reads_cons_iff :
    ls.Reads (t :: ts) rest ↔ ∃ p mid, ls = .token p t mid ∧ mid.Reads ts rest := by
  constructor
  · rintro (_ | ⟨p, _, h⟩)
    exact ⟨p, _, rfl, h⟩
  · rintro ⟨p, mid, rfl, h⟩
    exact .cons p t h

/-- **Tokens one after the other** are read by way of a place between them. -/
theorem reads_append_iff :
    ls.Reads (ts ++ us) rest ↔ ∃ mid, ls.Reads ts mid ∧ mid.Reads us rest := by
  -- the induction is on the first tokens, and the second ones are read from where these end
  induction ts generalizing ls with
  | nil =>
    constructor
    · intro h
      exact ⟨ls, .nil ls, h⟩
    · rintro ⟨mid, h, h'⟩
      cases h
      exact h'
  | cons t ts ih =>
    rw [List.cons_append, reads_cons_iff]
    constructor
    · rintro ⟨p, next, rfl, h⟩
      obtain ⟨mid, hts, hus⟩ := ih.1 h
      exact ⟨mid, .cons p t hts, hus⟩
    · rintro ⟨mid, hts, hus⟩
      obtain ⟨p, next, rfl, hnext⟩ := reads_cons_iff.1 hts
      exact ⟨p, next, rfl, ih.2 ⟨mid, hnext, hus⟩⟩

theorem Reads.reaches (h : ls.Reads ts rest) : ls.Reaches rest := by
  induction h with
  | nil ls => exact .refl ls
  | cons p t _ ih => exact .token p t ih

theorem Reads.bare (h : ls.Reads ts rest) (hb : ls.Bare) : rest.Bare := h.reaches.bare hb

/-- A listing without a misspelling reads up to the end. -/
theorem reads_of_listing (h : ls.listing.2 = none) :
    ∃ p, ls.Reads (ls.listing.1.map Prod.fst) (.finish p) := by
  induction ls with
  | finish p => exact ⟨p, .nil _⟩
  | token p t rest ih =>
    obtain ⟨q, hq⟩ := ih h
    exact ⟨q, .cons p t hq⟩
  | misspelt p e rest _ => cases h

/-- No `else` follows. -/
def NoElse (ls : Lexemes) : Prop := nextIs "else" ls = .ok false ls

/-- No `else` follows where another token stands. -/
theorem noElse_token {p : Position} (h : t.isSpelled "else" = false) :
    (Lexemes.token p t rest).NoElse := by
  rw [NoElse, nextIs_token, h]

end Lexemes

/-- **A rendering of a script** reads the tokens of the script, and then nothing. -/
theorem Source.Renders.reads {src : Source} {s : Tree.Script} (h : src.Renders s) :
    ∃ p, src.lexemes.Reads s.tokens (.finish p) :=
  h.1 ▸ Lexemes.reads_of_listing h.2

namespace Tree

open Lexemes

variable {ls rest : Lexemes}

/-! ### Readings of what is written -/

/-- Behind the negation, if there is one, a condition is read by its word. -/
private theorem test_condition (condition : Condition) (p : Position) :
    Reading.test (.token p (.word condition.keyword) rest) = .ok ⟨condition, false⟩ rest ∧
      ∀ q neg, neg = Token.mark .bang ∨ neg = Token.word "not" →
        Reading.test (.token q neg (.token p (.word condition.keyword) rest)) =
          .ok ⟨condition, true⟩ rest := by
  -- every keyword is tried against every other one, so that the cases are closed terms
  refine ⟨?_, ?_⟩
  · cases condition with
    | clear side => cases side <;> rfl
    | facing d => cases d <;> rfl
    | seesGem => rfl
    | hasGem => rfl
  · rintro q neg (rfl | rfl)
    all_goals
      cases condition with
      | clear side => cases side <;> rfl
      | facing d => cases d <;> rfl
      | seesGem => rfl
      | hasGem => rfl

/-- A written test is read. -/
theorem Test.test_of_reads {t : Test} (h : ls.Reads t.tokens rest) :
    Reading.test ls = .ok ⟨t.condition, t.negation.isSome⟩ rest := by
  obtain ⟨negation, condition⟩ := t
  -- no negation, a mark, or a word
  rcases negation with _ | _ | _
  · obtain ⟨p, _, rfl, ⟨⟩⟩ := reads_cons_iff.1 h
    exact (test_condition condition p).1
  · obtain ⟨q, _, rfl, hcond⟩ := reads_cons_iff.1 h
    obtain ⟨p, _, rfl, ⟨⟩⟩ := reads_cons_iff.1 hcond
    exact (test_condition condition p).2 q _ (.inl rfl)
  · obtain ⟨q, _, rfl, hcond⟩ := reads_cons_iff.1 h
    obtain ⟨p, _, rfl, ⟨⟩⟩ := reads_cons_iff.1 hcond
    exact (test_condition condition p).2 q _ (.inr rfl)

/-- A written number is read. -/
theorem Count.integer_eq (c : Count) (p : Position) :
    Reading.integer (.token p (.word c.digits) rest) = .ok c.value rest :=
  Reading.integer_eq_ok_iff.2 ⟨p, c.digits, rfl, c.reads⟩

/-- A written name is read. -/
theorem Name.name_eq (n : Name) (p : Position) :
    Reading.name (.token p (.word n.text) rest) = .ok n.text rest :=
  Reading.name_eq_ok_iff.2 ⟨p, rfl, n.isName⟩

/-- A written name of a grid is read. -/
theorem GridName.gridName_eq (n : GridName) (p : Position) :
    Reading.gridName (.token p n.token rest) = .ok n.text rest := by
  cases n <;> rfl

/-! ### How instructions begin -/

/-- **An instruction begins with a keyword**, which is neither `else` nor a brace. -/
theorem Instruction.tokens_eq_cons (i : Instruction) :
    ∃ w ts, i.tokens = .word w :: ts ∧ w ≠ "else" ∧ w ≠ "\x7b" ∧ w ≠ "\x7d" := by
  cases i with
  -- the keyword of a list of moves is that of its first move
  | moves first others => cases first <;> exact ⟨_, _, rfl, by decide, by decide, by decide⟩
  | _ => exact ⟨_, _, rfl, by decide, by decide, by decide⟩

/-- An instruction takes at least one token. -/
theorem Instruction.size_lt_of_reads {i : Instruction} (h : ls.Reads i.tokens rest) :
    rest.size < ls.size := by
  obtain ⟨w, ts, htokens, -⟩ := i.tokens_eq_cons
  rw [htokens] at h
  obtain ⟨p, mid, rfl, hmid⟩ := reads_cons_iff.1 h
  exact Nat.lt_succ_of_le hmid.reaches.size_le

/-- No `else` stands where an instruction begins. -/
theorem Instruction.noElse_of_reads {i : Instruction} (h : ls.Reads i.tokens rest) :
    ls.NoElse := by
  obtain ⟨w, ts, htokens, helse, -, -⟩ := i.tokens_eq_cons
  rw [htokens] at h
  obtain ⟨p, mid, rfl, -⟩ := reads_cons_iff.1 h
  exact noElse_token (beq_false_of_ne helse)

/-- No brace stands where an instruction begins. -/
theorem Instruction.nextIs_brace_of_reads {i : Instruction} (h : ls.Reads i.tokens rest) :
    nextIs "\x7b" ls = .ok false ls ∧ nextIs "\x7d" ls = .ok false ls := by
  obtain ⟨w, ts, htokens, -, hopen, hclose⟩ := i.tokens_eq_cons
  rw [htokens] at h
  obtain ⟨p, mid, rfl, -⟩ := reads_cons_iff.1 h
  have hopen' : (Token.word w).isSpelled "\x7b" = false := beq_false_of_ne hopen
  have hclose' : (Token.word w).isSpelled "\x7d" = false := beq_false_of_ne hclose
  rw [nextIs_token, nextIs_token, hopen', hclose']
  exact ⟨rfl, rfl⟩

/-- No `else` stands where an instruction of a block begins, or the brace that closes the block. -/
theorem Sequence.noElse_of_reads {s : Sequence} {p : Position} {last : Lexemes}
    (h : ls.Reads s.tokens (.token p (.mark .closeBrace) last)) : ls.NoElse := by
  cases s with
  | nil =>
    cases h
    exact noElse_token rfl
  | cons first others =>
    obtain ⟨mid, hfirst, -⟩ := reads_append_iff.1 h
    exact first.noElse_of_reads hfirst

/-! ### Skipping -/

/-- Tokens that are no marks are skipped up to the semicolon behind them. -/
theorem pastSemicolon_of_reads {ts : List Token} (hts : ∀ t ∈ ts, ∀ m, t ≠ .mark m)
    (hb : ls.Bare) (h : ls.Reads (ts ++ [.mark .semicolon]) rest) :
    pastSemicolon ls = .ok () rest := by
  -- the induction is on the tokens before the semicolon, and none of them is a mark
  induction ts generalizing ls with
  | nil =>
    obtain ⟨p, _, rfl, ⟨⟩⟩ := reads_cons_iff.1 h
    rfl
  | cons t ts ih =>
    obtain ⟨p, mid, rfl, hmid⟩ := reads_cons_iff.1 h
    have hrest := ih (fun t ht => hts t (List.mem_cons_of_mem _ ht)) hb.2 hmid
    -- a quoted text may hold a semicolon or a brace, and is none; a bare word is none either
    cases t with
    | mark m => exact absurd rfl (hts _ List.mem_cons_self m)
    | quoted s => exact hrest
    | word w =>
      have hw := hb.1
      have hs : (Token.word w).isSpelled ";" = false := beq_false_of_ne hw.1
      rw [pastSemicolon, if_neg (by simp [hs]), if_neg (by simp [hw.plain.1, hw.plain.2]), hrest]

/-- A flat instruction, its words and texts up to its semicolon, is skipped. -/
theorem pastOne_of_flat {w : String} {ts : List Token} (hif : w ≠ "if") (hwhile : w ≠ "while")
    (hdo : w ≠ "do") (hts : ∀ t ∈ ts, ∀ m, t ≠ .mark m) (hb : ls.Bare)
    (h : ls.Reads (.word w :: ts ++ [.mark .semicolon]) rest) : pastOne ls = .ok () rest := by
  have hsemicolon : pastSemicolon ls = .ok () rest := by
    -- the first word is looked past like the others
    refine pastSemicolon_of_reads ?_ hb h
    rintro t ht m rfl
    rcases List.mem_cons.1 ht with heq | ht
    · cases heq
    · exact hts _ ht m rfl
  obtain ⟨p, mid, rfl, -⟩ := reads_cons_iff.1 h
  have hflat : pastHeaded pastBody (Token.word w).word? = pastSemicolon :=
    pastHeaded_flat (fun h => hif (Option.some.inj h)) (fun h => hwhile (Option.some.inj h))
      (fun h => hdo (Option.some.inj h))
  rw [pastOne_token, hflat, hsemicolon]

/-- Without an `else` nothing more is skipped. -/
theorem pastElse_of_noElse {pastBody : Reading Unit} (h : ls.NoElse) :
    pastElse pastBody ls = .ok () ls := by
  rw [pastElse, bind_of_ok h]
  rfl

/-- Behind an `else` a body is skipped. -/
theorem pastElse_else {pastBody : Reading Unit} (p : Position) :
    pastElse pastBody (.token p (.word "else") rest) = pastBody rest := by
  rw [pastElse, bind_of_ok (nextIs_token _ _ _ _)]
  rfl

mutual

/-- **A written instruction is skipped.** -/
theorem Instruction.pastOne_of_reads (i : Instruction) {ls rest : Lexemes} (hb : ls.Bare)
    (hn : i.Nearest) (hrest : i.isOpen = true → rest.NoElse) (h : ls.Reads i.tokens rest) :
    pastOne ls = .ok () rest := by
  match i with
  | .moves first others =>
    -- a move is none of the three words that have a body
    have hkeyword : ∀ w ∈ ["if", "while", "do"], first.keyword ≠ w := by cases first <;> decide
    exact pastOne_of_flat (hkeyword _ (by simp)) (hkeyword _ (by simp)) (hkeyword _ (by simp))
      (by simp) hb h
  | .when test yes =>
    obtain ⟨p, _, rfl, htail⟩ := reads_cons_iff.1 h
    obtain ⟨mid, htest, hyes⟩ := reads_append_iff.1 htail
    -- without an `else` of its own the instruction is open, so none follows
    have hskip := yes.pastBody_of_reads (htest.bare hb.2) hn (fun _ => hrest rfl) hyes
    rw [pastOne_token]
    simp only [Token.word?, pastHeaded, discard_apply, bind_apply, take,
      Test.test_of_reads htest, hskip, pastElse_of_noElse (hrest rfl)]
  | .choose test yes no =>
    obtain ⟨p, _, rfl, htail⟩ := reads_cons_iff.1 h
    obtain ⟨mid, htest, hbodies⟩ := reads_append_iff.1 htail
    obtain ⟨mid', hyes, helse⟩ := reads_append_iff.1 hbodies
    obtain ⟨q, _, rfl, hno⟩ := reads_cons_iff.1 helse
    have hmid := htest.bare hb.2
    -- the first body is not open, so the `else` behind it is no part of it
    have hskip := yes.pastBody_of_reads hmid hn.2.1
      (fun hopen => absurd hopen (by rw [hn.1]; decide)) hyes
    have hskip' := no.pastBody_of_reads (hyes.bare hmid).2 hn.2.2 hrest hno
    rw [pastOne_token]
    simp only [Token.word?, pastHeaded, discard_apply, bind_apply, take,
      Test.test_of_reads htest, hskip, pastElse_else, hskip']
  | .loop test body =>
    obtain ⟨p, _, rfl, htail⟩ := reads_cons_iff.1 h
    obtain ⟨mid, htest, hbody⟩ := reads_append_iff.1 htail
    -- the body ends the instruction, so that it may be open if the instruction may
    have hskip := body.pastBody_of_reads (htest.bare hb.2) hn hrest hbody
    rw [pastOne_token]
    simp only [Token.word?, pastHeaded, discard_apply, bind_apply, take,
      Test.test_of_reads htest, hskip]
  | .times count body =>
    obtain ⟨p, _, rfl, htail⟩ := reads_cons_iff.1 h
    obtain ⟨q, _, rfl, hbody⟩ := reads_cons_iff.1 htail
    have hskip := body.pastBody_of_reads hb.2.2 hn hrest hbody
    rw [pastOne_token]
    simp only [Token.word?, pastHeaded, discard_apply, bind_apply, take, count.integer_eq, hskip]
  -- what is left has no body, and is passed over up to its semicolon
  | .call name =>
    have htokens : ls.Reads (.word "call" :: [.word name.text] ++ [.mark .semicolon]) rest := h
    exact pastOne_of_flat (by decide) (by decide) (by decide) (by simp) hb htokens
  | .loadGrid name =>
    have htokens : ls.Reads (.word "init" :: [.word "grid", name.token] ++ [.mark .semicolon])
        rest := h
    exact pastOne_of_flat (by decide) (by decide) (by decide)
      (by cases name <;> simp [GridName.token]) hb htokens
  | .setGems count =>
    have htokens : ls.Reads (.word "init" :: [.word "gems", .word count.digits] ++
        [.mark .semicolon]) rest := h
    exact pastOne_of_flat (by decide) (by decide) (by decide) (by simp) hb htokens
  | .print text =>
    have htokens : ls.Reads (.word "print" :: [.quoted text] ++ [.mark .semicolon]) rest := h
    exact pastOne_of_flat (by decide) (by decide) (by decide) (by simp) hb htokens

/-- **A written body is skipped.** -/
theorem Body.pastBody_of_reads (b : Body) {ls rest : Lexemes} (hb : ls.Bare)
    (hn : b.Nearest) (hrest : b.isOpen = true → rest.NoElse) (h : ls.Reads b.tokens rest) :
    pastBody ls = .ok () rest := by
  match b with
  | .block inside =>
    obtain ⟨p, _, rfl, htail⟩ := reads_cons_iff.1 h
    -- the block is its two braces and what is between them
    obtain ⟨mid, hinside, hclose⟩ := reads_append_iff.1 htail
    obtain ⟨q, _, rfl, ⟨⟩⟩ := reads_cons_iff.1 hclose
    have hstretch := inside.stretch_of_reads hb.2 hn hinside
    -- braces are counted, and those inside cancel out
    rw [pastBody_of_brace rfl]
    exact (hstretch.balanced 0).trans (pastClosingBrace_token 0 q _ rest)
  | .single i =>
    rw [pastBody_of_not_brace (i.nextIs_brace_of_reads h).1]
    exact i.pastOne_of_reads hb hn hrest h

/-- **Written instructions are a stretch of code**, up to the brace that closes their block. -/
theorem Sequence.stretch_of_reads (s : Sequence) {ls rest : Lexemes} {p : Position} (hb : ls.Bare)
    (hn : s.Nearest) (h : ls.Reads s.tokens (.token p (.mark .closeBrace) rest)) :
    ls.Stretch (.token p (.mark .closeBrace) rest) := by
  match s with
  | .nil =>
    cases h
    exact .refl _
  | .cons first others =>
    obtain ⟨mid, hfirst, hothers⟩ := reads_append_iff.1 h
    -- another instruction or the closing brace follows, in any case no `else`
    have hskip := first.pastOne_of_reads hb hn.1 (fun _ => others.noElse_of_reads hothers) hfirst
    exact (stretch_of_pastInstruction hskip).trans
      (others.stretch_of_reads (hfirst.bare hb) hn.2 hothers)

end

end Tree

end GridScript
