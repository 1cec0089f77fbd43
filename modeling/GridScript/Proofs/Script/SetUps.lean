import GridScript.Proofs.Script.Simulation
import GridScript.Script.Program

/-!
# What a script has set up

A running script tells its agent to move, at the end to stop, and what else it tells it stands word
for word in the script: behind `init`, where an instruction can begin. However often such an
instruction is executed, in whatever loop and behind whatever calls, the grids and the numbers of
gems that the agent is told of are those that are written there. So what no such command touches, a
whole run does not touch.

* `Source.setUps` — the commands that stand in a script.
* `Lexemes.OpensAt` — the places where an instruction can begin, and the readings that lead there.
* `Agent.Upholds`, `Run.Upholds` — what an agent keeps true, and what a run keeps true of it, with
  one rule for each way in which runs are put together.
* `Execution.upholds_instruction`, `Execution.upholds_blockHere` — by recursion on how deeply
  instructions and calls are nested.
* `Program.upholds_run` — a whole run.
-/

namespace GridScript

open Reading Lexemes

/-! ### What is written -/

namespace Token

/-- **A token behind which an instruction can begin**: a brace, a semicolon, an `else`, a condition,
or a number. -/
def opens (t : Token) : Bool :=
  ["\x7b", "\x7d", ";", "else"].any t.isSpelled ||
    t.word?.any fun w => (Condition.ofWord? w).isSome || (Numeral.digits? w.toList).isSome

/-- **What an instruction sets up**, if the tokens begin with one that does. -/
def setUp? : List Token → Option Command
  | .word "init" :: .word "grid" :: .quoted name :: _ => some (.loadGrid name)
  | .word "init" :: .word "grid" :: .word name :: _ => some (.loadGrid name)
  | .word "init" :: .word "gems" :: .word digits :: _ =>
    (Numeral.digits? digits.toList).map fun n => .setGems n.toUInt32
  | _ => none

/-- **Everything that is set up among tokens**, by an instruction that stands where one can begin.
-/
def setUps : List Token → List Command
  | [] => []
  | t :: ts => (if t.opens then (setUp? ts).toList else []) ++ setUps ts

theorem opens_of_isSpelled {t : Token} {s : String} (h : t.isSpelled s = true)
    (hs : s ∈ ["\x7b", "\x7d", ";", "else"]) : t.opens = true := by
  rw [opens, Bool.or_eq_true]
  exact .inl (List.any_eq_true.2 ⟨s, hs, h⟩)

theorem opens_of_condition {w : String} {c : Condition} (h : Condition.ofWord? w = some c) :
    (word w).opens = true := by
  simp [opens, word?, h]

theorem opens_of_digits {w : String} {n : Nat} (h : Numeral.digits? w.toList = some n) :
    (word w).opens = true := by
  simp [opens, word?, h]

/-- What is set up further on is set up among all. -/
theorem mem_setUps {t : Token} {ts tokens : List Token} {c : Command} (h : t :: ts <:+ tokens)
    (ht : t.opens = true) (hc : setUp? ts = some c) : c ∈ setUps tokens := by
  obtain ⟨before, rfl⟩ := h
  induction before with
  | nil =>
    rw [List.nil_append, setUps, if_pos ht, hc]
    exact List.mem_append_left _ (List.mem_singleton.2 rfl)
  | cons u before ih => exact List.mem_append_right _ ih

end Token

/-- The tokens up to the first misspelling. -/
def Lexemes.tokens (ls : Lexemes) : List Token := ls.listing.1.map Prod.fst

/-- **What the instructions of a script set up**: the grids and the numbers of gems behind `init`.
-/
def Source.setUps (src : Source) : List Command := Token.setUps src.lexemes.tokens

/-! ### Where instructions begin -/

namespace Lexemes

/-- What can be come to is listed. -/
theorem Reaches.tokens_suffix {ls last : Lexemes} (h : ls.Reaches last) :
    last.tokens <:+ ls.tokens := by
  induction h with
  | refl ls => exact List.suffix_rfl
  | token p t _ ih => exact ih.trans (List.suffix_cons t _)

/-- **A place where an instruction can begin**: it is come to over a token behind which one can. -/
def OpensAt (whole ls : Lexemes) : Prop :=
  ∃ p t, whole.Reaches (token p t ls) ∧ t.opens = true

theorem OpensAt.reaches {whole ls : Lexemes} (h : whole.OpensAt ls) : whole.Reaches ls := by
  obtain ⟨p, t, h, -⟩ := h
  exact h.trans (.one p t ls)

/-- From further on the same places are come to. -/
theorem OpensAt.of_reaches {whole mid ls : Lexemes} (h : mid.OpensAt ls)
    (hmid : whole.Reaches mid) : whole.OpensAt ls := by
  obtain ⟨p, t, h, ht⟩ := h
  exact ⟨p, t, hmid.trans h, ht⟩

/-- Over one token. -/
theorem opensAt_token {p : Position} {t : Token} {rest : Lexemes} (ht : t.opens = true) :
    (token p t rest).OpensAt rest := ⟨p, t, .refl _, ht⟩

end Lexemes

namespace Reading

variable {ls ls' : Lexemes}

theorem opensAt_of_expect {s : String} (hs : s ∈ ["\x7b", "\x7d", ";", "else"])
    (h : expect s ls = .ok () ls') : ls.OpensAt ls' := by
  obtain ⟨p, t, rfl, ht⟩ := expect_eq_ok_iff.1 h
  exact opensAt_token (Token.opens_of_isSpelled ht hs)

theorem opensAt_of_test {t : Test} (h : test ls = .ok t ls') : ls.OpensAt ls' := by
  obtain ⟨p, w, hw, hls⟩ := test_eq_ok h
  have hbehind : (Lexemes.token p (.word w) ls').OpensAt ls' :=
    opensAt_token (Token.opens_of_condition hw)
  rcases hls with ⟨rfl, -⟩ | ⟨q, neg, rfl, -, -⟩
  · exact hbehind
  · exact hbehind.of_reaches (.one q neg _)

theorem opensAt_of_integer {n : UInt32} (h : integer ls = .ok n ls') : ls.OpensAt ls' := by
  obtain ⟨p, w, rfl, hw⟩ := integer_eq_ok_iff.1 h
  exact opensAt_token (Token.opens_of_digits hw)

/-- What is skipped up to a semicolon ends behind it. -/
theorem opensAt_of_pastSemicolon (h : pastSemicolon ls = .ok () ls') : ls.OpensAt ls' := by
  -- the induction is on the tokens that are skipped, and the last of them is the semicolon
  induction ls with
  | finish p => cases h
  | misspelt p e rest _ => cases h
  | token p t rest ih =>
    rw [pastSemicolon] at h
    by_cases hs : t.isSpelled ";" = true
    · rw [if_pos hs] at h
      cases h
      exact opensAt_token (Token.opens_of_isSpelled hs (by decide))
    rw [if_neg hs] at h
    split at h
    · cases h
    · exact (ih h).of_reaches (.one p t rest)

/-- What is skipped up to a brace ends behind it. -/
theorem opensAt_of_pastClosingBrace {inner : Nat} (h : pastClosingBrace inner ls = .ok () ls') :
    ls.OpensAt ls' := by
  -- the induction is on the tokens; how many braces are open varies along the way
  induction ls generalizing inner with
  | finish p => cases h
  | misspelt p e rest _ => cases h
  | token p t rest ih =>
    rw [pastClosingBrace_token] at h
    split at h
    · exact (ih h).of_reaches (.one p t rest)
    split at h
    · next hclose =>
      cases inner with
      | zero =>
        cases h
        exact opensAt_token (Token.opens_of_isSpelled hclose (by decide))
      | succ inner => exact (ih h).of_reaches (.one p t rest)
    · exact (ih h).of_reaches (.one p t rest)

theorem opensAt_of_pastBlock (h : pastBlock ls = .ok () ls') : ls.OpensAt ls' := by
  simp only [pastBlock, bind_eq_ok_iff] at h
  obtain ⟨_, inside, hopen, hclose⟩ := h
  obtain ⟨p, t, rfl, -⟩ := expect_eq_ok_iff.1 hopen
  exact (opensAt_of_pastClosingBrace hclose).of_reaches (.one p t _)

theorem opensAt_of_pastBodyWith {pastOne : Reading Unit}
    (hone : ∀ ls ls', pastOne ls = .ok () ls' → ls.OpensAt ls')
    (h : pastBodyWith pastOne ls = .ok () ls') : ls.OpensAt ls' := by
  simp only [pastBodyWith, bind_eq_ok_iff] at h
  obtain ⟨b, mid, hnext, h⟩ := h
  obtain rfl := eq_of_nextIs_eq_ok hnext
  cases b with
  | true => exact opensAt_of_pastBlock h
  | false => exact hone _ _ h

/-- What is skipped as an instruction ends behind its last body or its semicolon. -/
theorem opensAt_of_pastHeaded {pastBody : Reading Unit} {head : Option String}
    (hstretch : ∀ a b, pastBody a = .ok () b → a.Stretch b)
    (hbody : ∀ a b, pastBody a = .ok () b → a.OpensAt b)
    (h : pastHeaded pastBody head ls = .ok () ls') : ls.OpensAt ls' := by
  -- whatever the head, the last thing that is skipped is a body or a semicolon
  unfold pastHeaded at h
  split at h
  · -- `if`, perhaps with an `else`
    simp only [bind_eq_ok_iff, discard_eq_ok_iff, take_eq_ok_iff] at h
    obtain ⟨_, a, ⟨t, p, rfl⟩, _, b, ⟨c, htest⟩, _, d, hthen, helse⟩ := h
    have hmid := (stretch_of_test htest).reaches.trans (hstretch _ _ hthen).reaches
    simp only [pastElse, bind_eq_ok_iff] at helse
    obtain ⟨found, d', hnext, helse⟩ := helse
    obtain rfl := eq_of_nextIs_eq_ok hnext
    -- the body behind the `else` is the last one, or there is none and the first one is
    cases found with
    | true =>
      simp only [if_true, bind_eq_ok_iff, discard_eq_ok_iff, take_eq_ok_iff] at helse
      obtain ⟨_, _, ⟨u, q, rfl⟩, helse⟩ := helse
      exact (hbody _ _ helse).of_reaches (.token p t (hmid.trans (.one q u _)))
    | false =>
      cases helse
      exact (hbody _ _ hthen).of_reaches (.token p t (stretch_of_test htest).reaches)
  · -- `while`
    simp only [bind_eq_ok_iff, discard_eq_ok_iff, take_eq_ok_iff] at h
    obtain ⟨_, a, ⟨t, p, rfl⟩, _, b, ⟨c, htest⟩, h⟩ := h
    exact (hbody _ _ h).of_reaches (.token p t (stretch_of_test htest).reaches)
  · -- `do`
    simp only [bind_eq_ok_iff, discard_eq_ok_iff, take_eq_ok_iff] at h
    obtain ⟨_, a, ⟨t, p, rfl⟩, _, b, ⟨n, hn⟩, h⟩ := h
    exact (hbody _ _ h).of_reaches (.token p t (stretch_of_integer hn).reaches)
  · exact opensAt_of_pastSemicolon h

theorem opensAt_of_pastInstruction {n : Nat} (h : pastInstruction n ls = .ok () ls') :
    ls.OpensAt ls' := by
  obtain ⟨p, t, rest, rfl⟩ := exists_token_of_pastInstruction h
  -- the induction is on the depth of nesting, with any instruction at each depth
  induction n generalizing p t rest ls' with
  | zero => cases h
  | succ n ih =>
    refine opensAt_of_pastHeaded (fun _ _ => stretch_of_pastBodyWith fun _ _ =>
      stretch_of_pastInstruction) ?_ (h : pastHeaded _ t.word? (.token p t rest) = .ok () ls')
    intro a b hab
    -- a body is a block or an instruction, and the induction speaks of the latter
    refine opensAt_of_pastBodyWith ?_ hab
    intro a b hab
    obtain ⟨p, t, rest, rfl⟩ := exists_token_of_pastInstruction hab
    exact ih p t rest hab

/-- **Behind a body that has been skipped** an instruction can begin. -/
theorem opensAt_of_pastBody (h : pastBody ls = .ok () ls') : ls.OpensAt ls' :=
  opensAt_of_pastBodyWith (fun _ _ => opensAt_of_pastInstruction) h

end Reading

/-! ### What a run keeps true -/

/-- **What a script may tell its agent**: to move and to stop, and to set up what is set up in it.
-/
def Lexemes.Allows (whole : Lexemes) : Command → Prop
  | .move _ | .stop => True
  | c => c ∈ Token.setUps whole.tokens

/-- An instruction that stands where one can begin sets up what the script does. -/
theorem Lexemes.OpensAt.mem_setUps {whole ls : Lexemes} {c : Command} (h : whole.OpensAt ls)
    (hc : Token.setUp? ls.tokens = some c) : c ∈ Token.setUps whole.tokens := by
  obtain ⟨p, t, hreach, ht⟩ := h
  exact Token.mem_setUps hreach.tokens_suffix ht hc

/-- **An agent that keeps something true** of its state as long as it is told only what is allowed,
whether it succeeds or fails. -/
structure Agent.Upholds {σ : Type} (agent : Agent σ) (allowed : Command → Prop) (I : σ → Prop) :
    Prop where
  obey : ∀ c s, allowed c → I s → Settles (agent.obey c) s (fun _ => I) fun _ => I
  answer : ∀ c s, I s → Settles (agent.answer c) s (fun _ => I) fun _ => I

/-- **A run within a script**: its procedures are places of the script, and its agent is as it
should be. -/
structure Machine.Within {σ τ : Type} (whole : Lexemes) (I : σ → Prop) (m : Machine σ τ) :
    Prop where
  agent : I m.agent
  procedures : ∀ name body, m.procedures.get? name = some body → whole.Reaches body

/-- **A computation that stays within a script**: begun at a place where `P` holds, it keeps `I`
true of the agent, and where it succeeds, `Q` holds of its result and the place that it has come to.
-/
def Run.Upholds {σ τ α : Type} (whole : Lexemes) (I : σ → Prop) (P : Lexemes → Prop)
    (run : Run σ τ α) (Q : α → Lexemes → Prop) : Prop :=
  ∀ m : Machine σ τ, m.Within whole I → P m.lexemes →
    Settles run m (fun a m' => m'.Within whole I ∧ Q a m'.lexemes) fun _ m' => I m'.agent

namespace Run

variable {σ τ α β : Type} {whole : Lexemes} {I : σ → Prop} {P P' : Lexemes → Prop}
variable {Q : α → Lexemes → Prop} {run : Run σ τ α}

theorem upholds_pure {a : α} (h : ∀ ls, P ls → Q a ls) : Upholds whole I P (pure a : Run σ τ α) Q :=
  fun _ hm hP => ⟨hm, h _ hP⟩

theorem upholds_throw (e : Halt Failure) : Upholds whole I P (throw e : Run σ τ α) Q :=
  fun _ hm _ => hm.agent

theorem upholds_fail (e : GrammarError) (place : Position) :
    Upholds whole I P (fail e place : Run σ τ α) Q :=
  upholds_throw _

theorem Upholds.bind {f : α → Run σ τ β} {R : β → Lexemes → Prop} (h : Upholds whole I P run Q)
    (hf : ∀ a, Upholds whole I (Q a) (f a) R) : Upholds whole I P (run >>= f) R :=
  fun m hm hP => (h m hm hP).bind fun a m' hm' => hf a m' hm'.1 hm'.2

theorem Upholds.weaken {Q' : α → Lexemes → Prop} (h : Upholds whole I P run Q)
    (hP : ∀ ls, P' ls → P ls) (hQ : ∀ a ls, Q a ls → Q' a ls) : Upholds whole I P' run Q' :=
  fun m hm hP' => (h m hm (hP _ hP')).weaken (fun a _ h => ⟨h.1, hQ a _ h.2⟩) fun _ _ h => h

/-- What need be shown only where there is a place to begin at. -/
theorem upholds_of_exists (h : (∃ ls, P ls) → Upholds whole I P run Q) : Upholds whole I P run Q :=
  fun m hm hP => h ⟨m.lexemes, hP⟩ m hm hP

/-- **A computation that looks at its state.** From each state it does what one does that need not.
-/
theorem upholds_standing (h : ∀ m : Machine σ τ, m.Within whole I → P m.lexemes →
    ∃ run', run m = run' m ∧ Upholds whole I P run' Q) : Upholds whole I P run Q := by
  intro m hm hP
  obtain ⟨run', hsame, hrun'⟩ := h m hm hP
  rw [Settles, hsame]
  exact hrun' m hm hP

theorem Upholds.ite {c : Prop} [Decidable c] {run' : Run σ τ α} (h : Upholds whole I P run Q)
    (h' : Upholds whole I P run' Q) : Upholds whole I P (if c then run else run') Q := by
  by_cases hc : c
  · simpa only [if_pos hc] using h
  · simpa only [if_neg hc] using h'

theorem upholds_read {r : Reading α} (h : ∀ ls a ls', P ls → r ls = .ok a ls' → Q a ls') :
    Upholds whole I P (read r : Run σ τ α) Q := by
  intro m hm hP
  rw [Settles, read]
  cases hr : r m.lexemes with
  | ok a ls => exact ⟨⟨hm.agent, hm.procedures⟩, h _ _ _ hP hr⟩
  | error e ls => exact hm.agent

theorem upholds_here :
    Upholds whole I P (here : Run σ τ Lexemes) fun start ls => start = ls ∧ P ls :=
  fun _ hm hP => ⟨hm, rfl, hP⟩

theorem upholds_goTo {ls : Lexemes} {R : Lexemes → Prop} (h : R ls) :
    Upholds whole I P (goTo ls : Run σ τ Unit) fun _ => R :=
  fun _ hm _ => ⟨⟨hm.agent, hm.procedures⟩, h⟩

/-- A request to the agent, which keeps true what it has to. -/
theorem upholds_ask {place : Position} {request : EStateM (Trouble Diagnostic) σ α}
    (h : ∀ s, I s → Settles request s (fun _ => I) fun _ => I) :
    Upholds whole I P (ask place request : Run σ τ α) fun _ => P := by
  intro m hm hP
  have hrequest := h m.agent hm.agent
  rw [Settles, ask]
  cases hr : request m.agent with
  | ok a s => exact ⟨⟨hrequest.of_ok hr, hm.procedures⟩, hP⟩
  | error e s => exact hrequest.of_error hr

theorem upholds_print (sink : Sink τ) (line : String) :
    Upholds whole I P (print sink line : Run σ τ Unit) fun _ => P := by
  intro m hm hP
  rw [Settles, print]
  cases sink.print line m.output with
  | ok u o => exact ⟨⟨hm.agent, hm.procedures⟩, hP⟩
  | error reason o => exact hm.agent

theorem Upholds.deeper (h : Upholds whole I P run Q) : Upholds whole I P (Run.deeper run) Q := by
  intro m hm hP
  have hrun := h { m with depth := m.depth + 1 } ⟨hm.agent, hm.procedures⟩ hP
  rw [Settles, Run.deeper]
  cases hr : run { m with depth := m.depth + 1 } with
  | ok a m' =>
    obtain ⟨hm', hQ⟩ := hrun.of_ok hr
    exact ⟨⟨hm'.agent, hm'.procedures⟩, hQ⟩
  | error e m' =>
    have hagent : I m'.agent := hrun.of_error hr
    exact hagent

/-- **The same computation several times**, each begun where the one before has led. -/
theorem Upholds.times {body : Run σ τ Unit} (h : Upholds whole I P body fun _ => P) (count : Nat) :
    Upholds whole I P (Run.times body count) fun _ => P := by
  induction count with
  | zero => exact upholds_pure fun _ hP => hP
  | succ count ih =>
    rw [Run.times_succ]
    exact h.bind fun _ => ih

/-- **A loop**, in which a pass can begin where another one has ended. -/
theorem Upholds.loop {pass : Run σ τ Bool} (h : Upholds whole I P pass fun _ => P')
    (hagain : ∀ ls, P' ls → P ls) (passes : Nat) :
    Upholds whole I P (Run.loop pass passes) fun _ => P' := by
  induction passes with
  | zero => exact upholds_throw _
  | succ passes ih =>
    rw [Run.loop_succ]
    exact h.bind fun again =>
      (ih.weaken hagain fun _ _ hQ => hQ).ite (upholds_pure fun _ hP => hP)

end Run

/-! ### Instructions -/

namespace Execution

open Run

variable {σ τ : Type} {env : Context σ τ} {whole : Lexemes} {I : σ → Prop}
variable (h : env.agent.Upholds whole.Allows I)

include h

theorem upholds_tell {P : Lexemes → Prop} {c : Command} (place : Position) (hc : whole.Allows c) :
    Upholds whole I P (tell env place c) fun _ => P :=
  upholds_ask fun s => h.obey c s hc

theorem upholds_test : Upholds whole I whole.Reaches (test env) fun _ => whole.OpensAt := by
  refine upholds_here.bind fun start => ?_
  refine (upholds_read (Q := fun _ => whole.OpensAt) fun ls t ls' hP ht => ?_).bind fun t => ?_
  · exact (opensAt_of_test ht).of_reaches hP.2
  · exact (upholds_ask fun s => h.answer _ s).bind fun value => upholds_pure fun _ hP => hP

theorem upholds_movesUpTo (bound : Nat) :
    Upholds whole I whole.Reaches (movesUpTo env bound) fun _ => whole.OpensAt := by
  induction bound with
  | zero => exact upholds_throw _
  | succ bound ih =>
    refine upholds_here.bind fun start => ?_
    -- the first move has been read already, and stands where an instruction may
    refine (upholds_read (Q := fun t ls => ∃ p, whole.Reaches (.token p t ls))
      fun ls t ls' hP ht => ?_).bind fun token => ?_
    · obtain ⟨p, rfl⟩ := take_eq_ok_iff.1 ht
      exact ⟨p, hP.2⟩
    · -- the moves end with a semicolon, or the next one is told to the agent
      by_cases hs : token.isSpelled ";" = true
      · simp only [if_pos hs]
        refine upholds_pure ?_
        rintro ls ⟨p, hreach⟩
        exact ⟨p, token, hreach, Token.opens_of_isSpelled hs (by decide)⟩
      · simp only [if_neg hs]
        cases token.word?.bind Move.ofWord? with
        | none => exact upholds_fail _ _
        | some m =>
          -- to move is allowed whatever the source sets up
          have hmove : whole.Allows (.move m) := trivial
          refine ((upholds_tell h start.place hmove).bind fun _ => ih).weaken ?_ fun _ _ hQ => hQ
          rintro ls ⟨p, hreach⟩
          exact hreach.trans (.one p token ls)

theorem upholds_moves (place : Position) (first : Move) :
    Upholds whole I whole.Reaches (moves env place first) fun _ => whole.OpensAt := by
  have hmove : whole.Allows (.move first) := trivial
  refine (upholds_tell h place hmove).bind fun _ => upholds_here.bind fun rest => ?_
  exact (upholds_movesUpTo h _).weaken (fun _ hP => hP.2) fun _ _ hQ => hQ

omit h in
/-- The semicolon at the end of an instruction. -/
theorem upholds_semicolon :
    Upholds whole I whole.Reaches (read (.expect ";") : Run σ τ Unit) fun _ => whole.OpensAt :=
  upholds_read fun _ _ _ hP hexpect => (opensAt_of_expect (by decide) hexpect).of_reaches hP

/-- **What is set up is written there**: the words behind `init` are those of the command. -/
theorem upholds_setUp :
    Upholds whole I (fun ls => ∃ p, whole.OpensAt (.token p (.word "init") ls)) (setUp env)
      fun _ => whole.OpensAt := by
  refine upholds_here.bind fun start => ?_
  refine (upholds_read (Q := fun t ls => ∃ p q, whole.OpensAt (.token p (.word "init")
    (.token q t ls))) fun ls t ls' hP ht => ?_).bind fun target => ?_
  · obtain ⟨q, rfl⟩ := take_eq_ok_iff.1 ht
    obtain ⟨-, p, hopens⟩ := hP
    exact ⟨p, q, hopens⟩
  -- behind a name or a number that has been read stands the end of the instruction
  have htell {c : Command} (hc : c ∈ Token.setUps whole.tokens → whole.Allows c) :
      Upholds whole I (fun ls => c ∈ Token.setUps whole.tokens ∧ whole.Reaches ls)
        (do tell env start.place c; .read (.expect ";")) fun _ => whole.OpensAt := by
    refine upholds_of_exists fun ⟨_, hmem, _⟩ => ?_
    refine ((upholds_tell h start.place (hc hmem)).bind fun _ => ?_)
    exact upholds_semicolon.weaken (fun _ hP => hP.2) fun _ _ hQ => hQ
  -- a grid is set up by a name, gems by a number, and nothing else is set up
  split
  · next hword =>
    obtain rfl : target = .word "grid" := by cases target <;> cases hword; rfl
    refine (upholds_read fun ls name ls' hP hname => ?_).bind fun name =>
      htell (c := .loadGrid name) id
    obtain ⟨p, q, hopens⟩ := hP
    obtain ⟨r, t, rfl, ht⟩ := gridName_eq_ok_iff.1 hname
    refine ⟨hopens.mem_setUps ?_,
      hopens.reaches.trans (.token p _ (.token q _ (.one r t ls')))⟩
    -- the name is read as it is listed, in quotes or not
    rcases ht with rfl | rfl <;> rfl
  · next hword =>
    obtain rfl : target = .word "gems" := by cases target <;> cases hword; rfl
    refine (upholds_read fun ls n ls' hP hn => ?_).bind fun n => htell (c := .setGems n) id
    obtain ⟨p, q, hopens⟩ := hP
    obtain ⟨r, w, rfl, hw⟩ := integer_eq_ok_iff.1 hn
    refine ⟨hopens.mem_setUps ?_,
      hopens.reaches.trans (.token p _ (.token q _ (.one r _ ls')))⟩
    -- the number is read as it is listed, since it fits
    change (Numeral.digits? w.toList).map _ = _
    rw [hw, Option.map_some, Nat.toUInt32, UInt32.ofNat_toNat]
  · exact (upholds_fail _ _).bind fun _ => upholds_semicolon

omit h in
theorem upholds_print :
    Upholds whole I whole.Reaches (print env) fun _ => whole.OpensAt := by
  refine (upholds_read (Q := fun _ => whole.Reaches) fun ls s ls' hP hs => ?_).bind fun text => ?_
  · obtain ⟨p, rfl⟩ := text_eq_ok_iff.1 hs
    exact hP.trans (.one p _ ls')
  · exact upholds_semicolon.bind fun _ => Run.upholds_print env.sink text

/-! What instructions are made into, from what the instructions are. -/

section Bodies

variable {instruction : Run σ τ Unit}

omit h in
theorem upholds_instructionsUpTo
    (hi : Upholds whole I whole.OpensAt instruction fun _ => whole.OpensAt) (bound : Nat) :
    Upholds whole I whole.OpensAt (instructionsUpTo instruction bound) fun _ => whole.OpensAt := by
  induction bound with
  | zero => exact upholds_throw _
  | succ bound ih =>
    rw [instructionsUpTo_succ]
    refine (upholds_read (Q := fun _ => whole.OpensAt) fun ls b ls' hP hb => ?_).bind
      fun closed => ?_
    · -- looking for the brace does not move
      rwa [eq_of_nextIs_eq_ok hb]
    · -- the closing brace is a token behind which an instruction may stand, too
      refine Upholds.ite (upholds_read fun ls u ls' hP hu => ?_) (hi.bind fun _ => ih)
      exact (opensAt_of_expect (by decide) hu).of_reaches hP.reaches

omit h in
theorem upholds_block (hi : Upholds whole I whole.OpensAt instruction fun _ => whole.OpensAt) :
    Upholds whole I whole.Reaches (block instruction) fun _ => whole.OpensAt := by
  refine (upholds_read (Q := fun _ => whole.OpensAt) fun ls u ls' hP hu => ?_).bind fun _ => ?_
  · exact (opensAt_of_expect (by decide) hu).of_reaches hP
  · refine upholds_here.bind fun rest => ?_
    exact (upholds_instructionsUpTo hi _).weaken (fun _ hP => hP.2) fun _ _ hQ => hQ

omit h in
theorem upholds_body (hi : Upholds whole I whole.OpensAt instruction fun _ => whole.OpensAt) :
    Upholds whole I whole.OpensAt (body instruction) fun _ => whole.OpensAt := by
  refine (upholds_read (Q := fun _ => whole.OpensAt) fun ls b ls' hP hb => ?_).bind fun braced => ?_
  · rwa [eq_of_nextIs_eq_ok hb]
  · exact ((upholds_block hi).weaken (fun _ hP => hP.reaches) fun _ _ hQ => hQ).ite hi

omit h in
theorem upholds_pastBody :
    Upholds whole I whole.OpensAt (read .pastBody : Run σ τ Unit) fun _ => whole.OpensAt :=
  upholds_read fun _ _ _ hP hskip => (opensAt_of_pastBody hskip).of_reaches hP.reaches

theorem upholds_choose (hi : Upholds whole I whole.OpensAt instruction fun _ => whole.OpensAt) :
    Upholds whole I whole.Reaches (choose env instruction) fun _ => whole.OpensAt := by
  refine (upholds_test h).bind fun holds => ?_
  -- the first body is run or skipped, and an instruction may stand behind it in either case
  have hfirst : Upholds whole I whole.OpensAt
      (if holds = true then body instruction else read .pastBody : Run σ τ Unit)
      fun _ => whole.OpensAt := (upholds_body hi).ite upholds_pastBody
  have helse : Upholds whole I whole.OpensAt (do
      if ← .read (.nextIs "else") then
        discard <| .read .take
        if holds then .read .pastBody else body instruction : Run σ τ Unit)
      fun _ => whole.OpensAt := by
    refine (upholds_read (Q := fun b ls => whole.OpensAt ls ∧ (b = true →
      ∃ p t rest, ls = .token p t rest ∧ t.isSpelled "else" = true))
      fun ls b ls' hP hb => ?_).bind fun found => ?_
    · -- whether there is an `else` is only looked at
      obtain rfl := eq_of_nextIs_eq_ok hb
      refine ⟨hP, ?_⟩
      rintro rfl
      exact (nextIs_eq_true_iff.1 hb).2
    · cases found with
      | false => exact upholds_pure fun _ hP => hP.1
      | true =>
        -- behind the `else` stands another body
        have htake : Upholds whole I
            (fun ls => whole.OpensAt ls ∧ (true = true →
              ∃ p t rest, ls = .token p t rest ∧ t.isSpelled "else" = true))
            (discard <| .read .take : Run σ τ Unit) fun _ => whole.OpensAt := by
          refine (upholds_read (Q := fun _ => whole.OpensAt) fun ls t ls' hP ht => ?_).bind
            fun _ => upholds_pure fun _ hQ => hQ
          obtain ⟨p, u, rest, rfl, hu⟩ := hP.2 rfl
          cases ht
          exact ⟨p, t, hP.1.reaches, Token.opens_of_isSpelled hu (by decide)⟩
        exact htake.bind fun _ => upholds_pastBody.ite (upholds_body hi)
  -- the condition decides which of the two bodies is run, and it is settled before both
  by_cases hholds : holds = true
  · simp only [if_pos hholds] at hfirst helse ⊢
    exact hfirst.bind fun _ => helse
  · simp only [if_neg hholds] at hfirst helse ⊢
    exact hfirst.bind fun _ => helse

/-- Every pass goes back to where the test stands. -/
theorem upholds_repeatWhile
    (hi : Upholds whole I whole.OpensAt instruction fun _ => whole.OpensAt) :
    Upholds whole I whole.Reaches (repeatWhile env instruction) fun _ => whole.OpensAt := by
  refine upholds_here.bind fun start => upholds_of_exists ?_
  rintro ⟨_, rfl, hstart⟩
  -- every pass goes back to the same place, where the test stands
  have hpass : Upholds whole I whole.Reaches (do
      .goTo start
      if ← test env then
        body instruction
        return true
      else
        .read .pastBody
        return false : Run σ τ Bool) fun _ => whole.OpensAt := by
    refine (upholds_goTo hstart).bind fun _ => (upholds_test h).bind fun holds => ?_
    refine Upholds.ite ?_ ?_
    · -- a body that has been run or skipped ends the pass where an instruction may stand
      exact (upholds_body hi).bind fun _ => upholds_pure fun _ hQ => hQ
    · exact upholds_pastBody.bind fun _ => upholds_pure fun _ hQ => hQ
  exact (hpass.loop (fun _ hP => hP.reaches) env.passes).weaken (fun _ hP => hP.2) fun _ _ hQ => hQ

omit h in
theorem upholds_repeatTimes
    (hi : Upholds whole I whole.OpensAt instruction fun _ => whole.OpensAt) :
    Upholds whole I whole.Reaches (repeatTimes instruction) fun _ => whole.OpensAt := by
  refine (upholds_read (Q := fun _ => whole.OpensAt) fun ls n ls' hP hn => ?_).bind fun count => ?_
  · exact (opensAt_of_integer hn).of_reaches hP
  refine upholds_here.bind fun start => upholds_of_exists ?_
  -- the body is skipped if there is no pass, and run from the same place in each
  rintro ⟨_, rfl, hstart⟩
  have hpass : Upholds whole I whole.OpensAt (do
      .goTo start
      body instruction : Run σ τ Unit) fun _ => whole.OpensAt :=
    (upholds_goTo hstart).bind fun _ => upholds_body hi
  exact (upholds_pastBody.ite (hpass.times count.toNat)).weaken (fun _ hP => hP.2) fun _ _ hQ => hQ

omit h in
/-- **A call** goes to a place of the script and comes back. -/
theorem upholds_call {callee : Run σ τ Unit}
    (hcallee : Upholds whole I whole.Reaches callee fun _ _ => True) :
    Upholds whole I whole.Reaches (call env callee) fun _ => whole.OpensAt := by
  refine upholds_here.bind fun start => ?_
  refine (upholds_read (Q := fun _ => whole.Reaches) fun ls w ls' hP hw => ?_).bind fun name => ?_
  · obtain ⟨p, rfl, -⟩ := name_eq_ok_iff.1 hw
    exact hP.2.trans (.one p _ ls')
  -- the table is part of what is kept, so that a body that is found stands in the source
  refine upholds_standing fun m hm hP => ?_
  cases hprocedure : m.procedures.get? name with
  | none =>
    refine ⟨Run.fail (.undeclared name) start.place, ?_, upholds_fail _ _⟩
    rw [bind_of_ok (get_apply m), hprocedure]
  | some procedure =>
    -- the body is run elsewhere, and then the place behind the name is gone back to
    have hthere : Upholds whole I whole.Reaches (do
        let back ← .here
        .deeper do
          .goTo procedure
          callee
        .goTo back
        .read (.expect ";") : Run σ τ Unit) fun _ => whole.OpensAt := by
      refine upholds_here.bind fun back => upholds_of_exists ?_
      rintro ⟨_, rfl, hback⟩
      refine (Upholds.deeper ((upholds_goTo (hm.procedures name procedure hprocedure)).bind
        fun _ => hcallee)).bind fun _ => ?_
      exact (upholds_goTo hback).bind fun _ => upholds_semicolon
    refine ⟨_, ?_, (upholds_fail (.tooManyCalls name env.maxDepth) start.place).ite
      (c := env.maxDepth ≤ m.depth) hthere⟩
    rw [bind_of_ok (get_apply m), hprocedure]

end Bodies

/-! ### Whole scripts -/

section Whole

variable {callee : Run σ τ Unit}

/-- **An instruction.** Its first token stands where an instruction can begin, and so does what
follows it. -/
theorem upholds_instruction (hcallee : Upholds whole I whole.Reaches callee fun _ _ => True)
    (nesting : Nat) :
    Upholds whole I whole.OpensAt (instruction env callee nesting) fun _ => whole.OpensAt := by
  induction nesting with
  | zero => exact upholds_throw _
  | succ nesting ih =>
    -- the first token is taken here, and each kind of instruction goes on behind it
    refine upholds_here.bind fun start => ?_
    refine (upholds_read (Q := fun t ls => ∃ p, whole.OpensAt (.token p t ls))
      fun ls t ls' hP ht => ?_).bind fun token => ?_
    · obtain ⟨p, rfl⟩ := take_eq_ok_iff.1 ht
      exact ⟨p, hP.2⟩
    -- what most instructions need is that their second token can be come to
    have hbehind {run : Run σ τ Unit}
        (hrun : Upholds whole I whole.Reaches run fun _ => whole.OpensAt) :
        Upholds whole I (fun ls => ∃ p, whole.OpensAt (.token p token ls)) run
          fun _ => whole.OpensAt := by
      refine hrun.weaken ?_ fun _ _ hQ => hQ
      rintro ls ⟨p, hopens⟩
      exact hopens.reaches.trans (.one p token ls)
    split
    · exact hbehind (upholds_choose h ih)
    · exact hbehind (upholds_repeatWhile h ih)
    · exact hbehind (upholds_repeatTimes ih)
    · exact hbehind (upholds_call hcallee)
    · next hword =>
      -- a set-up needs its own word as well, since it is listed with it
      obtain rfl : token = .word "init" := by cases token <;> cases hword; rfl
      exact upholds_setUp h
    · exact hbehind upholds_print
    · cases token.word?.bind Move.ofWord? with
      | none => exact upholds_fail _ _
      | some m => exact hbehind (upholds_moves h _ m)

theorem upholds_blockCalling (hcallee : Upholds whole I whole.Reaches callee fun _ _ => True) :
    Upholds whole I whole.Reaches (blockCalling env callee) fun _ => whole.OpensAt :=
  upholds_standing fun m _ _ =>
    ⟨block (instruction env callee (m.lexemes.size + 1)), rfl,
      upholds_block (upholds_instruction h hcallee _)⟩

theorem upholds_blockHere (levels : Nat) :
    Upholds whole I whole.Reaches (blockHere env levels) fun _ => whole.OpensAt := by
  induction levels with
  | zero => exact upholds_blockCalling h (upholds_throw _)
  | succ levels ih => exact upholds_blockCalling h (ih.weaken (fun _ hP => hP) fun _ _ _ => trivial)

end Whole

end Execution

namespace Program

open Run Execution

variable {σ τ : Type} {env : Context σ τ} {whole : Lexemes} {I : σ → Prop}

theorem upholds_declareNext :
    Upholds whole I whole.Reaches (declareNext : Run σ τ Unit) fun _ => whole.Reaches := by
  -- the word that begins the declaration is taken whatever it is
  have htake : Upholds whole I whole.Reaches (discard <| .read .take : Run σ τ Unit)
      fun _ => whole.Reaches := by
    refine (upholds_read (Q := fun _ => whole.Reaches) fun ls t ls' hP ht => ?_).bind fun _ =>
      upholds_pure fun _ hQ => hQ
    obtain ⟨p, rfl⟩ := take_eq_ok_iff.1 ht
    exact hP.trans (.one p t ls')
  refine htake.bind fun _ => ?_
  refine (upholds_read (Q := fun _ => whole.Reaches) fun ls w ls' hP hw => ?_).bind fun name => ?_
  · obtain ⟨p, rfl, -⟩ := name_eq_ok_iff.1 hw
    exact hP.trans (.one p _ ls')
  -- where the body begins is known before it is skipped
  refine upholds_here.bind fun body => upholds_of_exists ?_
  rintro ⟨_, rfl, hbody⟩
  have hend : Upholds whole I whole.Reaches (do
      .read .pastBlock
      modify fun m => { m with procedures := m.procedures.insert name body } : Run σ τ Unit)
      fun _ => whole.Reaches := by
    refine (upholds_read (Q := fun _ => whole.Reaches) fun ls u ls' hP hu => ?_).bind fun _ => ?_
    · exact hP.trans (stretch_of_pastBlock hu).reaches
    · -- the new procedure is where the block begins
      intro m hm hP
      refine ⟨⟨hm.agent, fun other place hplace => ?_⟩, hP⟩
      -- the name is looked up as it was before, unless it is the one that is declared
      have hget : (m.procedures.insert name body).get? other = some place := hplace
      rw [Procedures.get?_insert] at hget
      split at hget
      · cases hget
        exact hbody
      · exact hm.procedures other place hget
  refine (upholds_read (Q := fun _ => whole.Reaches) fun ls b ls' hP hb => ?_).bind fun opens => ?_
  · rw [eq_of_nextIs_eq_ok hb]
    exact hP.2
  · refine Upholds.ite hend ?_
    refine (upholds_read (Q := fun _ _ => True) fun _ _ _ _ _ => trivial).bind fun found => ?_
    exact (upholds_fail _ _).bind fun _ => hend

theorem upholds_declareUpTo (bound : Nat) :
    Upholds whole I whole.Reaches (declareUpTo bound : Run σ τ Unit) fun _ => whole.Reaches := by
  induction bound with
  | zero => exact upholds_throw _
  | succ bound ih =>
    -- looking for another declaration does not move
    refine (upholds_read (Q := fun _ => whole.Reaches) fun ls b ls' hP hb => ?_).bind
      fun found => ?_
    · rwa [eq_of_nextIs_eq_ok hb]
    · exact (upholds_declareNext.bind fun _ => ih).ite (upholds_pure fun _ hP => hP)

theorem upholds_declareAll :
    Upholds whole I whole.Reaches (declareAll : Run σ τ Unit) fun _ => whole.Reaches := by
  refine upholds_here.bind fun start => ?_
  refine ((upholds_declareUpTo _).weaken (fun _ hP => hP.2) fun _ _ hQ => hQ).bind fun _ => ?_
  refine upholds_here.bind fun behind => ?_
  refine (upholds_read (Q := fun _ => whole.Reaches) fun ls o ls' hP ho => ?_).bind fun next => ?_
  · rw [eq_of_peek_eq_ok ho]
    exact hP.2
  · exact (upholds_fail _ _).ite (upholds_pure fun _ hP => hP)

/-- **A whole run keeps true of its agent** what the agent keeps true as long as it is told only to
move, to stop, and to set up what is set up in the script. -/
theorem upholds_run (h : env.agent.Upholds whole.Allows I) :
    Upholds whole I whole.Reaches (run env) fun _ _ => True := by
  refine upholds_declareAll.bind fun _ => ?_
  refine (upholds_read (Q := fun _ => whole.Reaches) fun ls u ls' hP hu => ?_).bind fun _ => ?_
  · obtain ⟨p, t, rfl, -⟩ := expect_eq_ok_iff.1 hu
    exact hP.trans (.one p t ls')
  refine (upholds_blockHere h env.maxDepth).bind fun _ => upholds_here.bind fun behind => ?_
  -- to stop is allowed whatever the source sets up
  have hstop : whole.Allows .stop := trivial
  exact (upholds_tell h behind.place hstop).weaken (fun _ hP => hP) fun _ _ _ => trivial

/-- **A run from the start of a source.** -/
theorem settles_run {src : Source} {agent : σ} {output : τ}
    (h : env.agent.Upholds src.lexemes.Allows I) (hI : I agent) :
    Settles (run env) (.ofSource src agent output) (fun _ m => I m.agent) fun _ m => I m.agent := by
  -- at the start nothing is declared yet
  have hstart : (Machine.ofSource src agent output : Machine σ τ).Within src.lexemes I :=
    ⟨hI, fun name body hbody => nomatch hbody⟩
  exact (upholds_run h _ hstart (.refl _)).weaken (fun _ _ hm => hm.1.agent) fun _ _ hI => hI

/-- The name of a procedure sets nothing up, and neither does what stands in quotes. -/
example : Source.setUps ⟨"s", Utf8.encode "proc init \x7b init gems 3; \x7d
    main \x7b call init; if hasjem init grid \"init gems 4\"; \x7d"⟩ =
      [.setGems 3, .loadGrid "init gems 4"] := by
  decide +kernel

end Program

end GridScript
