import GridScript.Proofs.Script.Simulation
import GridScript.Proofs.Token.Locality

/-!
# A run stays in its source

Whatever a run does, and however it ends, it stands at a place of its source: it reads on from one,
goes back to one where it has stood, or goes to the body of a procedure, and that has been skipped
as a block when the procedure was declared. So the next run on the same machine begins at a place of
the source again. And where a run fails, it fails about a place of the source: a message of the
grammar about the place from which the token that it names is read.

* `Source.HasPlace`, `Source.HasBlock` — the places of a source, and those of its blocks.
* `Source.Shows`, `Failure.In`, `Halt.In` — what is read at a place, and what a failure may be
  about.
* `Run.failure?` — what a run has failed about.
* `Machine.In` — a run in a source.
* `Reading.keeps_pastBody` and the others — readings stay in the source.
* `Execution.stays_instruction`, `Execution.stays_blockHere`, `Program.stays_run` — runs do.
* `Program.Reached` — the states between the runs of one machine, and within each of them.
-/

namespace GridScript

/-! ### Places of a source -/

namespace Source

variable {src : Source} {p : Position} {rest : Lexemes}

/-- **A place of a source**: what is read from some offset on. -/
def HasPlace (src : Source) (ls : Lexemes) : Prop :=
  ∃ p, p <:+ src.bytes ∧ ls = .ofPosition p

/-- **A place of a source where a block begins** that can be skipped. -/
def HasBlock (src : Source) (ls : Lexemes) : Prop :=
  src.HasPlace ls ∧ ∃ behind, Reading.pastBlock ls = .ok () behind

theorem hasPlace_lexemes (src : Source) : src.HasPlace src.lexemes :=
  ⟨src.bytes, List.suffix_rfl, rfl⟩

/-- The end of a source. -/
theorem hasPlace_finish (src : Source) : src.HasPlace (.finish []) :=
  ⟨[], List.nil_suffix, (Lexemes.ofPosition_of_end rfl).symm⟩

theorem HasPlace.behind_token {t : Token} (h : src.HasPlace (.token p t rest)) :
    src.HasPlace rest := by
  obtain ⟨q, hq, hls⟩ := h
  obtain ⟨rfl, after, hscan, rfl⟩ := Lexemes.ofPosition_eq_token_iff.1 hls.symm
  exact ⟨after, (Spelling.scan_suffix hscan).trans hq, rfl⟩

theorem HasPlace.scan_misspelt {e : Misspelling} (h : src.HasPlace (.misspelt p e rest)) :
    p <:+ src.bytes ∧ scan p = .error e ∧ rest = .ofPosition e.stop := by
  obtain ⟨q, hq, hls⟩ := h
  rw [Lexemes.ofPosition] at hls
  split at hls
  · cases hls
  · cases hls
  · next e' hscan =>
    cases hls
    exact ⟨hq, hscan, rfl⟩

theorem HasPlace.behind_misspelt {e : Misspelling} (h : src.HasPlace (.misspelt p e rest)) :
    src.HasPlace rest := by
  obtain ⟨hp, hscan, rfl⟩ := h.scan_misspelt
  exact ⟨e.stop, (Spelling.scan_stop_suffix hscan).trans hp, rfl⟩

theorem HasPlace.place {ls : Lexemes} (h : src.HasPlace ls) : ls.place <:+ src.bytes := by
  obtain ⟨p, hp, rfl⟩ := h
  rwa [Lexemes.place_ofPosition]

theorem HasPlace.eq_ofPosition {ls : Lexemes} (h : src.HasPlace ls) :
    ls = .ofPosition ls.place := by
  obtain ⟨p, -, rfl⟩ := h
  rw [Lexemes.place_ofPosition]

/-- **What a place of a source shows**: the token that is read from there, or that there is none. -/
def Shows (src : Source) (p : Position) (next : Option Token) : Prop :=
  p <:+ src.bytes ∧ Reading.peek (.ofPosition p) = .ok next (.ofPosition p)

/-- Where looking ahead succeeds, it shows what is there. -/
theorem HasPlace.shows {ls ls' : Lexemes} {next : Option Token} (h : src.HasPlace ls)
    (hpeek : Reading.peek ls = .ok next ls') : src.Shows ls.place next := by
  obtain rfl := Reading.eq_of_peek_eq_ok hpeek
  refine ⟨h.place, ?_⟩
  obtain ⟨p, -, rfl⟩ := h
  rwa [Lexemes.place_ofPosition]

theorem HasPlace.shows_token {t : Token} (h : src.HasPlace (.token p t rest)) :
    src.Shows p (some t) :=
  h.shows rfl

end Source

/-! ### What a failure is about -/

/-- **The token that a message of the grammar names**, as it has been found. A message about a
procedure or about a number names a word. -/
def GrammarError.subject : GrammarError → Option Token
  | unexpected _ found => some found
  | bodyExpected _ found => found
  | mainExpected => none
  | notName found | notInteger found | notString found | notGridName found => some found
  | notInstruction found | notCondition found | notMove found | notInitTarget found => some found
  | integerTooLarge word | undeclared word | tooManyCalls word _ => some (.word word)

/-- **A failure in a source**: it is about a place there, and a message of the grammar names what
that place shows. -/
def Failure.In (src : Source) : Failure → Prop
  | .spelling _ p | .refused _ p => p <:+ src.bytes
  | .grammar e p => src.Shows p e.subject
  | .unwritten _ => True

/-- **An early end in a source.** Only a failure is about something. -/
def Halt.In (src : Source) (e : Halt Failure) : Prop := ∀ f, e = .failed f → f.In src

namespace Halt

variable {src : Source} {f : Failure}

theorem in_failed (h : f.In src) : Halt.In src (.failed f) := by
  rintro _ ⟨⟩
  exact h

theorem in_unfinished : Halt.In src .unfinished := by
  rintro _ ⟨⟩

theorem in_aborted {a : Abort} : Halt.In src (.aborted a) := by
  rintro _ ⟨⟩

/-- A script that ends early is shown at its end. -/
theorem in_endsEarly : Halt.In src (.failed (.spelling .endsEarly [])) :=
  in_failed (List.nil_suffix : [] <:+ src.bytes)

theorem in_misspelt {p : Position} {e : Misspelling} {rest : Lexemes}
    (h : src.HasPlace (.misspelt p e rest)) :
    Halt.In src (.failed (.spelling e.error e.shown)) := by
  obtain ⟨hp, hscan, -⟩ := h.scan_misspelt
  exact in_failed ((Spelling.scan_shown_suffix hscan).trans hp : e.shown <:+ src.bytes)

end Halt

/-- **The failure that a run has ended with**, if it has. -/
def Run.failure? {σ τ α : Type} :
    EStateM.Result (Halt Failure) (Machine σ τ) α → Option Failure
  | .ok _ _ => none
  | .error (.failed f) _ => some f
  | .error (.aborted _) _ => none
  | .error .unfinished _ => none

theorem Run.exists_of_failure? {σ τ α : Type} {f : Failure}
    {r : EStateM.Result (Halt Failure) (Machine σ τ) α} (h : failure? r = some f) :
    ∃ m, r = .error (.failed f) m := by
  unfold failure? at h
  split at h <;> cases h
  exact ⟨_, rfl⟩

/-! ### Readings -/

namespace Reading

variable {src : Source} {α : Type}

/-- **A reading within a source**: it stays there, and what it fails about is there. -/
abbrev Within (src : Source) (r : Reading α) : Prop := Keeps src.HasPlace (Halt.In src) r

theorem keeps_fail {e : GrammarError} {p : Position} (h : src.Shows p e.subject) :
    Within src (fail e p : Reading α) :=
  keeps_throw (Halt.in_failed (f := .grammar e p) h)

theorem keeps_peek : Within src peek := by
  intro ls h
  cases ls with
  | finish p => exact h
  | token p t rest => exact h
  | misspelt p e rest => exact ⟨h, Halt.in_misspelt h⟩

theorem keeps_take : Within src take := by
  intro ls h
  cases ls with
  | finish p => exact ⟨src.hasPlace_finish, Halt.in_endsEarly⟩
  | token p t rest => exact h.behind_token
  | misspelt p e rest => exact ⟨h.behind_misspelt, Halt.in_misspelt h⟩

/-- **A token is taken and judged.** The judgement knows that the token is shown at the place. -/
theorem keeps_judge {judge : Position → Token → Reading α}
    (h : ∀ p t, src.Shows p (some t) → Within src (judge p t)) :
    Within src (do let place ← place; let t ← take; judge place t) := by
  intro ls hls
  cases ls with
  | finish p => exact ⟨src.hasPlace_finish, Halt.in_endsEarly⟩
  | token p t rest => exact h p t hls.shows_token rest hls.behind_token
  | misspelt p e rest => exact ⟨hls.behind_misspelt, Halt.in_misspelt hls⟩

theorem keeps_expect (spelling : String) : Within src (expect spelling) :=
  keeps_judge fun _ _ ht => (keeps_pure _).ite (keeps_fail ht)

theorem keeps_nextIs (spelling : String) : Within src (nextIs spelling) :=
  keeps_peek.bind fun _ => keeps_pure _

theorem keeps_name : Within src name := by
  refine keeps_judge fun p t ht => ?_
  cases t with
  | word w => exact (keeps_pure _).ite (keeps_fail ht)
  | _ => exact keeps_fail ht

theorem keeps_integer : Within src integer := by
  refine keeps_judge fun p t ht => ?_
  split
  · exact keeps_fail ht
  · next digits n hdigits =>
    -- a number that is too large is a word
    obtain ⟨w, hw, hn⟩ := Option.bind_eq_some_iff.1 hdigits
    obtain ⟨_, -, hword⟩ := Option.map_eq_some_iff.1 hn
    cases t <;> cases hw
    cases hword
    exact (keeps_pure _).ite (keeps_fail ht)

theorem keeps_text : Within src text := by
  refine keeps_judge fun p t ht => ?_
  cases t with
  | quoted s => exact keeps_pure _
  | _ => exact keeps_fail ht

theorem keeps_gridName : Within src gridName := by
  refine keeps_judge fun p t ht => ?_
  cases t with
  | mark m => exact keeps_fail ht
  | _ => exact keeps_pure _

theorem keeps_test : Within src test := by
  refine keeps_peek.bind fun next => ?_
  refine Keeps.ite (keeps_take.discard.bind fun _ => ?_) ?_
  -- behind a negation the condition is read as it is without one
  all_goals
    refine keeps_judge fun p t ht => ?_
    cases t.word?.bind Condition.ofWord? with
    | none => exact keeps_fail ht
    | some condition => exact keeps_pure _

/-! Code that does not run. -/

theorem keeps_pastClosingBrace (inner : Nat) : Within src (pastClosingBrace inner) := by
  intro ls h
  -- the induction is on the lexemes, and `inner` braces are open when it comes to them
  induction ls generalizing inner with
  | finish p =>
    rw [Settles, pastClosingBrace]
    exact ⟨src.hasPlace_finish, Halt.in_endsEarly⟩
  | misspelt p e rest _ =>
    rw [Settles, pastClosingBrace]
    exact ⟨h.behind_misspelt, Halt.in_misspelt h⟩
  | token p t rest ih =>
    have hrest := h.behind_token
    rw [Settles, pastClosingBrace_token]
    split_ifs
    · exact ih (inner + 1) hrest
    · cases inner with
      | zero => exact hrest
      | succ inner => exact ih inner hrest
    · exact ih inner hrest

theorem keeps_pastSemicolon : Within src pastSemicolon := by
  intro ls h
  -- a failure is placed at the token that is reported, or at the end
  induction ls with
  | finish p => exact ⟨src.hasPlace_finish, Halt.in_endsEarly⟩
  | misspelt p e rest _ => exact ⟨h.behind_misspelt, Halt.in_misspelt h⟩
  | token p t rest ih =>
    have hrest := h.behind_token
    rw [Settles, pastSemicolon]
    split_ifs
    · exact hrest
    · exact ⟨hrest, Halt.in_failed (f := .grammar (.unexpected ";" t) p) h.shows_token⟩
    · exact ih hrest

theorem keeps_pastBlock : Within src pastBlock :=
  (keeps_expect _).bind fun _ => keeps_pastClosingBrace 0

theorem keeps_pastBodyWith {past : Reading Unit} (h : Within src past) :
    Within src (pastBodyWith past) :=
  (keeps_nextIs _).bind fun _ => keeps_pastBlock.ite h

theorem keeps_pastInstruction (nesting : Nat) : Within src (pastInstruction nesting) := by
  induction nesting with
  | zero => exact keeps_throw Halt.in_unfinished
  | succ nesting ih =>
    have hbody := keeps_pastBodyWith ih
    refine keeps_peek.bind fun next => ?_
    dsimp only
    -- each kind of instruction is skipped by reading on, and no reading leaves the source
    split
    · refine keeps_take.discard.bind fun _ => ?_
      refine keeps_test.discard.bind fun _ => ?_
      refine hbody.bind fun _ => (keeps_nextIs _).bind fun _ => ?_
      exact (keeps_take.discard.bind fun _ => hbody).ite (keeps_pure _)
    · exact keeps_take.discard.bind fun _ => keeps_test.discard.bind fun _ => hbody
    · exact keeps_take.discard.bind fun _ => keeps_integer.discard.bind fun _ => hbody
    · exact keeps_pastSemicolon

/-- **A body is skipped within the source.** -/
theorem keeps_pastBody : Within src pastBody :=
  fun ls h => keeps_pastBodyWith (keeps_pastInstruction (ls.size + 1)) ls h

end Reading

/-! ### Runs -/

/-- **Procedures of a source**: each of them is a block there. -/
def Procedures.In (src : Source) (ps : Procedures Lexemes) : Prop :=
  ∀ name body, ps.get? name = some body → src.HasBlock body

theorem Procedures.In.insert {src : Source} {ps : Procedures Lexemes} (h : ps.In src)
    (name : String) {body : Lexemes} (hbody : src.HasBlock body) :
    (ps.insert name body).In src := by
  intro other place hplace
  rw [get?_insert] at hplace
  split at hplace
  · cases hplace
    exact hbody
  · exact h other place hplace

/-- **A run in a source**: it stands at a place of the source and has declared procedures of it. -/
structure Machine.In {σ τ : Type} (src : Source) (m : Machine σ τ) : Prop where
  lexemes : src.HasPlace m.lexemes
  procedures : m.procedures.In src

theorem Machine.in_ofSource {σ τ : Type} (src : Source) (agent : σ) (output : τ) :
    (Machine.ofSource src agent output).In src :=
  ⟨src.hasPlace_lexemes, fun _ _ h => nomatch h⟩

namespace Run

variable {σ τ α β : Type} {src : Source} {run : Run σ τ α}

/-- **A run that stays in the source**, as does what it fails about. -/
abbrev Stays (src : Source) (run : Run σ τ α) : Prop := Keeps (Machine.In src) (Halt.In src) run

theorem stays_read {r : Reading α} (h : r.Within src) : Stays src (read r : Run σ τ α) := by
  intro m hm
  have hread := h _ hm.lexemes
  rw [Settles, read]
  cases hr : r m.lexemes with
  | ok a ls => exact { hm with lexemes := hread.of_ok hr }
  | error e ls =>
    obtain ⟨hls, he⟩ := hread.of_error hr
    exact ⟨{ hm with lexemes := hls }, he⟩

/-- Looking for a spelling does not move. -/
theorem settles_nextIs (spelling : String) {m : Machine σ τ} (hm : m.In src) :
    Settles (read (.nextIs spelling)) m (fun _ m' => m' = m)
      fun e m' => m'.In src ∧ Halt.In src e := by
  have hlook := stays_read (Reading.keeps_nextIs spelling) m hm
  rw [Settles, read] at hlook ⊢
  cases hnext : Reading.nextIs spelling m.lexemes with
  | ok b ls => rw [Reading.eq_of_nextIs_eq_ok hnext]
  | error e ls =>
    rw [hnext] at hlook
    exact hlook

/-- **Behind a look at the next token** it is known what the place shows. -/
theorem settles_peek {m : Machine σ τ} (hm : m.In src) :
    Settles (read .peek) m (fun next m' => m'.In src ∧ src.Shows m.lexemes.place next)
      fun e m' => m'.In src ∧ Halt.In src e := by
  have hlook := stays_read Reading.keeps_peek m hm
  -- looking does not move, so that what has been seen stands at the place that is noted
  rw [Settles] at hlook ⊢
  cases hread : read .peek m with
  | ok next m' =>
    obtain ⟨ls, hpeek, -⟩ := read_eq_ok_iff.1 hread
    rw [hread] at hlook
    exact ⟨hlook, hm.lexemes.shows hpeek⟩
  | error e m' =>
    rw [hread] at hlook
    exact hlook

/-- **Behind a block that has been skipped** it is known to be one. -/
theorem settles_pastBlock {m : Machine σ τ} (hm : m.In src) :
    Settles (read .pastBlock) m (fun _ m' => m'.In src ∧ src.HasBlock m.lexemes)
      fun e m' => m'.In src ∧ Halt.In src e := by
  have hread := stays_read Reading.keeps_pastBlock m hm
  rw [Settles, read] at hread ⊢
  -- a block is what can be skipped, and so this is one
  cases hpast : Reading.pastBlock m.lexemes with
  | ok u ls =>
    rw [hpast] at hread
    exact ⟨hread, hm.lexemes, ls, hpast⟩
  | error e ls =>
    rw [hpast] at hread
    exact hread

/-- **What looks where it stands** finds a place of the source. -/
theorem stays_here {f : Lexemes → Run σ τ β} (h : ∀ ls, src.HasPlace ls → Stays src (f ls)) :
    Stays src (here >>= f) :=
  fun m hm => h m.lexemes hm.lexemes m hm

/-- **What reads where it stands** has found there what it goes on with. -/
theorem stays_found {r : Reading α} (hr : r.Within src) {f : Lexemes → α → Run σ τ β}
    (h : ∀ ls a rest, src.HasPlace ls → r ls = .ok a rest → Stays src (f ls a)) :
    Stays src (here >>= fun ls => read r >>= f ls) := by
  -- where the machine was is known behind the reading as well, since it was noted before
  intro m hm
  have hread := stays_read (σ := σ) (τ := τ) hr m hm
  have hfrom : (here >>= fun ls => read r >>= f ls) m = (read r >>= f m.lexemes) m := rfl
  rw [Settles, hfrom, bind_apply]
  cases hfound : read r m with
  | ok a m' =>
    obtain ⟨rest, hrest, -⟩ := read_eq_ok_iff.1 hfound
    exact h _ a rest hm.lexemes hrest m' (hread.of_ok hfound)
  | error e m' => exact hread.of_error hfound

/-- The case in which that is the next token. -/
theorem stays_taken {f : Lexemes → Token → Run σ τ β}
    (h : ∀ ls t, src.Shows ls.place (some t) → Stays src (f ls t)) :
    Stays src (here >>= fun ls => read .take >>= f ls) := by
  refine stays_found Reading.keeps_take fun ls t rest hls htake => h ls t ?_
  obtain ⟨p, rfl⟩ := Reading.take_eq_ok_iff.1 htake
  exact hls.shows_token

theorem stays_goTo {ls : Lexemes} (h : src.HasPlace ls) : Stays src (goTo ls : Run σ τ Unit) :=
  fun _ hm => { hm with lexemes := h }

theorem stays_fail {e : GrammarError} {p : Position} (h : src.Shows p e.subject) :
    Stays src (fail e p : Run σ τ α) :=
  keeps_throw (Halt.in_failed (f := .grammar e p) h)

theorem stays_ask {p : Position} (hp : p <:+ src.bytes)
    (request : EStateM (Trouble Diagnostic) σ α) : Stays src (ask p request : Run σ τ α) := by
  intro m hm
  rw [Settles, ask]
  cases request m.agent with
  | ok a s => exact ⟨hm.lexemes, hm.procedures⟩
  | error e s =>
    refine ⟨⟨hm.lexemes, hm.procedures⟩, ?_⟩
    cases e with
    | failed reason => exact Halt.in_failed (f := .refused reason p) hp
    | aborted a => exact Halt.in_aborted

theorem stays_print (sink : Sink τ) (line : String) :
    Stays src (print sink line : Run σ τ Unit) := by
  intro m hm
  rw [Settles, print]
  cases sink.print line m.output with
  | ok u t => exact ⟨hm.lexemes, hm.procedures⟩
  | error reason t =>
    exact ⟨⟨hm.lexemes, hm.procedures⟩, Halt.in_failed (f := .unwritten reason) trivial⟩

theorem stays_deeper (h : Stays src run) : Stays src (deeper run) := by
  intro m hm
  have hbody := h { m with depth := m.depth + 1 } ⟨hm.lexemes, hm.procedures⟩
  rw [Settles, deeper]
  cases hr : run { m with depth := m.depth + 1 } with
  | ok a m' => exact ⟨(hbody.of_ok hr).lexemes, (hbody.of_ok hr).procedures⟩
  | error e m' =>
    obtain ⟨hm', he⟩ := hbody.of_error hr
    exact ⟨⟨hm'.lexemes, hm'.procedures⟩, he⟩

theorem stays_times {body : Run σ τ Unit} (h : Stays src body) (count : Nat) :
    Stays src (times body count) := by
  induction count with
  | zero => exact keeps_pure ()
  | succ count ih =>
    rw [times_succ]
    exact h.bind fun _ => ih

theorem stays_loop {pass : Run σ τ Bool} (h : Stays src pass) (passes : Nat) :
    Stays src (loop pass passes) := by
  induction passes with
  | zero => exact keeps_throw Halt.in_unfinished
  | succ passes ih =>
    rw [loop_succ]
    exact h.bind fun again => ih.ite (keeps_pure ())

end Run

/-! ### Instructions -/

namespace Execution

open Run

variable {σ τ : Type} {src : Source} (env : Context σ τ)

theorem stays_tell {p : Position} (hp : p <:+ src.bytes) (c : Command) :
    Stays src (tell env p c) :=
  stays_ask hp _

theorem stays_test : Stays src (test env) := by
  refine stays_here fun start hstart => (stays_read Reading.keeps_test).bind fun t => ?_
  exact (stays_ask hstart.place _).bind fun value => keeps_pure _

theorem stays_movesUpTo (bound : Nat) : Stays src (movesUpTo env bound) := by
  induction bound with
  | zero => exact keeps_throw Halt.in_unfinished
  | succ bound ih =>
    refine stays_taken fun start token htoken => ?_
    refine Keeps.ite (keeps_pure _) ?_
    cases token.word?.bind Move.ofWord? with
    | none => exact stays_fail htoken
    | some m => exact (stays_tell env htoken.1 _).bind fun _ => ih

theorem stays_moves {p : Position} (hp : p <:+ src.bytes) (first : Move) :
    Stays src (moves env p first) :=
  (stays_tell env hp _).bind fun _ => stays_here fun _ _ => stays_movesUpTo env _

theorem stays_setUp : Stays src (setUp env) := by
  refine stays_taken fun start target htarget => ?_
  have hend : Stays (σ := σ) (τ := τ) src (.read (.expect ";")) :=
    stays_read (Reading.keeps_expect ";")
  split
  · refine (stays_read Reading.keeps_gridName).bind fun name => ?_
    exact (stays_tell env htarget.1 _).bind fun _ => hend
  · refine (stays_read Reading.keeps_integer).bind fun count => ?_
    exact (stays_tell env htarget.1 _).bind fun _ => hend
  · exact (stays_fail htarget).bind fun _ => hend

theorem stays_print : Stays src (print env) := by
  refine (stays_read Reading.keeps_text).bind fun text => ?_
  exact (stays_read (Reading.keeps_expect ";")).bind fun _ => Run.stays_print env.sink text

/-! What instructions are made into, from what the instructions are. -/

section Bodies

variable {instruction : Run σ τ Unit}

theorem stays_instructionsUpTo (h : Stays src instruction) (bound : Nat) :
    Stays src (instructionsUpTo instruction bound) := by
  induction bound with
  | zero => exact keeps_throw Halt.in_unfinished
  | succ bound ih =>
    rw [instructionsUpTo_succ]
    refine (stays_read (Reading.keeps_nextIs _)).bind fun closed => ?_
    exact (stays_read (Reading.keeps_expect _)).ite (h.bind fun _ => ih)

theorem stays_block (h : Stays src instruction) : Stays src (block instruction) :=
  (stays_read (Reading.keeps_expect _)).bind fun _ =>
    stays_here fun _ _ => stays_instructionsUpTo h _

theorem stays_body (h : Stays src instruction) : Stays src (body instruction) :=
  (stays_read (Reading.keeps_nextIs _)).bind fun _ => (stays_block h).ite h

theorem stays_choose (h : Stays src instruction) : Stays src (choose env instruction) := by
  refine (stays_test env).bind fun holds => ?_
  have hpast : Stays (σ := σ) (τ := τ) src (.read .pastBody) := stays_read Reading.keeps_pastBody
  refine Keeps.ite ((stays_body h).bind fun _ => ?_) (hpast.bind fun _ => ?_)
  -- whether there is an `else` does not depend on the test
  all_goals
    refine (stays_read (Reading.keeps_nextIs _)).bind fun found => ?_
    refine Keeps.ite ?_ (keeps_pure ())
    exact (stays_read Reading.keeps_take).discard.bind fun _ => hpast.ite (stays_body h)

/-- **A loop goes back** to where its test stands. -/
theorem stays_repeatWhile (h : Stays src instruction) :
    Stays src (repeatWhile env instruction) := by
  refine stays_here fun start hstart => stays_loop ?_ env.passes
  refine (stays_goTo hstart).bind fun _ => (stays_test env).bind fun holds => ?_
  exact ((stays_body h).bind fun _ => keeps_pure _).ite
    ((stays_read Reading.keeps_pastBody).bind fun _ => keeps_pure _)

theorem stays_repeatTimes (h : Stays src instruction) : Stays src (repeatTimes instruction) := by
  refine (stays_read Reading.keeps_integer).bind fun count => stays_here fun start hstart => ?_
  refine (stays_read Reading.keeps_pastBody).ite ?_
  exact stays_times ((stays_goTo hstart).bind fun _ => stays_body h) _

/-- **A call** goes to a block of the source and comes back. -/
theorem stays_call {callee : Run σ τ Unit} (h : Stays src callee) :
    Stays src (call env callee) := by
  refine stays_found Reading.keeps_name fun start name rest hstart hread m hm => ?_
  -- either message about the call names the word that has been read
  obtain ⟨p, rfl, -⟩ := Reading.name_eq_ok_iff.1 hread
  have hword : src.Shows p (some (.word name)) := hstart.shows_token
  rw [Settles, bind_of_ok (get_apply m)]
  cases hprocedure : m.procedures.get? name with
  | none =>
    have hfail : Stays (σ := σ) (τ := τ) src (fail (.undeclared name) p : Run σ τ Unit) :=
      stays_fail hword
    exact hfail m hm
  | some procedure =>
    -- the table holds only blocks of the source
    have hbody := (hm.procedures name procedure hprocedure).1
    refine Keeps.ite (c := env.maxDepth ≤ m.depth) (stays_fail hword) ?_ m hm
    refine stays_here fun back hback => ?_
    refine (stays_deeper ((stays_goTo hbody).bind fun _ => h)).bind fun _ => ?_
    exact (stays_goTo hback).bind fun _ => stays_read (Reading.keeps_expect ";")

end Bodies

/-- **Every instruction**, by recursion on how deeply instructions are nested. -/
theorem stays_instruction {callee : Run σ τ Unit} (h : Stays src callee) (nesting : Nat) :
    Stays src (instruction env callee nesting) := by
  induction nesting with
  | zero => exact keeps_throw Halt.in_unfinished
  | succ nesting ih =>
    refine stays_taken fun start token htoken => ?_
    -- whatever fails reports the token that has been taken, at its own place
    split
    · exact stays_choose env ih
    · exact stays_repeatWhile env ih
    · exact stays_repeatTimes ih
    · exact stays_call env h
    · exact stays_setUp env
    · exact stays_print env
    · cases token.word?.bind Move.ofWord? with
      | none => exact stays_fail htoken
      | some m => exact stays_moves env htoken.1 m

theorem stays_blockCalling {callee : Run σ τ Unit} (h : Stays src callee) :
    Stays src (blockCalling env callee) :=
  fun m hm => stays_block (stays_instruction env h _) m hm

/-- **A block in which procedures are called**, by recursion on how deeply calls are nested. -/
theorem stays_blockHere (levels : Nat) : Stays src (blockHere env levels) := by
  induction levels with
  | zero => exact stays_blockCalling env (keeps_throw Halt.in_unfinished)
  | succ levels ih => exact stays_blockCalling env ih

end Execution

/-! ### Whole runs -/

namespace Program

open Run

variable {σ τ : Type} {src : Source}

/-- **A procedure is declared** when its body has been skipped. -/
theorem stays_declareNext : Stays src (declareNext : Run σ τ Unit) := by
  refine (stays_read Reading.keeps_take).discard.bind fun _ => ?_
  refine (stays_read Reading.keeps_name).bind fun name => ?_
  intro m hm
  -- looking for the brace does not move, so what is skipped begins where the body does
  refine (settles_nextIs "\x7b" hm).bind fun opens m' hm' => ?_
  subst hm'
  have hend : Settles (do
      .read .pastBlock
      modify fun m =>
        { m with procedures := m.procedures.insert name m'.lexemes } : Run σ τ Unit) m'
      (fun _ => Machine.In src) fun e m' => m'.In src ∧ Halt.In src e :=
    (settles_pastBlock hm).bind fun _ m hm => ⟨hm.1.lexemes, hm.1.procedures.insert name hm.2⟩
  cases opens with
  | true => exact hend
  | false =>
    -- the message names what stands there instead of the brace
    refine (settles_peek hm).bind fun found w hw => ?_
    exact ⟨hw.1, Halt.in_failed (f := .grammar (.bodyExpected name found) _) hw.2⟩

theorem stays_declareUpTo (bound : Nat) : Stays src (declareUpTo bound : Run σ τ Unit) := by
  induction bound with
  | zero => exact keeps_throw Halt.in_unfinished
  | succ bound ih =>
    refine (stays_read (Reading.keeps_nextIs _)).bind fun found => ?_
    exact (stays_declareNext.bind fun _ => ih).ite (keeps_pure ())

theorem stays_declareAll : Stays src (declareAll : Run σ τ Unit) := by
  refine stays_here fun start _ => (stays_declareUpTo _).bind fun _ => ?_
  refine stays_found Reading.keeps_peek fun behind next rest hbehind hpeek => ?_
  cases next with
  | none => exact stays_fail (hbehind.shows hpeek)
  | some t => exact keeps_pure ()

/-- **A whole run stays in its source**, however it ends. -/
theorem stays_run (env : Context σ τ) : Stays src (run env) := by
  refine stays_declareAll.bind fun _ => (stays_read (Reading.keeps_expect _)).bind fun _ => ?_
  refine (Execution.stays_blockHere env _).bind fun _ => stays_here fun behind hbehind => ?_
  exact Execution.stays_tell env hbehind.place _

/-- **The states that one machine comes to** by runs one after another, each as it pleases, and
however each of them ends. While a run executes its `main`, nothing more is declared. -/
inductive Reached (src : Source) : Machine σ τ → Prop
  | start (agent : σ) (output : τ) : Reached src (.ofSource src agent output)
  /-- A run has declared its procedures, and goes on. -/
  | declared {m m' : Machine σ τ} (h : Reached src m) (hrun : declareAll m = .ok () m') :
    Reached src m'
  /-- A run has succeeded. -/
  | succeeded {m m' : Machine σ τ} (env : Context σ τ) (h : Reached src m)
    (hrun : run env m = .ok () m') : Reached src m'
  /-- A run has ended early. -/
  | failed {m m' : Machine σ τ} (env : Context σ τ) {e : Halt Failure} (h : Reached src m)
    (hrun : run env m = .error e m') : Reached src m'

/-- **However many runs there have been**, the machine is in its source. -/
theorem Reached.in {m : Machine σ τ} (h : Reached src m) : m.In src := by
  induction h with
  | start agent output => exact Machine.in_ofSource src agent output
  | declared _ hrun ih => exact (stays_declareAll _ ih).of_ok hrun
  | succeeded env _ hrun ih => exact (stays_run env _ ih).of_ok hrun
  | failed env _ hrun ih => exact ((stays_run env _ ih).of_error hrun).1

end Program

end GridScript
