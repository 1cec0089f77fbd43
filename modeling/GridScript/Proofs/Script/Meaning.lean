import GridScript.Proofs.Script.Agreement
import GridScript.Proofs.Script.Simulation
import Mathlib

/-!
# Scripts do what their trees mean

A run notes the procedures as it reads them, and a call goes to the place that it has noted. The
walk through the tree looks for the last declaration of the name. The two agree because the table of
a run knows where those declarations are written.

* `Tree.Declares` — the table knows the last declarations; `Tree.declareAll_of_reads` sets it up.
* `Tree.calls_callee`, `Tree.blocks_blockHere` — calls within calls, by induction on how many more
  may become active.
* `Program.run_eq_perform` — the whole run of any rendering of a script is seen as the walk through
  its tree.
-/

namespace GridScript

open Reading GridScript.Tree Lexemes

/-! ### Calls -/

namespace Tree

variable {σ τ : Type} {env : Context σ τ} {m : Machine σ τ}

/-- **A procedure table that knows the last declarations** of some procedures: from each entry on,
the body of the declaration is written. -/
def Declares (ps : List Procedure) (table : Procedures Lexemes) : Prop :=
  ∀ name, Option.Rel
    (fun p entry => entry.Bare ∧ ∃ rest, entry.Reads (Body.block p.body).tokens rest)
    (lastDeclared? ps name) (table.get? name)

theorem declares_nil : Declares [] .empty := fun _ => .none

/-- One more declaration. -/
theorem Declares.insert {ps : List Procedure} {table : Procedures Lexemes} (h : Declares ps table)
    (p : Procedure) {entry rest : Lexemes} (hb : entry.Bare)
    (hentry : entry.Reads (Body.block p.body).tokens rest) :
    Declares (ps ++ [p]) (table.insert p.name.text entry) := by
  intro name
  rw [lastDeclared?_concat, Procedures.get?_insert]
  by_cases hname : name = p.name.text
  · rw [if_pos hname, if_pos hname]
    exact .some ⟨hb, rest, hentry⟩
  · rw [if_neg hname, if_neg hname]
    exact h name

/-- **A run that follows every block**, wherever it is written. -/
def Blocks (env : Context σ τ) (m : Machine σ τ) (run : Run σ τ Unit)
    (call : String → Walk σ τ Unit) : Prop :=
  ∀ (b : Sequence) {ls rest : Lexemes}, b.Nearest → ls.Bare →
    ls.Reads (Body.block b).tokens rest → Follows m ls rest run (b.walk env call)

/-- Blocks are followed if the calls in them are. -/
theorem Calls.blocks {callee : Run σ τ Unit} {call : String → Walk σ τ Unit}
    (h : Calls env m callee call) : Blocks env m (Execution.blockCalling env callee) call := by
  intro b ls rest hn hb hreads
  obtain ⟨p, mid, rfl, htail⟩ := reads_cons_iff.1 hreads
  intro s
  have hsize : mid.size < mid.size + 1 + 1 := by omega
  have hinside := b.follows h hsize (Nat.le_refl _) hb.2 hn htail
  exact Follows.read (r := .expect "\x7b") rfl (.here hinside) s

/-- **Calls are followed** if the table knows the declarations, and if the block of a procedure is
followed with one more active call, as long as one more may be. -/
theorem calls_callee {s : Script} {callee : Run σ τ Unit} {levels : Nat}
    (hdepth : m.depth + levels = env.maxDepth) (ht : Declares s.procedures m.procedures)
    (hcallee : ∀ more, levels = more + 1 → Blocks env m.deeper callee (s.callee env more)) :
    Calls env m callee (s.callee env levels) := by
  intro name ls rest h
  -- the name is read, then the table is asked, and a semicolon is behind both
  obtain ⟨p, _, rfl, hsemicolon⟩ := reads_cons_iff.1 h
  obtain ⟨q, _, rfl, ⟨⟩⟩ := reads_cons_iff.1 hsemicolon
  refine .here <| .read (name.name_eq p) <| .get fun scene => ?_
  rw [Script.callee, Machine.moved_procedures, Machine.moved_depth]
  have hname := ht name.text
  generalize lastDeclared? s.procedures name.text = found, m.procedures.get? name.text = entry
    at hname
  cases hname with
  | none =>
    -- neither the script nor the table has a declaration
    exact .fail p rfl
  | some hentry =>
    obtain ⟨hb, last, hbody⟩ := hentry
    cases levels with
    | zero =>
      -- as many calls are active as may be
      dsimp only
      rw [if_pos (by omega)]
      exact .fail p rfl
    | succ more =>
      dsimp only
      rw [if_neg (by omega)]
      have hblock := hcallee more rfl _ (Procedure.nearest _) hb hbody
      -- wherever the block ends, the run goes back to behind the name of the call
      exact .here <| (Follows.deeper (.goTo hblock)).last fun _ => .goTo <| .readLast rfl

/-- **A block in which procedures can be called follows its tree.** By induction on how many more
calls may become active. -/
theorem blocks_blockHere {s : Script} {levels : Nat} (hdepth : m.depth + levels = env.maxDepth)
    (ht : Declares s.procedures m.procedures) :
    Blocks env m (Execution.blockHere env levels) (s.callee env levels) := by
  -- the induction is on the calls that may still be made; the table stays the same in all of them
  induction levels generalizing m with
  | zero =>
    have hcalls : Calls env m (throw .unfinished) (s.callee env 0) :=
      calls_callee hdepth ht fun more h => nomatch h
    exact hcalls.blocks
  | succ levels ih =>
    have hcalls : Calls env m (Execution.blockHere env levels) (s.callee env (levels + 1)) := by
      refine calls_callee hdepth ht fun more hmore => ?_
      cases hmore
      exact ih (m := m.deeper) (by rw [← hdepth, Machine.deeper_depth]; omega) ht
    exact hcalls.blocks

/-! ### Declarations -/

/-- A written declaration is noted, and its block is skipped. -/
theorem declareNext_of_reads (p : Procedure) {ls rest : Lexemes} (hls : m.lexemes = ls)
    (hb : ls.Bare) (h : ls.Reads p.tokens rest) :
    ∃ entry, entry.Bare ∧ entry.Reads (Body.block p.body).tokens rest ∧
      Program.declareNext m = .ok ()
        { m with lexemes := rest, procedures := m.procedures.insert p.name.text entry } := by
  -- the name of a procedure and its block, as they stand behind the first word
  obtain ⟨a, _, rfl, hname⟩ := reads_cons_iff.1 h
  obtain ⟨b, entry, rfl, hblock⟩ := reads_cons_iff.1 hname
  refine ⟨entry, hb.2.2, hblock, ?_⟩
  -- a block is not open, so nothing is asked of what follows
  have hskip := (Body.block p.body).pastBody_of_reads hb.2.2 p.nearest (fun hopen => nomatch hopen)
    hblock
  obtain ⟨c, inside, rfl, -⟩ := reads_cons_iff.1 hblock
  rw [pastBody_of_brace rfl] at hskip
  have hpast : pastBlock (.token c (.mark .openBrace) inside) = .ok () rest := hskip
  have hbrace : nextIs "\x7b" (.token c (.mark .openBrace) inside) = .ok true _ :=
    nextIs_token _ _ _ _
  simp only [Program.declareNext, bind_apply, discard_apply, Run.read, Run.here, hls, take,
    p.name.name_eq, hbrace]
  rw [if_pos trivial, bind_of_ok (Run.read_eq_ok_iff.2 ⟨_, hpast, rfl⟩)]
  rfl

/-- **Written declarations are noted** in the order in which they stand. -/
theorem declareUpTo_of_reads {ps done : List Procedure} {ls rest : Lexemes} {bound : Nat}
    (hbound : ls.size ≤ bound) (hb : ls.Bare) (ht : Declares done m.procedures)
    (hrest : nextIs "proc" rest = .ok false rest) (h : ls.Reads (ps.flatMap Procedure.tokens) rest)
    (hls : m.lexemes = ls) :
    ∃ table, Declares (done ++ ps) table ∧
      Program.declareUpTo (bound + 1) m =
        .ok () { m with lexemes := rest, procedures := table } := by
  -- the induction is on the declarations that are left, with those that are done in the table
  induction ps generalizing m done ls bound with
  | nil =>
    obtain rfl := reads_nil_iff.1 h
    refine ⟨m.procedures, by simpa using ht, ?_⟩
    rw [← hls] at hrest ⊢
    rw [Program.declareUpTo, bind_of_ok (Run.read_eq_ok_iff.2 ⟨_, hrest, rfl⟩)]
    rfl
  | cons p ps ih =>
    obtain ⟨mid, hp, hps⟩ := reads_append_iff.1 h
    obtain ⟨entry, hentry, hbody, hnext⟩ := declareNext_of_reads p hls hb hp
    have hproc : nextIs "proc" ls = .ok true ls := by
      obtain ⟨a, _, rfl, -⟩ := reads_cons_iff.1 hp
      exact nextIs_token _ _ _ _
    -- a declaration is not empty, so the bound is not used up
    have hlt : mid.size < bound := by
      obtain ⟨a, tail, rfl, htail⟩ := reads_cons_iff.1 hp
      exact Nat.lt_of_lt_of_le (Nat.lt_succ_of_le htail.reaches.size_le) hbound
    obtain ⟨bound, rfl⟩ := Nat.exists_eq_add_one_of_ne_zero (Nat.ne_zero_of_lt hlt)
    obtain ⟨table, htable, hdone⟩ := ih (m := { m with
        lexemes := mid, procedures := m.procedures.insert p.name.text entry })
      (Nat.le_of_lt_succ hlt) (hp.bare hb) (ht.insert p hentry hbody) hps rfl
    refine ⟨table, by simpa using htable, ?_⟩
    rw [← hls] at hproc
    rw [Program.declareUpTo, bind_of_ok (Run.read_eq_ok_iff.2 ⟨_, hproc, rfl⟩)]
    refine (bind_of_ok hnext _).trans ?_
    exact hdone

/-- **All declarations of a script are noted**, up to its `main`. -/
theorem declareAll_of_reads {ps : List Procedure} {p : Position} {ls rest : Lexemes} (hb : ls.Bare)
    (h : ls.Reads (ps.flatMap Procedure.tokens) (.token p (.word "main") rest))
    (hls : m.lexemes = ls) (hm : m.procedures = .empty) :
    ∃ table, Declares ps table ∧ Program.declareAll m =
      .ok () { m with lexemes := .token p (.word "main") rest, procedures := table } := by
  obtain ⟨table, htable, hdone⟩ := declareUpTo_of_reads (Nat.le_refl _) hb (hm ▸ declares_nil)
    (nextIs_token _ _ _ _) h hls
  refine ⟨table, htable, ?_⟩
  rw [← hls] at hdone
  have hhere : (Run.here : Run σ τ Lexemes) m = .ok m.lexemes m := rfl
  rw [Program.declareAll, bind_of_ok hhere, bind_of_ok hdone]
  rfl

end Tree

/-! ### Runs -/

/-- **What is seen of a run** of a source: how it ends, with the number and the text of its message,
and what it leaves of the agent and the output. -/
def Run.seen {σ τ α : Type} (src : Source) :
    EStateM.Result (Halt Failure) (Machine σ τ) α → EStateM.Result (Halt Fault) (Scene σ τ) α
  | .ok a m => .ok a m.scene
  | .error h m => .error (h.map fun f => .ofDiagnostic (f.diagnostic src)) m.scene

/-- A result that mirrors another one is seen as that one. -/
theorem Mirrors.seen_eq {σ τ α : Type} {m : Machine σ τ} {rest : Lexemes}
    {r : EStateM.Result (Halt Failure) (Machine σ τ) α}
    {w : EStateM.Result (Halt Fault) (Scene σ τ) α} (h : Mirrors m rest r w) (src : Source) :
    Run.seen src r = w := by
  cases h with
  | ok a s => rfl
  | error h m' =>
    -- only a failure has a message; what a run is given up or aborted for is seen as it is
    cases h with
    | failed f => rw [Run.seen, Halt.map, Halt.map, Failure.ofDiagnostic_diagnostic]
    | aborted a => rfl
    | unfinished => rfl

/-- **A script does what its tree means.** However a script is written, with whatever gaps between
its tokens, its run asks of the agent and prints what the walk through its tree does, in the same
order, and ends in the same way. The agent, the sink and the limits are arbitrary, so that the agent
may as well be one that keeps a record of everything. -/
theorem Program.run_eq_perform {src : Source} {s : Script} (h : src.Renders s) {σ τ : Type}
    (env : Context σ τ) (agent : σ) (output : τ) :
    Run.seen src (Program.run env (Machine.ofSource src agent output)) =
      s.perform env ⟨agent, output⟩ := by
  -- the tokens of the source are those of the script: declarations, the word, and a block
  obtain ⟨p, hreads⟩ := h.reads
  obtain ⟨mid, hprocs, hmain⟩ := reads_append_iff.1 hreads
  obtain ⟨q, start, rfl, hblock⟩ := reads_cons_iff.1 hmain
  have hb : src.lexemes.Bare := bare_ofPosition src.bytes
  obtain ⟨table, htable, hall⟩ := declareAll_of_reads (m := .ofSource src agent output) hb hprocs
    rfl rfl
  -- from here on no procedure is declared any more, and the run follows the walk
  let m : Machine σ τ := { Machine.ofSource src agent output with procedures := table }
  have hmain := blocks_blockHere (m := m) (Nat.zero_add env.maxDepth) htable
  -- what is left is followed part by part: the word, the block, and the call that stops the agent
  have hfollows : Follows m (.token q (.word "main") start) (.finish p)
      (do .read (.expect "main")
          Execution.blockHere env env.maxDepth
          let behind ← .here
          Execution.tell env behind.place .stop) (s.perform env) :=
    .read rfl <| (hmain s.main s.nearest (hprocs.bare hb).2 hblock).seq fun _ =>
      .here <| .ask _ _
  rw [Program.run, bind_of_ok hall]
  exact (hfollows ⟨agent, output⟩).seen_eq src

/-- A script with a procedure, each kind of repetition, and an `if` that is skipped. -/
def Tree.Script.walkAndTake : Script where
  procedures := [⟨⟨"walk", by decide⟩,
    .cons (.loop ⟨none, .clear .front⟩ (.single (.moves .step []))) .nil,
    ⟨trivial, trivial⟩⟩]
  main :=
    .cons (.times ⟨"2", 2, by decide⟩ (.block (.cons (.call ⟨"walk", by decide⟩) .nil)))
      (.cons (.choose ⟨some .bang, .seesGem⟩ (.single (.print "none")) (.single (.moves .take [])))
        .nil)
  nearest := ⟨⟨trivial, trivial⟩, ⟨rfl, trivial, trivial⟩, trivial⟩

/-- The same script, written with gaps and comments. -/
def Source.walkAndTake : Source where
  name := "walk.gs"
  bytes := Utf8.encode
    "proc walk\n\x7b while frontclear step; \x7d main \x7b do 2 \x7b call walk; \x7d // twice
    if ! seejem print \"none\"; else take; \x7d"

/-- A recorder walks one step, comes back to the test of the loop, and in the end takes the gems. -/
theorem Program.run_walkAndTake :
    Run.seen .walkAndTake (Program.run Execution.recorderContext (Machine.ofSource .walkAndTake
      ⟨[true, false, false, true], false, [], none, none, 0, []⟩ (.empty none))) =
    .ok () ⟨⟨[], false, [], none, none, 7, ["clear FRONT", "step", "clear FRONT", "clear FRONT",
      "seejem", "take", "stop"]⟩, .empty none⟩ := by
  rw [Program.run_eq_perform (s := .walkAndTake) ⟨by cbv, by cbv⟩]
  cbv

end GridScript
