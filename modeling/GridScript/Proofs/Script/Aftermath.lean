import GridScript.Proofs.Script.CallDepth
import GridScript.Proofs.Script.Sealing
import GridScript.Proofs.Text.Location

/-!
# What stands behind `main` does not matter

A run that succeeds has come to the brace that closes `main`. It has read the declarations, has gone
through blocks, forth and back, and no token that it has read reaches over that brace. So whatever
stands behind it, a run does the same.

There are two things in which the runs of two such scripts differ: the place where they are, and the
places that they have noted for the procedures. They are taken one after the other. It is known of a
block that it does the same in front of other bytes, with the same procedures. With other notes of
these procedures it does the same, because a call, where it differs, runs the same block in front of
other bytes.

* `Lexemes.Moved`, `Procedures.Moved` — the same block in front of two ends, and notes of the same
  procedures.
* `Run.Carries`, `Program.exists_declaredAll` — declarations in front of two ends.
* `Run.Renoted`, `Execution.renoted_blockHere` — runs with other notes.
* `Program.exists_moved` — whole runs, and `Program.aftermath_unread` what is seen of them.
-/

namespace GridScript

open Lexemes

/-! ### Blocks in front of other ends -/

/-- **The same block in front of two ends**, with the same code behind it up to the end. -/
def Lexemes.Moved (q x : Position) (body body' : Lexemes) : Prop :=
  ∃ block more left, body = .ofPosition (block ++ (more ++ q)) ∧
    body' = .ofPosition (block ++ (more ++ x)) ∧ AtBlock (more ++ q) (more ++ x) left body body'

/-- **Notes of the same procedures** in two scripts: the same names, declared in the same order. -/
def Procedures.Moved (q x : Position) (ps ps' : Procedures Lexemes) : Prop :=
  List.Forall₂ (fun e e' => e.1 = e'.1 ∧ Lexemes.Moved q x e.2 e'.2) ps.entries ps'.entries

namespace Procedures.Moved

variable {q x : Position} {ps ps' : Procedures Lexemes}

theorem insert (h : Procedures.Moved q x ps ps') (name : String) {body body' : Lexemes}
    (hbody : Lexemes.Moved q x body body') :
    Procedures.Moved q x (ps.insert name body) (ps'.insert name body') := by
  refine .cons ⟨rfl, hbody⟩ (List.rel_filter ?_ h)
  rintro e e' ⟨hname, -⟩
  simp only [hname]

/-- **What a name stands for** in either script. -/
theorem get? (h : Procedures.Moved q x ps ps') (name : String) :
    Option.Rel (Lexemes.Moved q x) (ps.get? name) (ps'.get? name) := by
  unfold Procedures.get?
  unfold Procedures.Moved at h
  -- the induction is on both tables at once, since they have their names in the same order
  generalize ps.entries = entries, ps'.entries = entries' at h
  induction h with
  | nil => exact .none
  | @cons e e' entries entries' he _ ih =>
    obtain ⟨key, body⟩ := e
    obtain ⟨_, body'⟩ := e'
    obtain ⟨rfl, hbody⟩ := he
    rw [List.lookup_cons, List.lookup_cons]
    cases name == key with
    | true => exact .some hbody
    | false => exact ih

end Procedures.Moved

/-- **A block that is skipped** is skipped in front of another end, up to that end. -/
theorem Reading.pastBlock_of_atBlock {q x : Position} {left : Nat} {body body' behind : Lexemes}
    (hat : AtBlock q x left body body') (h : pastBlock body = .ok () behind) :
    pastBlock body' = .ok () (.ofPosition x) := by
  -- skipping reads nothing behind the block, so that it ends in front of the other bytes too
  have hskip : Confined q x (AtBlock q x left) pastBlock pastBlock
      (Agreeing fun _ => Inside q x 0 left) :=
    confined_expect_atBlock.bind_eq fun _ => confined_pastClosingBrace 0
  have hboth := hskip body body' hat
  rw [h] at hboth
  generalize pastBlock body' = r at hboth
  cases hboth with
  | ok hinside =>
    obtain ⟨-, hinside⟩ := hinside
    rw [hinside.eq_behind.2]

/-- **A token in front of code** stands in front of the same code in front of any other end. -/
theorem Lexemes.exists_begun {p code q : Position} {t : Token}
    (h : ofPosition p = .token p t (.ofPosition (code ++ q))) (hcode : code ≠ []) :
    ∃ begun, p = begun ++ (code ++ q) ∧ ∀ x, ofPosition (begun ++ (code ++ x)) =
      .token (begun ++ (code ++ x)) t (.ofPosition (code ++ x)) := by
  obtain ⟨-, after, hscan, hafter⟩ := ofPosition_eq_token_iff.1 h
  obtain rfl := ofPosition_inj hafter
  obtain ⟨begun, rfl⟩ := Spelling.scan_suffix hscan
  refine ⟨begun, rfl, fun x => ?_⟩
  rw [← List.append_assoc]
  exact ofPosition_append hscan (fun hnil => absurd hnil hcode) x

/-- Nothing is no block. -/
theorem Lexemes.not_atBlock_nil {q : Position} {left : Nat} {body : Lexemes} :
    ¬ AtBlock q [] left body (.ofPosition []) := by
  intro h
  rw [ofPosition_of_end rfl] at h
  cases h

namespace Source

variable {src : Source} {p p' q : Position} {t : Token} {name : String} {body : Lexemes}

/-- **A token in front of a block**, in front of any other end. -/
theorem HasPlace.exists_headed (h : src.HasPlace (.token p t body))
    (hpast : Reading.pastBlock body = .ok () (.ofPosition q)) :
    ∃ begun block, block ≠ [] ∧ p = begun ++ (block ++ q) ∧ body = .ofPosition (block ++ q) ∧
      ∀ x, ofPosition (begun ++ (block ++ x)) =
        .token (begun ++ (block ++ x)) t (.ofPosition (block ++ x)) ∧
        AtBlock q x body.size body (.ofPosition (block ++ x)) := by
  have hbody : src.HasBlock body := ⟨h.behind_token, _, hpast⟩
  -- the block is the code from here to where skipping ends, and it is carried to any bytes
  obtain ⟨block, q', rfl, -, hskip, hat⟩ := hbody.exists_atBlock
  rw [hskip] at hpast
  obtain rfl := ofPosition_inj (EStateM.Result.ok.inj hpast).2
  -- the token does not look beyond the block, since there is one
  have hne : block ≠ [] := fun hnil => not_atBlock_nil (hnil ▸ hat [])
  obtain ⟨begun, hbegun, hmoved⟩ := exists_begun h.eq_ofPosition.symm hne
  exact ⟨begun, block, hne, hbegun, rfl, fun x => ⟨hmoved x, hat x⟩⟩

/-- **A declaration**, in front of any other end. -/
theorem HasPlace.exists_declaration (h : src.HasPlace (.token p t (.token p' (.word name) body)))
    (hpast : Reading.pastBlock body = .ok () (.ofPosition q)) :
    ∃ begun block, p = begun ++ (block ++ q) ∧ body = .ofPosition (block ++ q) ∧
      ∀ x, (∃ p', ofPosition (begun ++ (block ++ x)) =
        .token (begun ++ (block ++ x)) t (.token p' (.word name) (.ofPosition (block ++ x)))) ∧
        AtBlock q x body.size body (.ofPosition (block ++ x)) := by
  obtain ⟨begun, block, hne, rfl, hbody, hmoved⟩ := h.behind_token.exists_headed hpast
  -- the name and the block are the code that stands behind the first word
  have hname : Lexemes.token (begun ++ (block ++ q)) (.word name) body =
      .ofPosition (begun ++ block ++ q) := by
    rw [List.append_assoc]
    exact h.behind_token.eq_ofPosition
  have hcode : begun ++ block ≠ [] := fun hnil => hne (List.append_eq_nil_iff.1 hnil).2
  rw [hname] at h
  obtain ⟨first, hfirst, hboth⟩ := exists_begun h.eq_ofPosition.symm hcode
  refine ⟨first ++ begun, block, ?_, hbody, fun x => ⟨⟨begun ++ (block ++ x), ?_⟩, (hmoved x).2⟩⟩
  · have hplace : p = first ++ (begun ++ block ++ q) := hfirst
    simp only [hplace, List.append_assoc]
  · have hlast := hboth x
    rw [List.append_assoc begun, (hmoved x).1] at hlast
    rw [List.append_assoc]
    exact hlast

end Source

/-! ### Declarations -/

namespace Run

variable {σ τ : Type} {q x code mid rest : Position} {ps ps₁ ps₂ : Procedures Lexemes}

/-- **A computation that goes from some code to other code** in front of `x`. On the way it notes
the procedures that are noted in front of `q`. -/
def Carries (q x code rest : Position) (ps ps₁ : Procedures Lexemes) (run : Run σ τ Unit) : Prop :=
  ∀ w, w.lexemes = .ofPosition (code ++ x) → Procedures.Moved q x ps w.procedures →
    ∃ ps', Procedures.Moved q x ps₁ ps' ∧
      run w = .ok () { w with lexemes := .ofPosition (rest ++ x), procedures := ps' }

theorem Carries.bind {first second : Run σ τ Unit} (h : Carries q x code mid ps ps₁ first)
    (h' : Carries q x mid rest ps₁ ps₂ second) :
    Carries q x code rest ps ps₂ (first >>= fun _ => second) := by
  intro w hw hps
  obtain ⟨ps', hps', hfirst⟩ := h w hw hps
  obtain ⟨ps'', hps'', hsecond⟩ :=
    h' { w with lexemes := .ofPosition (mid ++ x), procedures := ps' } rfl hps'
  exact ⟨ps'', hps'', bind_eq_ok_iff.2 ⟨(), _, hfirst, hsecond⟩⟩

end Run

namespace Program

open Run

variable {σ τ : Type} {m m' : Machine σ τ}

/-- **A declaration** is a word and a name in front of a block that can be skipped. -/
theorem declareNext_eq_ok_iff : declareNext m = .ok () m' ↔
    ∃ p t p' name body behind, m.lexemes = .token p t (.token p' (.word name) body) ∧
      Reading.isName name = true ∧ Reading.pastBlock body = .ok () behind ∧
      m' = { m with lexemes := behind, procedures := m.procedures.insert name body } := by
  simp only [declareNext, bind_eq_ok_iff, discard_eq_ok_iff, read_eq_ok_iff, here_eq_ok_iff,
    Reading.take_eq_ok_iff, Reading.name_eq_ok_iff]
  -- four things are read and one is noted; each gives the form of what it has read
  constructor
  · rintro ⟨_, _, ⟨t, _, ⟨p, hls⟩, rfl⟩, name, _, ⟨rest, ⟨p', hname, hisName⟩, rfl⟩, _, _,
      ⟨rfl, rfl⟩, opens, _, ⟨_, hopens, rfl⟩, h⟩
    obtain rfl := Reading.eq_of_nextIs_eq_ok hopens
    cases opens with
    | false =>
      -- without a brace there is a mistake
      simp [bind_eq_ok_iff] at h
    | true =>
      obtain ⟨_, _, hread, h⟩ := bind_eq_ok_iff.1 h
      obtain ⟨behind, hpast, rfl⟩ := read_eq_ok_iff.1 hread
      cases h
      simp only at hname hpast
      exact ⟨p, t, p', name, _, behind, by rw [hls, hname], hisName, hpast, rfl⟩
  · rintro ⟨p, t, p', name, body, behind, hls, hname, hpast, rfl⟩
    -- skipping the body begins with its brace
    obtain ⟨_, inside, hopen, -⟩ := bind_eq_ok_iff.1 hpast
    obtain ⟨o, brace, hbody, hbrace⟩ := Reading.expect_eq_ok_iff.1 hopen
    have hopens : Reading.nextIs "\x7b" body = .ok true body :=
      Reading.nextIs_eq_true_iff.2 ⟨rfl, o, brace, inside, hbody, hbrace⟩
    refine ⟨(), _, ⟨t, _, ⟨p, hls⟩, rfl⟩, name, _, ⟨body, ⟨p', rfl, hname⟩, rfl⟩, _, _, ⟨rfl, rfl⟩,
      true, _, ⟨body, hopens, rfl⟩, ?_⟩
    exact bind_eq_ok_iff.2 ⟨(), _, read_eq_ok_iff.2 ⟨behind, hpast, rfl⟩, rfl⟩

/-- **A declaration in front of another end.** Where it has come to some code, it comes to the same
code in front of any other end. It begins with the same token there, and takes a token at least. -/
theorem exists_declaredNext {src : Source} {rest q : Position} (hm : m.In src)
    (h : declareNext m = .ok () m') (hbehind : m'.lexemes = .ofPosition (rest ++ q)) :
    ∃ code p t after, m.lexemes = .ofPosition (code ++ q) ∧ m.lexemes = .token p t after ∧
      m' = { m with lexemes := m'.lexemes, procedures := m'.procedures } ∧ ∀ x,
        (Lexemes.ofPosition (rest ++ x)).size < (Lexemes.ofPosition (code ++ x)).size ∧
        (∃ p' after', Lexemes.ofPosition (code ++ x) = .token p' t after') ∧
        Carries (σ := σ) (τ := τ) q x code rest m.procedures m'.procedures declareNext := by
  obtain ⟨p, t, p', name, body, behind, hls, hname, hpast, rfl⟩ := declareNext_eq_ok_iff.1 h
  obtain rfl : behind = .ofPosition (rest ++ q) := hbehind
  -- the declaration is its word, its name and its block, up to where it ends
  have hplace : src.HasPlace (.token p t (.token p' (.word name) body)) := hls ▸ hm.lexemes
  obtain ⟨begun, block, hp, hbody, hmoved⟩ := hplace.exists_declaration hpast
  refine ⟨begun ++ (block ++ rest), p, t, _, ?_, hls, rfl, fun x => ?_⟩
  · rw [hls, hplace.eq_ofPosition]
    simp only [List.append_assoc]
    exact congrArg _ hp
  · obtain ⟨⟨r, hhead⟩, hat⟩ := hmoved (rest ++ x)
    -- the same block is skipped in the other source, and less is left behind it
    have hpast' := Reading.pastBlock_of_atBlock hat hpast
    have hsize := (Reading.stretch_of_pastBlock hpast').reaches.size_le
    unfold Carries
    simp only [List.append_assoc, hhead]
    refine ⟨?_, ⟨_, _, rfl⟩, fun w hw hps => ?_⟩
    · simp only [Lexemes.size]
      omega
    · -- the block is noted, with the rest of the code behind it
      have hblock : Lexemes.Moved q x body (.ofPosition (block ++ (rest ++ x))) :=
        ⟨block, rest, _, hbody, rfl, hat⟩
      exact ⟨_, hps.insert name hblock,
        declareNext_eq_ok_iff.2 ⟨_, t, r, name, _, _, hw, hname, hpast', rfl⟩⟩

/-- **Declarations in front of another end**, up to code that begins with none. The bounds may be
different, as long as they do not show. -/
theorem exists_declared {src : Source} {rest q : Position} {bound : Nat}
    (hrest : ∀ x, Reading.nextIs "proc" (.ofPosition (rest ++ x)) =
      .ok false (.ofPosition (rest ++ x)))
    (hm : m.In src) (h : declareUpTo bound m = .ok () m')
    (hbehind : m'.lexemes = .ofPosition (rest ++ q)) :
    ∃ code, m.lexemes = .ofPosition (code ++ q) ∧
      m' = { m with lexemes := m'.lexemes, procedures := m'.procedures } ∧
      ∀ x bound', (Lexemes.ofPosition (code ++ x)).size < bound' → Carries (σ := σ) (τ := τ) q x
        code rest m.procedures m'.procedures (declareUpTo bound') := by
  -- the induction is on the bound; in the other source any bound will do that is large enough
  induction bound generalizing m with
  | zero => cases h
  | succ bound ih =>
    obtain ⟨found, _, hread, h⟩ := bind_eq_ok_iff.1 h
    obtain ⟨_, hnext, rfl⟩ := read_eq_ok_iff.1 hread
    obtain rfl := Reading.eq_of_nextIs_eq_ok hnext
    cases found with
    | false =>
      -- no declaration is left on either side
      cases h
      refine ⟨rest, hbehind, rfl, fun x bound' hbound w hw hps => ⟨w.procedures, hps, ?_⟩⟩
      obtain ⟨bound', rfl⟩ := Nat.exists_eq_add_one_of_ne_zero (Nat.ne_zero_of_lt hbound)
      have hnone : Reading.nextIs "proc" w.lexemes = .ok false (.ofPosition (rest ++ x)) := by
        rw [hw]
        exact hrest x
      exact bind_eq_ok_iff.2 ⟨false, _, read_eq_ok_iff.2 ⟨_, hnone, rfl⟩, rfl⟩
    | true =>
      obtain ⟨_, m₁, hdeclare, h⟩ := bind_eq_ok_iff.1 h
      have hm₁ : m₁.In src := (stays_declareNext m hm).of_ok hdeclare
      -- the declarations behind the first one come first: their code is what it stands in front of
      obtain ⟨mid, hmid, hsame, hothers⟩ := ih hm₁ h
      obtain ⟨code, p, t, after, hcode, hls, hsame₁, hone⟩ := exists_declaredNext hm hdeclare hmid
      refine ⟨code, hcode, by rw [hsame, hsame₁], fun x bound' hbound w hw hps => ?_⟩
      obtain ⟨hless, ⟨p', after', hhead⟩, hone⟩ := hone x
      -- behind the declaration less is left, which is under the bound that is left
      obtain ⟨bound', rfl⟩ := Nat.exists_eq_add_one_of_ne_zero (Nat.ne_zero_of_lt hbound)
      have hproc : Reading.nextIs "proc" w.lexemes = .ok true w.lexemes := by
        rw [hls, Reading.nextIs_token] at hnext
        rw [hw, hhead, Reading.nextIs_token, (EStateM.Result.ok.inj hnext).1]
      have hboth := hone.bind (hothers x bound' (by omega))
      obtain ⟨ps', hps', hrun⟩ := hboth w hw hps
      exact ⟨ps', hps', bind_eq_ok_iff.2 ⟨true, w, read_eq_ok_iff.2 ⟨_, hproc, rfl⟩, hrun⟩⟩

/-- **All procedures are declared in front of another end**, if behind them is a token that is no
`proc`. -/
theorem exists_declaredAll {src : Source} {rest q : Position} {t : Token}
    (ht : t.isSpelled "proc" = false)
    (hrest : ∀ x, ∃ after, Lexemes.ofPosition (rest ++ x) = .token (rest ++ x) t after)
    (hm : m.In src) (h : declareAll m = .ok () m')
    (hbehind : m'.lexemes = .ofPosition (rest ++ q)) :
    ∃ code, m.lexemes = .ofPosition (code ++ q) ∧
      m' = { m with lexemes := m'.lexemes, procedures := m'.procedures } ∧
      ∀ x, Carries (σ := σ) (τ := τ) q x code rest m.procedures m'.procedures declareAll := by
  simp only [declareAll, bind_eq_ok_iff, here_eq_ok_iff] at h
  obtain ⟨_, _, ⟨rfl, rfl⟩, _, m₁, hdeclare, _, _, ⟨rfl, rfl⟩, next, _, hpeek, h⟩ := h
  obtain ⟨_, hnext, rfl⟩ := read_eq_ok_iff.1 hpeek
  obtain rfl := Reading.eq_of_peek_eq_ok hnext
  obtain rfl : m₁ = m' := by
    -- that a token is next has only been looked at
    cases next with
    | none => cases h
    | some token =>
      cases h
      rfl
  -- the word that follows the declarations stands there whatever bytes are behind it
  have hnone (x : Position) : Reading.nextIs "proc" (.ofPosition (rest ++ x)) =
      .ok false (.ofPosition (rest ++ x)) := by
    obtain ⟨after, hafter⟩ := hrest x
    rw [hafter, Reading.nextIs_token, ht]
  obtain ⟨code, hcode, hsame, hothers⟩ := exists_declared hnone hm hdeclare hbehind
  refine ⟨code, hcode, hsame, fun x w hw hps => ?_⟩
  obtain ⟨after, hafter⟩ := hrest x
  obtain ⟨ps', hps', hrun⟩ := hothers x (w.lexemes.size + 1) (hw ▸ Nat.lt_succ_self _) w hw hps
  have hpeek' : Reading.peek (.ofPosition (rest ++ x)) =
      .ok (some t) (.ofPosition (rest ++ x)) := by
    rw [hafter]
    rfl
  refine ⟨ps', hps', ?_⟩
  simp only [declareAll, bind_eq_ok_iff, here_eq_ok_iff]
  exact ⟨_, _, ⟨rfl, rfl⟩, _, _, hrun, _, _, ⟨rfl, rfl⟩, some t, _,
    read_eq_ok_iff.2 ⟨_, hpeek', rfl⟩, rfl⟩

end Program

namespace Run

variable {σ τ α β : Type} {q x : Position} {ps ps' : Procedures Lexemes}

/-- **A run with other notes**: if it succeeds with the procedures `ps`, it leaves them as they are,
and the other run does the same with the procedures `ps'`. -/
def Renoted (ps ps' : Procedures Lexemes) (run run' : Run σ τ α) : Prop :=
  ∀ m a m', m.procedures = ps → run m = .ok a m' →
    m'.procedures = ps ∧
      run' { m with procedures := ps' } = .ok a { m' with procedures := ps' }

/-- Nothing but a call looks at the procedures. -/
theorem compatible_renoted (ps ps' : Procedures Lexemes) :
    Compatible (σ := σ) (τ := τ) fun x x' => Renoted ps ps' x x' where
  pure a := by
    rintro m _ _ hm ⟨⟩
    exact ⟨hm, rfl⟩
  giveUp := by
    intro _ m a m' _ h
    cases h
  fail e place := by
    intro m a m' _ h
    cases h
  bind hx hf := by
    intro m b m' hm h
    -- the notes are the same all along, so that they can be replaced by others
    obtain ⟨a, m₁, hfirst, h⟩ := bind_eq_ok_iff.1 h
    obtain ⟨hm₁, hfirst'⟩ := hx m a m₁ hm hfirst
    obtain ⟨hm', h'⟩ := hf a m₁ b m' hm₁ h
    exact ⟨hm', bind_eq_ok_iff.2 ⟨a, _, hfirst', h'⟩⟩
  here := by
    rintro m _ _ hm ⟨⟩
    exact ⟨hm, rfl⟩
  goTo ls := by
    rintro m _ _ hm ⟨⟩
    exact ⟨hm, rfl⟩
  read _ := by
    intro m a m' hm h
    obtain ⟨ls, hread, rfl⟩ := read_eq_ok_iff.1 h
    exact ⟨hm, read_eq_ok_iff.2 ⟨ls, hread, rfl⟩⟩

theorem ask_eq_ok_iff {place : Position} {request : EStateM (Trouble Diagnostic) σ α} {a : α}
    {m m' : Machine σ τ} : ask place request m = .ok a m' ↔
      ∃ s, request m.agent = .ok a s ∧ m' = { m with agent := s } := by
  rw [ask]
  cases request m.agent with
  | ok b s =>
    constructor
    · rintro ⟨⟩
      exact ⟨s, rfl, rfl⟩
    · rintro ⟨_, ⟨⟩, rfl⟩
      rfl
  | error e s => simp

theorem renoted_ask (place : Position) (request : EStateM (Trouble Diagnostic) σ α) :
    Renoted ps ps' (ask place request : Run σ τ α) (ask place request) := by
  intro m a m' hm h
  obtain ⟨s, hs, rfl⟩ := ask_eq_ok_iff.1 h
  exact ⟨hm, ask_eq_ok_iff.2 ⟨s, hs, rfl⟩⟩

theorem renoted_print (sink : Sink τ) (line : String) :
    Renoted ps ps' (print sink line : Run σ τ Unit) (print sink line) := by
  intro m a m' hm h
  rw [print] at h ⊢
  -- neither the sink nor the agent is asked about the notes
  cases hprint : sink.print line m.output with
  | ok u t =>
    rw [hprint] at h
    cases h
    exact ⟨hm, rfl⟩
  | error reason t =>
    rw [hprint] at h
    cases h

theorem deeper_eq_ok_iff {run : Run σ τ α} {m m' : Machine σ τ} {a : α} :
    deeper run m = .ok a m' ↔ ∃ m₁, run { m with depth := m.depth + 1 } = .ok a m₁ ∧
      m' = { m₁ with depth := m₁.depth - 1 } := by
  rw [deeper]
  cases run { m with depth := m.depth + 1 } with
  | ok b m₁ =>
    constructor
    · rintro ⟨⟩
      exact ⟨m₁, rfl, rfl⟩
    · rintro ⟨_, ⟨⟩, rfl⟩
      rfl
  | error e m₁ => simp

end Run

namespace Execution

open Run

variable {σ τ : Type} {env : Context σ τ} {src : Source} {q x : Position}
variable {ps ps' : Procedures Lexemes}

/-- **A block that has been executed** can be skipped, up to where the execution has come. -/
theorem exists_pastBlock {levels : Nat} {m m' : Machine σ τ} (hplace : src.HasPlace m.lexemes)
    (h : blockHere env levels m = .ok () m') :
    ∃ q, m'.lexemes = .ofPosition q ∧ Reading.pastBlock m.lexemes = .ok () (.ofPosition q) := by
  have hbare : m.lexemes.Bare := hplace.eq_ofPosition ▸ bare_ofPosition _
  rw [blockHere_eq] at h
  have hskip := (pastOne_of_instruction env _ _).pastBlock_of_block hbare h
  obtain ⟨q, hq⟩ := (Reading.stretch_of_pastBlock hskip).reaches.eq_ofPosition hplace.eq_ofPosition
  exact ⟨q, hq, hq ▸ hskip⟩

/-- **A block that has moved** does the same with the notes that have moved, once it does the same
with these notes where it is. -/
theorem moved_blockHere {levels b : Nat} {body body' : Lexemes} {m m' : Machine σ τ}
    (hat : AtBlock q x b body body') (hps : m.procedures.In src)
    (h : Renoted m.procedures ps' (blockHere env levels) (blockHere env levels))
    (hrun : blockHere env levels { m with lexemes := body } = .ok () m') :
    m'.procedures = m.procedures ∧
      blockHere env levels { m with lexemes := body', procedures := ps' } =
        .ok () { m' with lexemes := .ofPosition x, procedures := ps' } := by
  -- with the same notes, it does the same in front of the other bytes
  have hblock : Confined src q x (AtBlock q x b) (blockHere env levels) (blockHere env levels)
      (Agreeing fun _ => Inside q x 0 b) := confined_blockHere levels q x b
  have hbeside := hblock { m with lexemes := body } { m with lexemes := body' } ⟨hps, rfl, hat⟩
  rw [hrun] at hbeside
  generalize hthere : blockHere env levels { m with lexemes := body' } = r at hbeside
  cases hbeside with
  | @ok _ _ _ m₁ hm₁ =>
    -- and so it does with the other notes
    obtain ⟨hnotes, hother⟩ := h { m with lexemes := body' } () m₁ rfl hthere
    obtain ⟨-, hsame, -, hinside⟩ := hm₁
    rw [hsame, hinside.eq_behind.2] at hnotes hother
    exact ⟨hnotes, hother⟩

/-- **A call with other notes** runs the same block in front of other bytes, and comes back to where
it was made. -/
theorem renoted_visit (levels : Nat) (hps : ps.In src) {body body' : Lexemes}
    (hbody : Lexemes.Moved q x body body')
    (h : Renoted ps ps' (calleeHere env levels) (calleeHere env levels)) :
    Renoted ps ps' (visit (calleeHere env levels) body) (visit (calleeHere env levels) body') := by
  rintro m _ m' rfl hvisit
  simp only [visit, bind_eq_ok_iff, here_eq_ok_iff, deeper_eq_ok_iff, goTo_eq_ok_iff,
    read_eq_ok_iff] at hvisit ⊢
  obtain ⟨_, _, ⟨rfl, rfl⟩, _, _, ⟨m₁, ⟨_, _, rfl, hcallee⟩, rfl⟩, _, _, rfl, ls, hend, rfl⟩ :=
    hvisit
  cases levels with
  | zero => cases hcallee
  | succ levels =>
    -- the block is run in one more call on both sides
    obtain ⟨block, more, left, -, -, hat⟩ := hbody
    obtain ⟨hnotes, hthere⟩ :=
      moved_blockHere (m := { m with depth := m.depth + 1 }) hat hps h hcallee
    exact ⟨hnotes, _, _, ⟨rfl, rfl⟩, (), _, ⟨_, ⟨(), _, rfl, hthere⟩, rfl⟩, (), _, rfl, ls, hend,
      rfl⟩

/-- **A call behind the name** with other notes. -/
theorem renoted_callNamed (levels : Nat) (hps : ps.In src) (hmoved : Procedures.Moved q x ps ps')
    (h : Renoted ps ps' (calleeHere env levels) (calleeHere env levels)) (place : Position)
    (name : String) : Renoted ps ps' (callNamed env (calleeHere env levels) place name)
      (callNamed env (calleeHere env levels) place name) := by
  intro m a m' hm hcall
  -- a name that is not noted, or a call too deep, does not succeed
  rcases callNamed_cases env (calleeHere env levels) place name m with
    ⟨-, heq⟩ | ⟨body, hbody, ⟨-, heq⟩ | ⟨hdepth, heq⟩⟩
  · rw [heq] at hcall
    cases hcall
  · rw [heq] at hcall
    cases hcall
  · -- the name is also noted in the other table, of a block that has moved
    rw [heq] at hcall
    have hget := hmoved.get? name
    rw [← hm, hbody] at hget
    generalize hbody' : ps'.get? name = o at hget
    cases hget with
    | @some _ body' hblock =>
      obtain ⟨hm', hvisit⟩ := renoted_visit levels hps hblock h m a m' hm hcall
      refine ⟨hm', ?_⟩
      rw [callNamed, bind_of_ok (get_apply _)]
      simp only [hbody', if_neg (Nat.not_le_of_lt hdepth)]
      exact hvisit

/-- **A block with other notes**, once it is known of what it calls procedures by. -/
theorem renoted_blockHere_of_callee (levels : Nat) (hps : ps.In src)
    (hmoved : Procedures.Moved q x ps ps')
    (h : Renoted ps ps' (calleeHere env levels) (calleeHere env levels)) :
    Renoted ps ps' (blockHere env levels) (blockHere env levels) := by
  have h' := compatible_renoted (σ := σ) (τ := τ) ps ps'
  rw [blockHere_eq, ← Dealings.block_of]
  refine h'.dealt ⟨fun _ _ => renoted_ask _ _, fun _ _ => renoted_ask _ _,
    fun _ => renoted_print _ _, ?_, rfl⟩
  exact h'.bind h'.here fun start => h'.bind (h'.read Reading.terminates_name) fun name =>
    renoted_callNamed levels hps hmoved h start.place name

/-- **A block with other notes**, by the calls that are left. -/
theorem renoted_blockHere (levels : Nat) (hps : ps.In src) (hmoved : Procedures.Moved q x ps ps') :
    Renoted ps ps' (blockHere env levels) (blockHere env levels) := by
  have hcallee : Renoted ps ps' (calleeHere env levels) (calleeHere env levels) := by
    induction levels with
    | zero => exact (compatible_renoted ps ps').giveUp
    | succ levels ih => exact renoted_blockHere_of_callee levels hps hmoved ih
  exact renoted_blockHere_of_callee levels hps hmoved hcallee

end Execution

/-! ### Offsets -/

/-- **The first bytes of a source**, up to an offset, in front of other bytes. -/
def Source.cutAt (src : Source) (offset : Nat) (bytes : List UInt8) : Source :=
  { src with bytes := src.bytes.take offset ++ bytes }

/-- **Procedures with the offsets of their bodies**, the last declaration first. -/
def Source.offsetsOf (src : Source) (ps : Procedures Lexemes) : List (String × Nat) :=
  ps.entries.map fun e => (e.1, src.offsetOf e.2.place)

/-- **Two states that are the same**, each in its source: at the same offset, with procedures of the
same names at the same offsets, and with the same agent and the same output. -/
structure Machine.SameAt {σ τ : Type} (src src' : Source) (m m' : Machine σ τ) : Prop where
  offset : src'.offsetOf m'.lexemes.place = src.offsetOf m.lexemes.place
  procedures : src'.offsetsOf m'.procedures = src.offsetsOf m.procedures
  depth : m'.depth = m.depth
  agent : m'.agent = m.agent
  output : m'.output = m.output

/-- **The same code in front of two ends** begins at the same offset. -/
theorem Source.offsetOf_eq {src src' : Source} {code q x : Position} (part : Position)
    (h : src.bytes = code ++ q) (h' : src'.bytes = code ++ x) :
    src'.offsetOf (part ++ x) = src.offsetOf (part ++ q) := by
  simp only [offsetOf, size, h, h', List.length_append]
  omega

/-- **Procedures that have moved** are at the same offsets. -/
theorem Procedures.Moved.offsetsOf_eq {src src' : Source} {code q x : Position}
    {ps ps' : Procedures Lexemes} (hps : Procedures.Moved q x ps ps')
    (h : src.bytes = code ++ q) (h' : src'.bytes = code ++ x) :
    src'.offsetsOf ps' = src.offsetsOf ps := by
  unfold Source.offsetsOf
  unfold Procedures.Moved at hps
  -- the induction is on both tables at once; a block keeps its offset, since the code is the same
  generalize ps.entries = entries, ps'.entries = entries' at hps
  induction hps with
  | nil => rfl
  | @cons e e' entries entries' he _ ih =>
    obtain ⟨hname, block, more, left, hbody, hbody', -⟩ := he
    have hoffset : src'.offsetOf e'.2.place = src.offsetOf e.2.place := by
      rw [hbody, hbody', place_ofPosition, place_ofPosition, ← List.append_assoc,
        ← List.append_assoc]
      exact Source.offsetOf_eq _ h h'
    rw [List.map_cons, List.map_cons, ih, hname, hoffset]

/-! ### Whole runs -/

namespace Program

open Run

variable {σ τ : Type} {src : Source} {env : Context σ τ} {m m' : Machine σ τ}

/-- **A run in front of another end.** Where it has succeeded, it has come to some place. If it has
begun in front of another end than what stands there, it does the same. -/
theorem exists_moved (hm : m.In src) (h : run env m = .ok () m') :
    ∃ code q, m.lexemes = .ofPosition (code ++ q) ∧ m'.lexemes = .ofPosition q ∧
      ∀ x ps, Procedures.Moved q x m.procedures ps →
        ∃ ps', Procedures.Moved q x m'.procedures ps' ∧
          run env { m with lexemes := .ofPosition (code ++ x), procedures := ps } =
            .ok () { m' with lexemes := .ofPosition x, procedures := ps' } := by
  simp only [run, bind_eq_ok_iff, here_eq_ok_iff] at h
  obtain ⟨_, m₁, hdeclare, _, m₂, hword, _, m₃, hmain, _, _, ⟨rfl, rfl⟩, hstop⟩ := h
  obtain ⟨body, hexpect, rfl⟩ := read_eq_ok_iff.1 hword
  obtain ⟨p, t, hls, ht⟩ := Reading.expect_eq_ok_iff.1 hexpect
  have hm₁ : m₁.In src := (stays_declareAll m hm).of_ok hdeclare
  have hplace : src.HasPlace (.token p t body) := hls ▸ hm₁.lexemes
  -- the run succeeds, so that its block is skipped as a whole
  obtain ⟨q, hq, hskip⟩ := Execution.exists_pastBlock hplace.behind_token hmain
  obtain ⟨begun, block, -, hp, -, hmoved⟩ := hplace.exists_headed hskip
  -- the word in front of it is what the declarations have come to
  have hrest (x : Position) : ∃ after, Lexemes.ofPosition (begun ++ block ++ x) =
      .token (begun ++ block ++ x) t after := by
    rw [List.append_assoc]
    exact ⟨_, (hmoved x).1⟩
  have hlast : m₁.lexemes = .ofPosition (begun ++ block ++ q) := by
    rw [hls, hplace.eq_ofPosition, List.append_assoc]
    exact congrArg _ hp
  obtain ⟨code, hcode, hsame, hdeclared⟩ := exists_declaredAll
    (Token.isSpelled_eq_false ht (by decide)) hrest hm hdeclare hlast
  obtain ⟨s, hs, rfl⟩ := ask_eq_ok_iff.1 hstop
  refine ⟨code, q, hcode, hq, fun x ps hps => ?_⟩
  -- the same declarations, then the same word, and then the same block
  obtain ⟨hhead, hat⟩ := hmoved x
  obtain ⟨ps', hps', hdeclare'⟩ := hdeclared x
    { m with lexemes := .ofPosition (code ++ x), procedures := ps } rfl hps
  have hword' : Reading.expect "main" (.ofPosition (begun ++ block ++ x)) =
      .ok () (.ofPosition (block ++ x)) := by
    rw [List.append_assoc]
    exact Reading.expect_eq_ok_iff.2 ⟨_, t, hhead, ht⟩
  -- the block is run with the notes that the declarations have left on either side
  obtain ⟨hnotes, hmain'⟩ := Execution.moved_blockHere hat hm₁.procedures
    (Execution.renoted_blockHere env.maxDepth hm₁.procedures hps') hmain
  rw [hsame] at hmain'
  refine ⟨ps', hnotes ▸ hps', ?_⟩
  simp only [run, bind_eq_ok_iff, here_eq_ok_iff]
  -- the agent is told to stop, wherever that is
  exact ⟨_, _, hdeclare', _, _, read_eq_ok_iff.2 ⟨_, hword', rfl⟩, _, _, hmain', _, _, ⟨rfl, rfl⟩,
    ask_eq_ok_iff.2 ⟨s, hs, rfl⟩⟩

/-- **A run in front of other bytes**: where it ends the source may go on in another way. -/
theorem exists_sameAt {agent : σ} {output : τ}
    (h : run env (.ofSource src agent output) = .ok () m) (t : List UInt8) :
    let src' := src.cutAt (src.offsetOf m.lexemes.place) t
    ∃ m', run env (.ofSource src' agent output) = .ok () m' ∧ Machine.SameAt src src' m m' := by
  intro src'
  obtain ⟨code, q, hcode, hq, hmoved⟩ := exists_moved (Machine.in_ofSource src agent output) h
  have hbytes : src.bytes = code ++ q := ofPosition_inj hcode
  -- what is cut off is what stands behind the last token of the code
  have hcut : src.bytes.take (src.offsetOf q) = code := by
    have hsuffix : q <:+ src.bytes := hbytes ▸ List.suffix_append code q
    exact List.append_cancel_right ((Source.take_offsetOf hsuffix).symm.trans hbytes)
  have hbytes' : src'.bytes = code ++ t := by
    show src.bytes.take (src.offsetOf m.lexemes.place) ++ t = code ++ t
    rw [hq, place_ofPosition, hcut]
  -- a run begins with no procedures, which are the same in every source
  obtain ⟨ps', hps', hrun⟩ := hmoved t .empty .nil
  refine ⟨{ m with lexemes := .ofPosition t, procedures := ps' }, ?_, ?_,
    hps'.offsetsOf_eq hbytes hbytes', rfl, rfl, rfl⟩
  · show run env ⟨.ofPosition src'.bytes, .empty, 0, agent, output⟩ = _
    rw [hbytes']
    exact hrun
  · rw [hq, place_ofPosition, place_ofPosition]
    exact Source.offsetOf_eq [] hbytes hbytes'

/-- **What stands behind `main` is not read.** A run that succeeds has come to some offset, behind
the brace that closes `main`. From there on the source may go on with any bytes at all. The run of
that script also succeeds, at the same offset, with the same procedures at the same offsets, and it
leaves the agent and the output behind in the same states. If both runs are put on record, the same
calls to the agent and the same lines are on record. -/
theorem aftermath_unread {agent : σ} {output : τ}
    (h : run env (.ofSource src agent output) = .ok () m) (t : List UInt8) :
    let src' := src.cutAt (src.offsetOf m.lexemes.place) t
    let noted (s : Source) := run env.recording (.ofSource s ⟨agent, []⟩ ⟨output, []⟩)
    ∃ m' r r', run env (.ofSource src' agent output) = .ok () m' ∧ Machine.SameAt src src' m m' ∧
      noted src = .ok () r ∧ m = r.unrecorded ∧ noted src' = .ok () r' ∧ m' = r'.unrecorded ∧
      Machine.SameAt src src' r r' := by
  intro src' noted
  have hplain (s : Source) :
      run env (.ofSource s agent output) = onState Machine.unrecorded (noted s) := by
    have hrun := run_onRecord env (.ofSource s agent output)
      (.ofSource s ⟨agent, []⟩ ⟨output, []⟩) rfl
    exact hrun.eq_onState
  -- the run on record is carried over, and what is not on record is a view of it
  rw [hplain] at h
  cases hnoted : noted src with
  | error e r =>
    rw [hnoted] at h
    cases h
  | ok u r =>
    rw [hnoted] at h
    cases h
    obtain ⟨r', hnoted', hsame⟩ := exists_sameAt hnoted t
    obtain ⟨hoffset, hprocedures, hdepth, hagent, houtput⟩ := hsame
    refine ⟨r'.unrecorded, r, r', ?_, ⟨hoffset, hprocedures, hdepth, ?_, ?_⟩, rfl, rfl, hnoted',
      rfl, ⟨hoffset, hprocedures, hdepth, hagent, houtput⟩⟩
    · rw [hplain]
      exact congrArg (onState Machine.unrecorded) hnoted'
    · exact congrArg Recorded.state hagent
    · exact congrArg Recorded.state houtput

end Program

/-- A script with a word behind its `main`. -/
def Source.errand : Source where
  name := "errand.gs"
  bytes := Utf8.encode "proc walk \x7b step; \x7d main \x7b do 2 call walk; \x7d take;"

/-- The procedure is called twice, and the word behind `main` is not read. -/
theorem Program.run_errand :
    (match run Execution.recorderContext (Machine.ofSource .errand
        ⟨[], false, [], none, none, 0, []⟩ (.empty none)) with
      | .ok () m => some (Source.errand.offsetOf m.lexemes.place, m.agent.log)
      | _ => none) = some (44, ["step", "step", "stop"]) := by
  decide +kernel

/-- In the place of that word there may be an `else` and a string that does not end. -/
theorem Program.aftermath_unread_errand :
    let start : Recorder := ⟨[], false, [], none, none, 0, []⟩
    let cut := Source.errand.cutAt 44 (Utf8.encode " else \"")
    ∃ m m', run Execution.recorderContext (.ofSource .errand start (.empty none)) = .ok () m ∧
      run Execution.recorderContext (.ofSource cut start (.empty none)) = .ok () m' ∧
      Machine.SameAt .errand cut m m' ∧ cut.offsetOf m'.lexemes.place = 44 ∧
      m'.agent.log = ["step", "step", "stop"] := by
  intro start cut
  -- the general theorem speaks of any run that succeeds, and this run does
  have hends := run_errand
  split at hends
  · next m hrun =>
    simp only [Option.some.injEq, Prod.mk.injEq] at hends
    obtain ⟨hoffset, hlog⟩ := hends
    obtain ⟨m', r, r', hrun', hsame, -⟩ := aftermath_unread hrun (Utf8.encode " else \"")
    rw [hoffset] at hrun' hsame
    exact ⟨m, m', hrun, hrun', hsame, hsame.offset.trans hoffset, hsame.agent ▸ hlog⟩
  · cases hends

end GridScript
