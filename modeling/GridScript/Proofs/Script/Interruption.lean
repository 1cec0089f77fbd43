import GridScript.Proofs.Script.Conversing

/-!
# A run stops at its first failure

A run is compared with the run in which one request to the agent, or one line of output, fails. Both
are the same dialogue, so the comparison is about dialogues: up to the saying that fails, both are
heard in the same way, and a dialogue that is not heard out is over.

* `Dialogue.Interrupts` — who hears as another does, except for one saying.
* `Dialogue.perform_of_few`, `Dialogue.perform_of_enough` — a dialogue that is over before, and one
  that is not.
* `Agent.failingAfter`, `Sink.refusingAfter` — an agent and a sink that fail once.
* `Program.stops_at_first_failure` — whole runs, with what they report.
-/

namespace GridScript

/-- The place that a call is about. A line of output is about none. -/
def Saying.place : Saying → Position
  | tell place _ | ask place _ => place
  | print _ => []

namespace Dialogue

variable {ω ω' α : Type}

/-- The number of marked sayings in a chronicle. -/
def marked (mark : Saying → Bool) (said : List (Saying × ω)) : Nat :=
  said.countP fun e => mark e.1

theorem marked_cons (mark : Saying → Bool) (what : Saying) (w : ω) (said : List (Saying × ω)) :
    marked mark ((what, w) :: said) = (if mark what then 1 else 0) + marked mark said := by
  rw [marked, List.countP_cons, Nat.add_comm]
  rfl

/-- **The same ears up to one saying.** Whoever hears by `hear'` counts what is marked. It hears as
`hear` does, except that it halts at the marked saying that comes after `n` others. -/
structure Interrupts (hear : Hearer ω) (hear' : Hearer ω') (mark : Saying → Bool) (n : Nat)
    (counting : ω → Nat → ω') (halt : Saying → Halt Failure) (left : Saying → ω → ω) : Prop where
  hears : ∀ what w k, (mark what = true → k ≠ n) →
    hear' what (counting w k) =
      onState (counting · (k + if mark what then 1 else 0)) (hear what w)
  halts : ∀ what w, mark what = true →
    hear' what (counting w n) = .error (halt what) (counting (left what w) (n + 1))

variable {hear : Hearer ω} {hear' : Hearer ω'} {mark : Saying → Bool} {n : Nat}
variable {counting : ω → Nat → ω'} {halt : Saying → Halt Failure} {left : Saying → ω → ω}

/-- **Where too little is said** nothing is interrupted. -/
theorem perform_of_few (h : Interrupts hear hear' mark n counting halt left) (d : Dialogue α)
    {w : ω} {k : Nat} (hk : k + marked mark (d.chronicle hear w) ≤ n) :
    d.perform hear' (counting w k) =
        onState (counting · (k + marked mark (d.chronicle hear w))) (d.perform hear w) ∧
      (d.chronicle hear' (counting w k)).map Prod.fst = (d.chronicle hear w).map Prod.fst := by
  -- the induction is on the dialogue, and `k` of the marked sayings have been heard
  induction d generalizing w k with
  | ended r => cases r <;> exact ⟨rfl, rfl⟩
  | say what next ih =>
    -- this saying is not the one that is interrupted: it counts, and `n` are left behind it
    have hmark : mark what = true → k ≠ n := by
      intro hmark
      rw [chronicle, marked_cons, if_pos hmark] at hk
      omega
    have hhear' := h.hears what w k hmark
    -- the two hearers say the same of it, and the rest is said with the count moved on
    cases hhear : hear what w with
    | ok answer w' =>
      rw [hhear, onState] at hhear'
      rw [chronicle_say_of_ok hhear, marked_cons, ← Nat.add_assoc] at hk ⊢
      rw [perform_say_of_ok hhear', perform_say_of_ok hhear, chronicle_say_of_ok hhear']
      obtain ⟨hperform, hchronicle⟩ := ih answer hk
      exact ⟨hperform, congrArg (what :: ·) hchronicle⟩
    | error e w' =>
      rw [hhear, onState] at hhear'
      rw [perform_say_of_error hhear', perform_say_of_error hhear, chronicle_say_of_error hhear',
        chronicle_say_of_error hhear, marked_cons]
      exact ⟨rfl, rfl⟩

/-- **Where enough is said** the dialogue ends with the saying that is interrupted, in the state in
which it would have been heard. -/
theorem perform_of_enough (h : Interrupts hear hear' mark n counting halt left) (d : Dialogue α)
    {w u : ω} {k : Nat} {what : Saying} {before after : List (Saying × ω)}
    (hsaid : d.chronicle hear w = before ++ (what, u) :: after) (hwhat : mark what = true)
    (hk : k + marked mark before = n) :
    d.perform hear' (counting w k) = .error (halt what) (counting (left what u) (n + 1)) ∧
      (d.chronicle hear' (counting w k)).map Prod.fst = before.map Prod.fst ++ [what] := by
  -- the induction is on the dialogue; before the saying is reached, `before` becomes shorter
  induction d generalizing w k before with
  | ended r => simp [chronicle] at hsaid
  | say first next ih =>
    cases before with
    | nil =>
      -- the first saying is the one
      rw [chronicle, List.nil_append] at hsaid
      obtain ⟨rfl, rfl⟩ := Prod.mk.inj (List.cons.inj hsaid).1
      have hhalts := h.halts first w hwhat
      obtain rfl : k = n := hk
      rw [perform_say_of_error hhalts, chronicle_say_of_error hhalts]
      exact ⟨rfl, rfl⟩
    -- this saying comes sooner, so that it is answered and counted
    | cons e before =>
      have hfirst : (first, w) = e := by
        rw [chronicle, List.cons_append] at hsaid
        exact (List.cons.inj hsaid).1
      subst hfirst
      rw [marked_cons, ← Nat.add_assoc] at hk
      have hmark : mark first = true → k ≠ n := by
        intro hmark
        rw [if_pos hmark] at hk
        omega
      have hhear' := h.hears first w k hmark
      cases hhear : hear first w with
      | ok answer w' =>
        rw [hhear, onState] at hhear'
        rw [chronicle_say_of_ok hhear] at hsaid
        rw [perform_say_of_ok hhear', chronicle_say_of_ok hhear']
        obtain ⟨hperform, hchronicle⟩ := ih answer (List.cons.inj hsaid).2 hk
        exact ⟨hperform, congrArg (first :: ·) hchronicle⟩
      -- a saying that fails is the last one, and none would stand behind it
      | error e' w' =>
        rw [chronicle_say_of_error hhear] at hsaid
        simp at hsaid

end Dialogue

/-! ### Agents and sinks that fail -/

/-- **A state with a count** of what has been asked of it. -/
structure Counted (σ : Type) where
  state : σ
  count : Nat

/-- **A request that fails** where `n` have been made before, and otherwise is the request. -/
def failAfter {ε σ α : Type} (n : Nat) (e : ε) (left : σ → σ) (request : EStateM ε σ α) :
    EStateM ε (Counted σ) α := fun s =>
  if s.count = n then .error e ⟨left s.state, s.count + 1⟩
  else onState (⟨·, s.count + 1⟩) (request s.state)

/-- **The agent that refuses one request**, the one after `n` others. It answers all others as the
agent does. -/
def Agent.failingAfter {σ : Type} (agent : Agent σ) (n : Nat) (e : Diagnostic) :
    Agent (Counted σ) where
  obey c := failAfter n (.failed e) id (agent.obey c)
  answer c := failAfter n (.failed e) id (agent.answer c)

/-- **The sink that refuses one line**, the one after `n` others, of which something may be left. -/
def Sink.refusingAfter {τ : Type} (sink : Sink τ) (n : Nat) (reason : String)
    (left : String → τ → τ) : Sink (Counted τ) where
  print line := failAfter n reason (left line) (sink.print line)

namespace Context

variable {σ τ : Type} (agent : Agent σ) (sink : Sink τ) (maxDepth passes n : Nat)

/-- A scene whose agent counts. -/
def countingCalls (s : Tree.Scene σ τ) (k : Nat) : Tree.Scene (Counted σ) τ :=
  ⟨⟨s.agent, k⟩, s.output⟩

/-- A scene whose output counts. -/
def countingLines (s : Tree.Scene σ τ) (k : Nat) : Tree.Scene σ (Counted τ) :=
  ⟨s.agent, ⟨s.output, k⟩⟩

theorem interrupts_failingAfter (e : Diagnostic) :
    Dialogue.Interrupts (hear ⟨agent, sink, maxDepth, passes⟩)
      (hear ⟨agent.failingAfter n e, sink, maxDepth, passes⟩) Saying.isCall n countingCalls
      (fun what => .failed (.refused e what.place)) fun _ s => s where
  -- the counting agent hears a command and a question alike; printing does not count
  hears what w k hk := by
    cases what with
    | tell place c =>
      simp only [hear, Agent.failingAfter, failAfter, countingCalls, if_neg (hk rfl)]
      cases agent.obey c w.agent <;> rfl
    | ask place c =>
      simp only [hear, Agent.failingAfter, failAfter, countingCalls, if_neg (hk rfl)]
      cases agent.answer c w.agent <;> rfl
    | print line =>
      simp only [hear, countingCalls]
      cases sink.print line w.output <;> rfl
  -- at the call that is refused the agent has not been asked
  halts what w hwhat := by
    cases what with
    | tell place c => simp [hear, Agent.failingAfter, failAfter, countingCalls]; rfl
    | ask place c => simp [hear, Agent.failingAfter, failAfter, countingCalls]; rfl
    | print line => cases hwhat

/-- The scene that a refused line leaves behind. -/
def leaving (left : String → τ → τ) : Saying → Tree.Scene σ τ → Tree.Scene σ τ
  | .print line, s => { s with output := left line s.output }
  | _, s => s

theorem interrupts_refusingAfter (reason : String) (left : String → τ → τ) :
    Dialogue.Interrupts (hear ⟨agent, sink, maxDepth, passes⟩)
      (hear ⟨agent, sink.refusingAfter n reason left, maxDepth, passes⟩) Saying.isPrint n
      countingLines (fun _ => .failed (.unwritten reason)) (leaving left) where
  -- the counting sink hears lines only
  hears what w k hk := by
    cases what with
    | tell place c =>
      simp only [hear, countingLines]
      cases agent.obey c w.agent <;> rfl
    | ask place c =>
      simp only [hear, countingLines]
      cases agent.answer c w.agent <;> rfl
    | print line =>
      simp only [hear, Sink.refusingAfter, failAfter, countingLines, if_neg (hk rfl)]
      cases sink.print line w.output <;> rfl
  halts what w hwhat := by
    cases what with
    | tell place c => cases hwhat
    | ask place c => cases hwhat
    | print line => simp [hear, Sink.refusingAfter, failAfter, countingLines, leaving]

end Context

/-! ### Whole runs -/

namespace Program

open Dialogue Context

/-- **What a run reports**: where it fails, a diagnostic about the source. -/
def reported {σ τ : Type} (env : Context σ τ) (src : Source) (s : Tree.Scene σ τ) :
    EStateM.Result (Halt Diagnostic) (Tree.Scene σ τ) Unit :=
  match played env src s with
  | .ok u v => .ok u v
  | .error h v => .error (h.map (·.diagnostic src)) v

/-- The diagnostic of a refusal is the one of the agent, which is made to be about the instruction
if it is about nothing yet. -/
theorem diagnostic_refused (src : Source) (e : Diagnostic) (place : Position) :
    let d := (Failure.refused e place).diagnostic src
    d.code = e.code ∧ d.category = e.category ∧ d.message = e.message ∧
      (e.location.isSome = true → d = e) ∧
      (e.location = none →
        d.location = some (src.locateNext place) ∧ d.sourceLine.isSome = true) := by
  obtain ⟨code, category, message, location, sourceLine⟩ := e
  cases location <;>
    simp [Failure.diagnostic, Source.annotate, Diagnostic.isUnlocated, Diagnostic.about]

section Interrupted

variable {σ σ' τ τ' : Type} {env : Context σ τ} {env' : Context σ' τ'} {src : Source}
variable {s : Tree.Scene σ τ} {d : Dialogue Unit} {mark : Saying → Bool} {n : Nat}
variable {counting : Tree.Scene σ τ → Nat → Tree.Scene σ' τ'} {halt : Saying → Halt Failure}
variable {left : Saying → Tree.Scene σ τ → Tree.Scene σ τ}

/-- **A run that is not interrupted** reports what it reports without counting. -/
theorem reported_of_few (h : Interrupts env.hear env'.hear mark n counting halt left)
    (hplayed : played env src s = d.perform env.hear s)
    (hplayed' : played env' src (counting s 0) = d.perform env'.hear (counting s 0))
    (hfew : marked mark (d.chronicle env.hear s) ≤ n) :
    reported env' src (counting s 0) =
        onState (counting · (marked mark (d.chronicle env.hear s))) (reported env src s) ∧
      (d.chronicle env'.hear (counting s 0)).map Prod.fst =
        (d.chronicle env.hear s).map Prod.fst := by
  have hcount : 0 + marked mark (d.chronicle env.hear s) ≤ n := by rwa [Nat.zero_add]
  obtain ⟨hperform, hchronicle⟩ := perform_of_few h d hcount
  refine ⟨?_, hchronicle⟩
  rw [reported, reported, hplayed', hperform, hplayed, Nat.zero_add]
  cases d.perform env.hear s <;> rfl

/-- **A run that is interrupted** reports what it is interrupted by. -/
theorem reported_of_enough (h : Interrupts env.hear env'.hear mark n counting halt left)
    (hplayed' : played env' src (counting s 0) = d.perform env'.hear (counting s 0))
    {before after : List (Saying × Tree.Scene σ τ)} {what : Saying} {u : Tree.Scene σ τ}
    (hsaid : d.chronicle env.hear s = before ++ (what, u) :: after) (hwhat : mark what = true)
    (hbefore : marked mark before = n) :
    (d.chronicle env'.hear (counting s 0)).map Prod.fst = before.map Prod.fst ++ [what] ∧
      reported env' src (counting s 0) =
        .error ((halt what).map (·.diagnostic src)) (counting (left what u) (n + 1)) := by
  have hcount : 0 + marked mark before = n := by rwa [Nat.zero_add]
  obtain ⟨hperform, hchronicle⟩ := perform_of_enough h d hsaid hwhat hcount
  refine ⟨hchronicle, ?_⟩
  rw [reported, hplayed', hperform]

end Interrupted

/-- **A run stops at its first failure and reports it.** A run is one dialogue with its agent and
its output, whoever they are. Where the agent refuses the call after `n` others, or the sink a line
after `n` others, then

* if the run makes no such call, or prints no such line, it goes on as before, word for word;
* otherwise it says the same up to that call or line, in the same states, and nothing after it. It
  fails with the refusal, which keeps its place if it has one, or with the message about output that
  cannot be written, which has none. -/
theorem stops_at_first_failure (src : Source) (maxDepth passes : Nat) :
    ∃ d : Dialogue Unit,
      ∀ {σ τ : Type} (agent : Agent σ) (sink : Sink τ) (s : Tree.Scene σ τ) (n : Nat),
      let env : Context σ τ := ⟨agent, sink, maxDepth, passes⟩
      let said := d.chronicle env.hear s
      played env src s = d.perform env.hear s ∧
      (∀ e : Diagnostic,
        let env' : Context (Counted σ) τ := ⟨agent.failingAfter n e, sink, maxDepth, passes⟩
        let said' := d.chronicle env'.hear (countingCalls s 0)
        let calls := marked Saying.isCall
        (calls said ≤ n →
          reported env' src (countingCalls s 0) =
              onState (countingCalls · (calls said)) (reported env src s) ∧
            said'.map Prod.fst = said.map Prod.fst) ∧
        ∀ before what u after, said = before ++ (what, u) :: after → what.isCall = true →
          calls before = n →
            said'.map Prod.fst = before.map Prod.fst ++ [what] ∧
            ∃ d : Diagnostic,
              reported env' src (countingCalls s 0) =
                .error (.failed d) (countingCalls u (n + 1)) ∧
              d.code = e.code ∧ d.category = e.category ∧ d.message = e.message ∧
              (e.location.isSome = true → d = e) ∧
              (e.location = none →
                d.location = some (src.locateNext what.place) ∧ d.sourceLine.isSome = true)) ∧
      ∀ (reason : String) (left : String → τ → τ),
        let env' : Context σ (Counted τ) :=
          ⟨agent, sink.refusingAfter n reason left, maxDepth, passes⟩
        let said' := d.chronicle env'.hear (countingLines s 0)
        let lines := marked Saying.isPrint
        (lines said ≤ n →
          reported env' src (countingLines s 0) =
              onState (countingLines · (lines said)) (reported env src s) ∧
            said'.map Prod.fst = said.map Prod.fst) ∧
        ∀ before line u after, said = before ++ (.print line, u) :: after → lines before = n →
          said'.map Prod.fst = before.map Prod.fst ++ [.print line] ∧
          ∃ d : Diagnostic,
            reported env' src (countingLines s 0) =
              .error (.failed d) ⟨u.agent, ⟨left line u.output, n + 1⟩⟩ ∧
            d.code = ⟨402⟩ ∧ d.location = none := by
  obtain ⟨d, -, hplayed⟩ := exists_dialogue src maxDepth passes
  refine ⟨thenStop d, fun {σ τ} agent sink s n => ⟨hplayed agent sink s, fun e => ?_,
    fun reason left => ?_⟩⟩
  · -- an agent that counts calls, and refuses one
    have hinterrupts := interrupts_failingAfter agent sink maxDepth passes n e
    have hplayed' := hplayed (agent.failingAfter n e) sink (countingCalls s 0)
    refine ⟨fun hfew => reported_of_few hinterrupts (hplayed agent sink s) hplayed' hfew,
      fun before what u after hsaid hwhat hbefore => ?_⟩
    obtain ⟨hchronicle, hreported⟩ := reported_of_enough hinterrupts hplayed' hsaid hwhat hbefore
    exact ⟨hchronicle, _, hreported, diagnostic_refused src e what.place⟩
  · -- a sink that counts lines, and refuses one
    have hinterrupts := interrupts_refusingAfter agent sink maxDepth passes n reason left
    have hplayed' := hplayed agent (sink.refusingAfter n reason left) (countingLines s 0)
    refine ⟨fun hfew => reported_of_few hinterrupts (hplayed agent sink s) hplayed' hfew,
      fun before line u after hsaid hbefore => ?_⟩
    obtain ⟨hchronicle, hreported⟩ := reported_of_enough hinterrupts hplayed' hsaid rfl hbefore
    exact ⟨hchronicle, (Failure.unwritten reason).diagnostic src, hreported, rfl, rfl⟩

end Program

end GridScript
