import GridScript.Proofs.Script.Conversing
import GridScript.Session

/-!
# How a session comes to its end

A session has steps that fail and steps that clean up after them, some of which fail in turn. Taken
together there are only three ways to the end, and the failure is always the one that there would be
with no cleaning up at all.

* `Session.interpret_eq` — a run, as a script up to its end and the stop there.
* `Session.Course` — the three ways; `Session.course_of_returned`.
* `Session.straight`, `Session.Course.ending_eq` — which failure is passed on.
-/

namespace GridScript

namespace Session

variable {χ τ α β : Type}

/-! ### Results -/

/-- What a computation ends with, whatever it leaves behind. -/
def ending {ε ω : Type} : EStateM.Result ε ω α → Except ε α
  | .ok a _ => .ok a
  | .error e _ => .error e

/-- What a computation leaves behind, however it ends. -/
def remains {ε ω : Type} : EStateM.Result ε ω α → ω
  | .ok _ w => w
  | .error _ w => w

/-- **A session that has come to its end**: it has succeeded or failed. Nothing has broken off, and
no loop has been given up. -/
def Returned {ω : Type} : EStateM.Result (Halt Diagnostic) ω α → Prop
  | .ok .. | .error (.failed _) _ => True
  | .error (.aborted _) _ | .error .unfinished _ => False

instance {ω : Type} (r : EStateM.Result (Halt Diagnostic) ω α) : Decidable (Returned r) :=
  match r with
  | .ok .. | .error (.failed _) _ => isTrue trivial
  | .error (.aborted _) _ | .error .unfinished _ => isFalse id

/-! ### Parts of a session -/

section Parts

variable (ch : Link χ) (settings : Settings) (sink : Sink τ) (passes : Nat) (src : Source)

/-- **A script up to its end**, where only the agent has to be told. The result is the place
there. -/
def toEnd : Action χ τ Position := fun s =>
  match Program.untilStop (context ch settings sink passes) (.ofSource src s.pilot s.output) with
  | .ok place m => .ok place ⟨m.agent, m.output⟩
  | .error e m => .error (e.map (·.diagnostic src)) ⟨m.agent, m.output⟩

/-- **The agent is told at the end of a script.** If it refuses, that is about the place there. -/
def signOffAt (place : Position) : Action χ τ Unit := fun s =>
  match signOff ch settings s with
  | .ok () s => .ok () s
  | .error e s => .error (e.map (src.annotate place)) s

/-- Where the message is about makes no difference to what the agent does. -/
theorem remains_signOffAt (place : Position) (s : Session χ τ) :
    remains (signOffAt ch settings src place s) = remains (signOff ch settings s) := by
  rw [signOffAt]
  cases signOff ch settings s <;> rfl

theorem interpret_eq : interpret ch settings sink passes src =
    toEnd ch settings sink passes src >>= signOffAt ch settings src := by
  funext s
  -- the run is that up to the stop, and then the stop as the agent is told of it
  rw [interpret, bind_apply, toEnd, Program.run_eq_untilStop, bind_apply]
  cases Program.untilStop (context ch settings sink passes) (.ofSource src s.pilot s.output) with
  | error e m => rfl
  | ok place m =>
    dsimp only
    simp only [Execution.tell, Run.ask, context, Pilot.agent, Pilot.diagnosed, Pilot.obey,
      signOffAt, signOff, piloting]
    cases Pilot.signOff ch settings.manner m.agent with
    | ok u p => rfl
    | error e p => cases e <;> rfl

/-- **A session with no thought for failures**: nothing is cleaned up. -/
def straight : Action χ τ Unit := do
  setOut ch settings
  interpret ch settings sink passes src
  leave ch

/-- **A session up to its own stop**: it is opened, and the script comes to its end. -/
def toStop : Action χ τ Position := do
  setOut ch settings
  toEnd ch settings sink passes src

/-- **A stop in vain**: the script has come to its end, and then the agent has not stopped. -/
def StopFails (s : Session χ τ) : Prop :=
  ∃ place s₁ e s₂, toStop ch settings sink passes src s = .ok place s₁ ∧
    signOff ch settings s₁ = .error e s₂

/-- What is left of a session after a failure: the agent has been told, and then the link has been
given up, whatever has come of either. -/
def released (s : Session χ τ) : Session χ τ :=
  remains (leave ch (remains (signOff ch settings s)))

/-! ### The ways to the end -/

/-- **How a session comes to its end.** -/
inductive Course (s : Session χ τ) : EStateM.Result (Halt Diagnostic) (Session χ τ) Unit → Prop
  /-- It cannot be opened, or the script fails. -/
  | brokenOff {d : Diagnostic} {s₁ : Session χ τ}
      (hscript : toStop ch settings sink passes src s = .error (.failed d) s₁) :
      Course s (.error (.failed d) (released ch settings s₁))
  /-- The script comes to its end, and the agent does not stop. -/
  | unheeded {d : Diagnostic} {place : Position} {s₁ s₂ : Session χ τ}
      (hscript : toStop ch settings sink passes src s = .ok place s₁)
      (hstop : signOffAt ch settings src place s₁ = .error (.failed d) s₂) :
      Course s (.error (.failed d) (released ch settings s₂))
  /-- The script comes to its end, and the agent stops. -/
  | completed {place : Position} {s₁ s₂ : Session χ τ}
      (hscript : toStop ch settings sink passes src s = .ok place s₁)
      (hstop : signOffAt ch settings src place s₁ = .ok () s₂) :
      Course s (leave ch s₂)

end Parts

/-! ### Cleaning up -/

/-- A result that has come to its end is a success or a failure. -/
theorem Returned.cases {ω : Type} {r : EStateM.Result (Halt Diagnostic) ω α} (h : Returned r) :
    (∃ v w, r = .ok v w) ∨ ∃ d w, r = .error (.failed d) w := by
  cases r with
  | ok v w => exact .inl ⟨v, w, rfl⟩
  | error e w =>
    cases e with
    | failed d => exact .inr ⟨d, w, rfl⟩
    | aborted a => exact h.elim
    | unfinished => exact h.elim

section Cleanup

variable {a : Action χ τ α} {cleanup : Action χ τ Unit} {s s₁ : Session χ τ} {d : Diagnostic}

theorem returned_of_bind {f : α → Action χ τ β} (h : Returned ((a >>= f) s)) : Returned (a s) := by
  cases ha : a s with
  | ok v s' => trivial
  | error e s' =>
    rw [bind_of_error ha] at h
    cases e <;> exact h

theorem returned_of_quietly (h : Returned (quietly cleanup s)) : Returned (cleanup s) := by
  rw [quietly] at h
  cases hclean : cleanup s with
  | ok u s' => trivial
  | error e s' =>
    rw [hclean] at h
    cases e <;> exact h

theorem quietly_of_returned (h : Returned (cleanup s)) :
    quietly cleanup s = .ok () (remains (cleanup s)) := by
  rw [quietly]
  rcases h.cases with ⟨u, s', hclean⟩ | ⟨d, s', hclean⟩ <;> rw [hclean] <;> rfl

/-- An action with a cleanup does not end before the action has. -/
theorem returned_of_elseQuietly (h : Returned (elseQuietly a cleanup s)) : Returned (a s) := by
  rw [elseQuietly] at h
  -- an abort passes through, so it would have been the end
  cases ha : a s with
  | ok v s' => trivial
  | error e s' =>
    rw [ha] at h
    cases e with
    | failed d => trivial
    | aborted a => exact h
    | unfinished => exact h

theorem elseQuietly_of_ok {v : α} (h : a s = .ok v s₁) : elseQuietly a cleanup s = .ok v s₁ := by
  rw [elseQuietly, h]

/-- The failure is that of the action, whatever has come of the cleanup. -/
theorem elseQuietly_of_failed (h : a s = .error (.failed d) s₁)
    (hreturned : Returned (elseQuietly a cleanup s)) :
    Returned (cleanup s₁) ∧
      elseQuietly a cleanup s = .error (.failed d) (remains (cleanup s₁)) := by
  have hclean : elseQuietly a cleanup s =
      (do quietly cleanup; throw (.failed d) : Action χ τ α) s₁ := by
    rw [elseQuietly, h]
  rw [hclean] at hreturned ⊢
  -- what follows the cleanup is a failure at once, so the cleanup is what has to come to its end
  have hcleanup := returned_of_quietly (returned_of_bind hreturned)
  rw [bind_of_ok (quietly_of_returned hcleanup)]
  exact ⟨hcleanup, rfl⟩

end Cleanup

section Courses

variable {ch : Link χ} {settings : Settings} {sink : Sink τ} {passes : Nat} {src : Source}
variable {s s₁ : Session χ τ} {d : Diagnostic}

/-- After an opening that fails the session is over. -/
theorem start_of_failed (h : setOut ch settings s = .error (.failed d) s₁)
    (hreturned : Returned (start ch settings s)) :
    start ch settings s = .error (.failed d) (released ch settings s₁) := by
  obtain ⟨hcleanup, hstart⟩ := elseQuietly_of_failed h hreturned
  -- the link is given up even if the agent has refused to stop
  have hstop := quietly_of_returned (returned_of_quietly (returned_of_bind hcleanup))
  rw [start, hstart, bind_of_ok hstop, released]

/-- After a run that fails the session is over. -/
theorem run_of_failed (h : interpret ch settings sink passes src s = .error (.failed d) s₁)
    (hreturned : Returned (elseQuietly (run ch settings sink passes src) (leave ch) s)) :
    elseQuietly (run ch settings sink passes src) (leave ch) s =
      .error (.failed d) (released ch settings s₁) := by
  have hrun : run ch settings sink passes src s =
      .error (.failed d) (remains (signOff ch settings s₁)) :=
    (elseQuietly_of_failed h (returned_of_elseQuietly hreturned)).2
  rw [(elseQuietly_of_failed hrun hreturned).2, released]

/-- **Every session takes one of the courses** to its end. -/
theorem course_of_returned (h : Returned (converse ch settings sink passes src s)) :
    Course ch settings sink passes src s (converse ch settings sink passes src s) := by
  have hstart : Returned (start ch settings s) := returned_of_bind h
  -- setting out comes back with success or with a failure
  rcases (returned_of_elseQuietly hstart).cases with ⟨u, s₁, hopen⟩ | ⟨d, s₁, hopen⟩
  · have hstarted : start ch settings s = .ok () s₁ := elseQuietly_of_ok hopen
    rw [converse, bind_of_ok hstarted] at h ⊢
    have hscript : toStop ch settings sink passes src s = toEnd ch settings sink passes src s₁ :=
      bind_of_ok hopen _
    -- the run has two cleanups around it: the stop, and giving the link up
    have hrun := returned_of_bind h
    have hinterpret := returned_of_elseQuietly (returned_of_elseQuietly hrun)
    rcases hinterpret.cases with ⟨u, s₂, hend⟩ | ⟨d, s₂, hend⟩
    · have hran : run ch settings sink passes src s₁ = .ok () s₂ := elseQuietly_of_ok hend
      rw [bind_of_ok (elseQuietly_of_ok hran)]
      rw [interpret_eq] at hend
      obtain ⟨place, s₃, hto, hstop⟩ := bind_eq_ok_iff.1 hend
      exact .completed (hscript.trans hto) hstop
    · rw [bind_of_error (run_of_failed hend hrun)]
      -- a run fails before its own stop or with it
      rw [interpret_eq, bind_apply, ← hscript] at hend
      cases hto : toStop ch settings sink passes src s with
      | error e s₃ =>
        rw [hto] at hend
        cases hend
        exact .brokenOff hto
      | ok place s₃ =>
        rw [hto] at hend
        exact .unheeded hto hend
  · rw [converse, bind_of_error (start_of_failed hopen hstart)]
    exact .brokenOff (bind_of_error hopen _)

/-- **The failure of a session** is the one that it would have with no thought for failures. -/
theorem Course.ending_eq {r : EStateM.Result (Halt Diagnostic) (Session χ τ) Unit}
    (h : Course ch settings sink passes src s r) :
    ending r = ending (straight ch settings sink passes src s) := by
  have hstraight : straight ch settings sink passes src =
      (toStop ch settings sink passes src >>= fun place =>
        signOffAt ch settings src place >>= fun _ => leave ch) := by
    rw [straight, interpret_eq, toStop, bind_assoc]
    simp only [bind_assoc]
  rw [hstraight]
  -- in each course the straight one is the same up to where it fails
  cases h with
  | brokenOff hscript =>
    rw [bind_of_error hscript]
    rfl
  | unheeded hscript hstop =>
    rw [bind_of_ok hscript, bind_of_error hstop]
    rfl
  | completed hscript hstop => rw [bind_of_ok hscript, bind_of_ok hstop]

/-! When a stop is in vain. -/

theorem not_stopFails_of_error {e : Halt Diagnostic}
    (h : toStop ch settings sink passes src s = .error e s₁) :
    ¬ StopFails ch settings sink passes src s := by
  rintro ⟨place, s₂, e, s₃, hok, -⟩
  rw [h] at hok
  cases hok

theorem stopFails_iff {place : Position}
    (h : toStop ch settings sink passes src s = .ok place s₁) :
    StopFails ch settings sink passes src s ↔
      ∃ e s₂, signOffAt ch settings src place s₁ = .error e s₂ := by
  constructor
  · -- the place and the state of the session are those of the script's end
    rintro ⟨place', s₁', e, s₂, hok, herror⟩
    rw [h] at hok
    cases hok
    exact ⟨e.map (src.annotate place), s₂, by rw [signOffAt, herror]⟩
  · rintro ⟨e, s₂, herror⟩
    rw [signOffAt] at herror
    cases hsignOff : signOff ch settings s₁ with
    | ok u s₃ =>
      rw [hsignOff] at herror
      cases herror
    | error e s₃ => exact ⟨place, s₁, e, s₃, h, hsignOff⟩

end Courses

end Session

end GridScript
