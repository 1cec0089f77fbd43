import GridScript.Proofs.Script.Following
import GridScript.Proofs.Tandem
import GridScript.Script.Program

/-!
# Runs as dialogues

Whatever the agent and the output are, a run meets them only in what it says to them and in what
they answer. A dialogue is all of that and nothing else: what is said next, for every answer so far.
Two runs of one script with different agents are one dialogue, heard by different ears.

* `Saying`, `Dialogue` — what a run says, and how it goes on.
* `Dialogue.perform` — a dialogue with someone who hears it, and `Dialogue.chronicle` everything
  that is said on the way, with the state in which it was heard.
* `Context.hear` — how the agent and the sink of a run hear it.
* `Dialogue.inTandem_perform` — two who hear every saying in the same way.
-/

namespace GridScript

/-- **What a run says**: commands and questions, each with the place of its instruction, and lines
of output. -/
inductive Saying where
  | tell (place : Position) (c : Command)
  | ask (place : Position) (c : Condition)
  | print (line : String)
  deriving DecidableEq, Repr

namespace Saying

/-- `true` for what is said to the agent. -/
def isCall : Saying → Bool
  | tell .. | ask .. => true
  | print _ => false

/-- `true` for what is put out. -/
def isPrint : Saying → Bool
  | tell .. | ask .. => false
  | print _ => true

/-- `true` for the command that ends a run. -/
def isStop : Saying → Bool
  | tell _ .stop => true
  | _ => false

end Saying

/-- **A dialogue.** It has ended, in one way or another, or it says something and goes on as the
answer has it. Only questions have answers; nothing depends on that of anything else. -/
inductive Dialogue (α : Type) where
  | ended (r : Except (Halt Failure) α)
  | say (what : Saying) (next : Bool → Dialogue α)

namespace Dialogue

variable {ω ω' α β : Type}

/-- **Someone who hears a dialogue**, with states `ω`. -/
abbrev Hearer (ω : Type) := Saying → EStateM (Halt Failure) ω Bool

/-- **A dialogue with someone who hears it.** It ends early where the hearer does. -/
def perform (hear : Hearer ω) : Dialogue α → EStateM (Halt Failure) ω α
  | ended (.ok a) => pure a
  | ended (.error e) => throw e
  | say what next => do (next (← hear what)).perform hear

/-- **Everything that is said**, each with the state in which it was heard. -/
def chronicle (hear : Hearer ω) : Dialogue α → ω → List (Saying × ω)
  | ended _, _ => []
  | say what next, w =>
    (what, w) ::
      match hear what w with
      | .ok answer w' => (next answer).chronicle hear w'
      | .error _ _ => []

/-- A dialogue whose sayings are all of one kind. -/
def All (P : Saying → Prop) : Dialogue α → Prop
  | ended _ => True
  | say what next => P what ∧ ∀ answer, (next answer).All P

/-- **One dialogue after another.** -/
def andThen (f : α → Dialogue β) : Dialogue α → Dialogue β
  | ended (.ok a) => f a
  | ended (.error e) => ended (.error e)
  | say what next => say what fun answer => (next answer).andThen f

section Say

variable {hear : Hearer ω} {what : Saying} {next : Bool → Dialogue α} {w w' : ω}

theorem perform_say_of_ok {answer : Bool} (h : hear what w = .ok answer w') :
    (say what next).perform hear w = (next answer).perform hear w' :=
  bind_of_ok h _

theorem perform_say_of_error {e : Halt Failure} (h : hear what w = .error e w') :
    (say what next).perform hear w = .error e w' :=
  bind_of_error h _

theorem chronicle_say_of_ok {answer : Bool} (h : hear what w = .ok answer w') :
    (say what next).chronicle hear w = (what, w) :: (next answer).chronicle hear w' := by
  rw [chronicle, h]

theorem chronicle_say_of_error {e : Halt Failure} (h : hear what w = .error e w') :
    (say what next).chronicle hear w = [(what, w)] := by
  rw [chronicle, h]

end Say

theorem perform_andThen (hear : Hearer ω) (d : Dialogue α) (f : α → Dialogue β) :
    (d.andThen f).perform hear = d.perform hear >>= fun a => (f a).perform hear := by
  induction d with
  | ended r => cases r <;> rfl
  | say what next ih =>
    rw [andThen, perform, perform, bind_assoc]
    exact congrArg _ (funext ih)

theorem All.andThen {P : Saying → Prop} {d : Dialogue α} {f : α → Dialogue β} (h : d.All P)
    (hf : ∀ a, (f a).All P) : (d.andThen f).All P := by
  induction d with
  | ended r =>
    cases r with
    | ok a => exact hf a
    | error e => trivial
  | say what next ih => exact ⟨h.1, fun answer => ih answer (h.2 answer)⟩

theorem all_true (d : Dialogue α) : d.All fun _ => True := by
  induction d with
  | ended r => trivial
  | say what next ih => exact ⟨trivial, ih⟩

/-- **Hearers in tandem.** If two hear every saying of a kind in the same way, they hear a dialogue
of that kind in the same way. -/
theorem inTandem_perform {hear : Hearer ω} {hear' : Hearer ω'} {P : Saying → Prop}
    {S : ω → ω' → Prop} (hstep : ∀ what, P what → InTandem S (hear what) (hear' what))
    {d : Dialogue α} (hd : d.All P) : InTandem S (d.perform hear) (d.perform hear') := by
  induction d with
  | ended r =>
    cases r with
    | ok a => exact inTandem_pure a
    | error e => exact inTandem_throw e
  | say what next ih => exact (hstep what hd.1).bind fun answer => ih answer (hd.2 answer)

end Dialogue

/-! ### Runs -/

/-- **What a run knows of itself**: where it reads, what is declared, how many calls are active. -/
structure Stand where
  lexemes : Lexemes
  procedures : Procedures Lexemes
  depth : Nat

namespace Machine

variable {σ τ α : Type}

/-- A run without its agent and its output. -/
def stand (m : Machine σ τ) : Stand := ⟨m.lexemes, m.procedures, m.depth⟩

/-- **What comes of a run**: where it stands if it has succeeded, and in any case the agent and the
output. -/
def outcome :
    EStateM.Result (Halt Failure) (Machine σ τ) α →
      EStateM.Result (Halt Failure) (Tree.Scene σ τ) (α × Stand)
  | .ok a m => .ok (a, m.stand) m.scene
  | .error e m => .error e m.scene

/-- Runs whose outcomes are the same have the same result. -/
theorem sameResult_of_outcome {σ' τ' : Type} {S : Tree.Scene σ τ → Tree.Scene σ' τ' → Prop}
    {r : EStateM.Result (Halt Failure) (Machine σ τ) α}
    {r' : EStateM.Result (Halt Failure) (Machine σ' τ') α}
    (h : SameResult S (outcome r) (outcome r')) :
    SameResult (fun m m' => S m.scene m'.scene) r r' := by
  -- two results of different kinds are in no relation
  cases r with
  | ok a m =>
    cases r' with
    | ok a' m' =>
      simp only [outcome] at h
      generalize m.stand = p, m'.stand = p' at h
      cases h with | ok _ hs => exact .ok a hs
    | error e' m' => cases h
  | error e m =>
    cases r' with
    | ok a' m' => cases h
    | error e' m' => cases h with | error _ hs => exact .error e hs

end Machine

/-- A run at a stand, with some agent and some output. -/
def Stand.machine {σ τ : Type} (p : Stand) (s : Tree.Scene σ τ) : Machine σ τ :=
  ⟨p.lexemes, p.procedures, p.depth, s.agent, s.output⟩

/-- **How the agent and the sink of a run hear it.** To a command and to a line of output the answer
is always the same. -/
def Context.hear {σ τ : Type} (env : Context σ τ) : Dialogue.Hearer (Tree.Scene σ τ)
  | .tell place c, s =>
    match env.agent.obey c s.agent with
    | .ok () agent => .ok true { s with agent }
    | .error e agent => .error (Halt.ofTrouble (e.map (.refused · place))) { s with agent }
  | .ask place c, s =>
    match env.agent.answer c s.agent with
    | .ok answer agent => .ok answer { s with agent }
    | .error e agent => .error (Halt.ofTrouble (e.map (.refused · place))) { s with agent }
  | .print line, s =>
    match env.sink.print line s.output with
    | .ok () output => .ok true { s with output }
    | .error reason output => .error (.failed (.unwritten reason)) { s with output }

end GridScript
