import GridScript.Script.Program
import GridScript.Session.Settings

/-!
# Sessions

A session is one conversation with the far end, in which scripts are run. Opening it settles whether
the traffic is shown and, if the settings name a grid, loads it. Whatever fails, the agent is told
that the run is over before the failure is passed on.

* `Session.start`, `Session.run` and `Session.leave` are its parts.
* `Session.converseChecked` is a whole session for one script.
-/

namespace GridScript

/-- **The state of a session**: the pilot, and what has been printed. -/
structure Session (χ τ : Type) where
  pilot : Pilot χ
  output : τ

namespace Session

/-- **A computation of a session.** -/
abbrev Action (χ τ : Type) := EStateM (Halt Diagnostic) (Session χ τ)

/-- A session that has not begun. -/
def ofLink {χ τ : Type} (link : χ) (output : τ) : Session χ τ := ⟨.ofLink link, output⟩

variable {χ τ : Type}

/-! ### Parts -/

/-- What a pilot does, as part of a session. -/
def piloting {α : Type} (a : Pilot.Action χ α) : Action χ τ α := fun s =>
  match a s.pilot with
  | .ok v p => .ok v { s with pilot := p }
  | .error e p => .error (Halt.ofTrouble (e.map LinkError.diagnostic)) { s with pilot := p }

/-- An action whose failure is passed over. Breaking off is not. -/
def quietly (a : Action χ τ Unit) : Action χ τ Unit := fun s =>
  match a s with
  | .error (.failed _) s => .ok () s
  | other => other

/-- **An action, and if it fails another one**, whose own failure does not count. -/
def elseQuietly {α : Type} (a : Action χ τ α) (cleanup : Action χ τ Unit) : Action χ τ α := fun s =>
  match a s with
  | .error (.failed d) s => (do quietly cleanup; throw (.failed d) : Action χ τ α) s
  -- after a success nothing is to be cleaned up, and after breaking off nothing more is done
  | other => other

variable (ch : Link χ) (settings : Settings) (sink : Sink τ) (passes : Nat)

/-- Tells the agent that the run is over. -/
def signOff : Action χ τ Unit := piloting (Pilot.signOff ch settings.manner)

/-- What opening asks of the far end. -/
def setOut : Action χ τ Unit := do
  piloting (Pilot.showTraffic ch settings.manner settings.showMessages)
  match settings.grid with
  | some name => piloting (Pilot.changeGrid ch settings.manner name)
  | none => return

/-- What a run is given: the pilot as the agent, and the limits. -/
def context : Context (Pilot χ) τ :=
  ⟨Pilot.agent ch settings.manner, sink, settings.maxCallDepth.toNat, passes⟩

/-- Interprets a script. -/
def interpret (src : Source) : Action χ τ Unit := fun s =>
  match Program.run (context ch settings sink passes) (.ofSource src s.pilot s.output) with
  | .ok () m => .ok () ⟨m.agent, m.output⟩
  | .error e m => .error (e.map (·.diagnostic src)) ⟨m.agent, m.output⟩

/-! ### Sessions -/

/-- **Gives the link up.** -/
def leave : Action χ τ Unit := piloting (Pilot.hangUp ch)

/-- **Opens a session.** If that fails, the agent is stopped and the link given up. -/
def start : Action χ τ Unit :=
  elseQuietly (setOut ch settings) do
    quietly (signOff ch settings)
    leave ch

/-- **Runs a script in an open session.** If it fails, the agent is stopped. -/
def run (src : Source) : Action χ τ Unit :=
  elseQuietly (interpret ch settings sink passes src) (signOff ch settings)

/-- **A whole conversation about one script**: the session is opened, the script run and the link
given up. The first failure counts; that of giving up the link counts only if there is no other. -/
def converse (src : Source) : Action χ τ Unit := do
  -- `start` cleans up after itself, so nothing is left to do if it fails
  start ch settings
  elseQuietly (run ch settings sink passes src) (leave ch)
  leave ch

/-- **A session for one script.** With settings that no run can work with the far end is left
alone. -/
def converseChecked (src : Source) : Action χ τ Unit :=
  match settings.check with
  | .error e => throw (.failed e.diagnostic)
  | .ok () => converse ch settings sink passes src

end Session

end GridScript
