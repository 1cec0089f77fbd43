import GridScript.Agent
import GridScript.Text.Numeral

/-!
# An agent that keeps a record

The recorder does nothing but note what is asked of it. Its answers are laid down beforehand, and so
is which requests it refuses.

* `Recorder.agent` is the agent, `Recorder.log` the requests that it has accepted.
-/

namespace GridScript

namespace Command

/-- A command as one line. -/
def describe : Command → String
  | move m => m.keyword
  | loadGrid name => "grid " ++ name
  | setGems count => "gems " ++ Numeral.ofNat count.toNat
  | stop => "stop"

end Command

namespace Condition

/-- A question as one line. -/
def describe : Condition → String
  | clear side => "clear " ++ side.name
  | seesGem => "seejem"
  | hasGem => "hasjem"
  | facing d => "facing " ++ d.name

end Condition

/-- **What a recorder has been asked, and what it will say.** -/
structure Recorder where
  /-- The next answers. -/
  answers : List Bool
  /-- The answer when there are no more of them. -/
  otherwise : Bool
  /-- The requests that are refused. -/
  refused : List String
  /-- The number of the request that is refused, if there is one. -/
  refusedAt : Option Nat
  /-- The place that a refusal is about, and the line there. -/
  refusalPlace : Option (Location × String)
  /-- The number of requests so far. -/
  asked : Nat
  /-- The accepted requests, in order. -/
  log : List String

namespace Recorder

/-- The message of a refusal. -/
def refusal (r : Recorder) (request : String) : Diagnostic :=
  let d := Diagnostic.ofMessage ⟨301⟩ ("'" ++ request ++ "' was rejected")
  match r.refusalPlace with
  | some (location, line) => d.about location line
  | none => d

/-- Counts a request, and then refuses or notes it. -/
def note (request : String) : EStateM (Trouble Diagnostic) Recorder Unit := fun r =>
  let r := { r with asked := r.asked + 1 }
  if r.refused.contains request || r.refusedAt == some r.asked then
    .error (.failed (r.refusal request)) r
  else .ok () { r with log := r.log ++ [request] }

/-- The next answer. -/
def nextAnswer : EStateM (Trouble Diagnostic) Recorder Bool := fun r =>
  match r.answers with
  | [] => .ok r.otherwise r
  | a :: rest => .ok a { r with answers := rest }

/-- **The recorder as an agent.** -/
def agent : Agent Recorder where
  obey c := note c.describe
  answer c := do
    note c.describe
    nextAnswer

end Recorder

end GridScript
