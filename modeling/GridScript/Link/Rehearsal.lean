import GridScript.Link

/-!
# A fixed conversation

A rehearsal is a far end that knows beforehand which lines will come and what to answer. Any other
line is an error.

* `Rehearsal.link` is the link to it.
-/

namespace GridScript

/-- **A conversation laid down beforehand.** -/
structure Rehearsal where
  /-- The lines still to come, each with its answer or with silence. -/
  lines : List (String × Option String)
  /-- The answer, or silence, to the last line, until it has been received. -/
  unsaid : Option (Option String)
  /-- Every line that has been heard, in order. -/
  heard : List String
  /-- `true` once the link has been given up. -/
  closed : Bool

namespace Rehearsal

/-- A conversation that has not begun. -/
def ofLines (lines : List (String × Option String)) : Rehearsal :=
  ⟨lines, none, [], false⟩

/-- `true` if every line has come and every answer been received. -/
def isOver (r : Rehearsal) : Bool :=
  r.lines.isEmpty && r.unsaid.isNone

/-- A line arrives. A wrong one uses up the line that was due. -/
def hear (line : String) : EStateM (Trouble LinkError) Rehearsal Unit := fun r =>
  if r.closed then .error (.failed .closed) r
  else
    let r := { r with heard := r.heard ++ [line] }
    match r.lines with
    | [] =>
      .error (.failed (.connection
        ("scripted transport got '" ++ line ++ "' after the script ended"))) r
    | (due, answer) :: rest =>
      if due = line then .ok () { r with lines := rest, unsaid := some answer }
      else
        .error (.failed (.connection
          ("scripted transport expected '" ++ due ++ "' but got '" ++ line ++ "'")))
          { r with lines := rest }

/-- The answer to the last line. -/
def say : EStateM (Trouble LinkError) Rehearsal (Option String) := fun r =>
  match r.unsaid with
  | some answer => .ok answer { r with unsaid := none }
  | none =>
    .error (.failed (.connection "scripted transport has nothing to answer")) r

/-- **The link to the rehearsal.** -/
def link : Link Rehearsal where
  send := hear
  receive _ := say
  close := modify fun r => { r with closed := true }

end Rehearsal

end GridScript
