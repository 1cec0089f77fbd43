import GridScript.Grid.World
import GridScript.Link
import GridScript.Wire.Response

/-!
# A far end in memory

The simulator is a far end that is a grid world. It answers every request as a live agent would:
what cannot be carried out is rejected and changes nothing. It can be told to keep silent on some
heard and to reject some.

* `Simulator.respond` is its answer to one line.
* `Simulator.link` is the link to it. Answers wait there until they are received, in order.
-/

namespace GridScript

/-- **A grid world at the far end of a link.** -/
structure Simulator where
  world : World
  /-- The grids that can be loaded, the last one given of a name first. -/
  grids : List (String × World)
  /-- Answers that have not been received. -/
  unread : List String
  /-- Every line that has been sent, in order. -/
  heard : List String
  /-- `true` if the traffic is to be shown. -/
  showsMessages : Bool
  /-- `true` once the run has been declared over. -/
  stopped : Bool
  /-- `true` once the link has been given up. -/
  closed : Bool
  /-- Lines that begin like this are never answered. -/
  silentFor : Option String
  /-- Lines that begin like this are rejected. -/
  refuses : Option String

namespace World

/-- **What a world answers to a request, and what it becomes.** Other grids are not its own, so it
cannot load one. -/
def respond (w : World) (r : Request) : Except Abort (Response × World) :=
  match r with
  | .goTo c => do
    match ← w.at? c with
    -- how far away the cell is does not matter
    | some (.gems _) => return (.done r, { w with agent := c })
    | _ => return (.rejected .badParameters, w)
  | .askLocation => .ok (.location w.agent, w)
  | .face d => .ok (.done r, { w with facing := d })
  | .askFacing => .ok (.facing w.facing, w)
  | .holdGems n => .ok (.done r, { w with held := n })
  | .askGems => .ok (.gemCount w.held, w)
  | .putCell c cell => do
    match ← w.put? c cell with
    | some w' => return (.done r, w')
    | none => return (.rejected .badParameters, w)
  | .askCell c => do
    match ← w.at? c with
    | some cell => return (.cell c cell, w)
    | none => return (.rejected .badParameters, w)
  | .askSize => .ok (.size w.size, w)
  | .showMessages _ | .stop => .ok (.done r, w)
  | .loadGrid _ => .ok (.rejected .badParameters, w)

end World

namespace Simulator

/-- A world at the far end of a fresh link. -/
def ofWorld (world : World) : Simulator :=
  { world, grids := [], unread := [], heard := [], showsMessages := false, stopped := false
    closed := false, silentFor := none, refuses := none }

/-- `true` if the line begins with the text, if there is one. -/
def begins (line : String) (start : Option String) : Bool :=
  start.any fun s => (afterHead? s.toList line.toList).isSome

/-- **The answer to a line, and what the far end becomes.** -/
def respond (s : Simulator) (line : String) : Except Abort (Response × Simulator) :=
  -- a line that is to be refused need not even be a request
  if begins line s.refuses then .ok (.rejected .badParameters, s)
  else
    match Request.ofLine line with
    | .error reason => .ok (.rejected reason, s)
    | .ok (.loadGrid name) =>
      match s.grids.lookup name with
      -- the agent comes with the grid: its place, its facing and its gems are the new ones
      | some world => .ok (.done (.loadGrid name), { s with world })
      | none => .ok (.rejected .badParameters, s)
    | .ok r =>
      (s.world.respond r).map fun (answer, world) =>
        let s := { s with world }
        match r with
        | .showMessages on => (answer, { s with showsMessages := on })
        | .stop => (answer, { s with stopped := true })
        | _ => (answer, s)

/-- A line arrives. The line is on record even if its answer breaks off. -/
def hear (line : String) : EStateM (Trouble LinkError) Simulator Unit := fun s =>
  if s.closed then .error (.failed .closed) s
  else
    let s := { s with heard := s.heard ++ [line] }
    if begins line s.silentFor then .ok () s
    else
      match s.respond line with
      | .ok (answer, s) => .ok () { s with unread := s.unread ++ [answer.line] }
      | .error a => .error (.aborted a) s

/-- The next answer, if one is waiting. -/
def say : EStateM (Trouble LinkError) Simulator (Option String) := fun s =>
  if s.closed then .error (.failed .closed) s
  else
    match s.unread with
    | [] => .ok none s
    | answer :: rest => .ok (some answer) { s with unread := rest }

/-- **The link to the simulator.** -/
def link : Link Simulator where
  send := hear
  receive _ := say
  close := modify fun s => { s with closed := true }

end Simulator

end GridScript
