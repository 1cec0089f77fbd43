import GridScript.Agent
import GridScript.Link
import GridScript.Pilot.Belief
import GridScript.Wire.Response

/-!
# Driving the agent over a link

The pilot carries out what a script asks by exchanging lines with the far end. What the agent does
on the grid is put together from requests for single facts and changes; the cells are asked for
every time, everything else only until it is known.

* `Pilot.exchange` sends a request and waits for its answer.
* `Pilot.order` and `Pilot.ask` accept only the answer to their own request.
* `Pilot.agent` is the pilot as an agent of a script.
-/

namespace GridScript

/-- **How a pilot talks and turns.** -/
structure Pilot.Manner where
  /-- The milliseconds to wait for each answer. -/
  patience : Nat
  /-- The modulus of the rotation that turns a side into a direction. -/
  modulus : Nat
  deriving DecidableEq, Repr

/-- **The state of a pilot**: its link and what it believes. -/
structure Pilot (χ : Type) where
  link : χ
  belief : Belief

namespace Pilot

/-- A pilot that knows nothing yet. -/
def ofLink {χ : Type} (link : χ) : Pilot χ := ⟨link, .empty⟩

/-- **A computation of a pilot.** -/
abbrev Action (χ : Type) := EStateM (Trouble LinkError) (Pilot χ)

variable {χ : Type} (ch : Link χ) (manner : Pilot.Manner)

/-! ### Exchanges -/

/-- Uses the link. -/
def overLink {α : Type} (use : EStateM (Trouble LinkError) χ α) : Action χ α := fun p =>
  match use p.link with
  | .ok a s => .ok a { p with link := s }
  | .error e s => .error e { p with link := s }

/-- The action that fails. -/
def fail {α : Type} (e : LinkError) : Action χ α := throw (.failed e)

/-- What is believed. -/
def believed : Action χ Belief := fun p => .ok p.belief p

/-- Changes what is believed. -/
def believe (change : Belief → Belief) : Action χ Unit := fun p =>
  .ok () { p with belief := change p.belief }

/-- **Sends a request and waits for its answer.** A rejection or no answer in time is an error. -/
def exchange (r : Request) : Action χ String := do
  -- exactly one answer is waited for; one that comes too late is left for the next request
  overLink (ch.send r.line)
  match ← overLink (ch.receive manner.patience) with
  | none => fail (.noResponse r.line manner.patience)
  | some response =>
    if response = Rejection.failLine then fail (.rejected r.line)
    else if response = Rejection.errorLine then fail (.unknownRequest r.line)
    else return response

/-- **Sends a command**, which only its own acknowledgement answers. -/
def order (r : Request) : Action χ Unit := do
  let response ← exchange ch manner r
  unless response = r.acknowledgement do
    fail (.wrongResponse r.line r.acknowledgement response)

/-- **Asks a question.** The answer begins with the words for it, and its fields can be read. -/
def ask {α : Type} (q : Query α) : Action χ α := do
  let response ← exchange ch manner q.request
  match fieldsAfter? q.head response with
  | none => fail (.wrongResponse q.request.line q.head response)
  | some fields =>
    match q.read fields with
    | none => fail (.unreadableResponse q.request.line response)
    | some a => return a

/-! ### Facts -/

/-- Where the agent is. -/
def findLocation : Action χ Coord := do
  match (← believed).location with
  | some c => return c
  | none =>
    let c ← ask ch manner .location
    believe ({ · with location := some c })
    return c

/-- Which way the agent faces. -/
def findFacing : Action χ Direction := do
  match (← believed).facing with
  | some d => return d
  | none =>
    let d ← ask ch manner .facing
    believe ({ · with facing := some d })
    return d

/-- How many gems the agent holds. -/
def findGems : Action χ UInt32 := do
  match (← believed).gems with
  | some n => return n
  | none =>
    let n ← ask ch manner .gemCount
    believe ({ · with gems := some n })
    return n

/-- How large the grid is. -/
def findSize : Action χ GridSize := do
  match (← believed).gridSize with
  | some s => return s
  | none =>
    let s ← ask ch manner .gridSize
    believe ({ · with gridSize := some s })
    return s

/-- **The cell next to the agent** in a direction, or `none` past the edge. -/
def cellToward (d : Direction) : Action χ (Option Coord) := do
  let here ← findLocation ch manner
  let size ← findSize ch manner
  let there := here.step d
  return if size.contains there then some there else none

/-! ### Changes -/

/-- Turns the agent to face a direction. -/
def turnTo (d : Direction) : Action χ Unit := do
  order ch manner (.face d)
  believe ({ · with facing := some d })

/-- Sets the gems that the agent holds. -/
def hold (n : UInt32) : Action χ Unit := do
  order ch manner (.holdGems n)
  believe ({ · with gems := some n })

/-- **Loads another grid**, and asks how large it is. -/
def changeGrid (name : String) : Action χ Unit := do
  order ch manner (.loadGrid name)
  -- nothing is forgotten before the far end has agreed
  believe .onNewGrid
  discard <| findSize ch manner

/-- Asks for the traffic to be shown or hidden. -/
def showTraffic (on : Bool) : Action χ Unit :=
  order ch manner (.showMessages on)

/-- Says that the run is over. -/
def signOff : Action χ Unit :=
  order ch manner .stop

/-- Gives the link up. -/
def hangUp : Action χ Unit := overLink ch.close

/-! ### What the agent does -/

/-- **Goes to the cell ahead**, unless that is off the grid or a wall. -/
def goAhead : Action χ Unit := do
  let some target ← cellToward ch manner (← findFacing ch manner) | return
  if (← ask ch manner (.cell target)).isWall then return
  order ch manner (.goTo target)
  believe ({ · with location := some target })

/-- **Picks up all gems of the cell ahead.** They must fit into what can be counted. -/
def takeAhead : Action χ Unit := do
  let some target ← cellToward ch manner (← findFacing ch manner) | return
  let found := (← ask ch manner (.cell target)).gemCount
  if found = 0 then return
  let held ← findGems ch manner
  if UInt32.size ≤ held.toNat + found.toNat then fail (.tooManyGems held found)
  -- the gems leave the grid first: if the second request fails, nobody has them
  order ch manner (.putCell target .empty)
  hold ch manner (held + found.toUInt32)

/-- **Puts one gem on the cell ahead**, unless none is held or the cell has no room for it. -/
def dropAhead : Action χ Unit := do
  let held ← findGems ch manner
  -- without a gem the cell is not even asked for
  if held = 0 then return
  let some target ← cellToward ch manner (← findFacing ch manner) | return
  match ← ask ch manner (.cell target) with
  | .wall => return
  | .gems n =>
    if Cell.mostGems ≤ n then return
    -- here a failure of the second request leaves one gem too many
    order ch manner (.putCell target (.gems (n + 1)))
    hold ch manner (held - 1)

/-- Does the agent see gems ahead? -/
def seesGemAhead : Action χ Bool := do
  let some target ← cellToward ch manner (← findFacing ch manner) | return false
  return 0 < (← ask ch manner (.cell target)).gemCount

/-- Is the cell on a side of the agent there, and no wall? -/
def isOpen (side : Side) : Action χ Bool := do
  match side.towardModulo manner.modulus (← findFacing ch manner) with
  | .error a => throw (.aborted a)
  | .ok d =>
    let some target ← cellToward ch manner d | return false
    return !(← ask ch manner (.cell target)).isWall

/-- **Carries out a command of a script.** -/
def obey : Command → Action χ Unit
  | .move .step => goAhead ch manner
  | .move .turnLeft => do turnTo ch manner (← findFacing ch manner).leftOf
  | .move .turnRight => do turnTo ch manner (← findFacing ch manner).rightOf
  | .move .take => takeAhead ch manner
  | .move .drop => dropAhead ch manner
  | .loadGrid name => changeGrid ch manner name
  | .setGems n => hold ch manner n
  | .stop => signOff ch manner

/-- **Answers a question of a script.** -/
def answer : Condition → Action χ Bool
  | .facing d => return (← findFacing ch manner) == d
  | .hasGem => return 0 < (← findGems ch manner)
  | .seesGem => seesGemAhead ch manner
  | .clear side => isOpen ch manner side

/-- An action whose errors are diagnostics. -/
def diagnosed {α : Type} (a : Action χ α) : EStateM (Trouble Diagnostic) (Pilot χ) α := fun p =>
  match a p with
  | .ok v p => .ok v p
  | .error e p => .error (e.map LinkError.diagnostic) p

/-- **The pilot as an agent.** -/
def agent : Agent (Pilot χ) where
  obey c := diagnosed (obey ch manner c)
  answer c := diagnosed (answer ch manner c)

end Pilot

end GridScript
