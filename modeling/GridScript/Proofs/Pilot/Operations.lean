import GridScript.Pilot
import GridScript.Proofs.Grid.Rules
import GridScript.Proofs.Sequencing
import GridScript.Proofs.Wire.Lines

/-!
# Operations of a pilot

* `Operation.carryOut` — how a pilot does what an agent can be asked on one grid.
* `Errand.carryOut` — the same with changes to another grid among them.
* `Pilot.ask_of_exchange` — a question is an exchange, and what its response is understood as.
* `Pilot.find` — the one way in which a pilot finds each of the facts that it remembers.
* `Pilot.resultOf` — a result together with the pilot that it leaves behind.
* `Pilot.inTurn` — several actions of a pilot one after the other, whether they succeed or fail.
-/

namespace GridScript

variable {χ : Type} (ch : Link χ) (manner : Pilot.Manner)

/-- **How a pilot carries an operation out.** Only a test has a value. -/
def Operation.carryOut : Operation → Pilot.Action χ (Option Bool)
  | move m => do
    Pilot.obey ch manner (.move m)
    return none
  | setGems n => do
    Pilot.obey ch manner (.setGems n)
    return none
  | stop => do
    Pilot.obey ch manner .stop
    return none
  | showTraffic on => do
    Pilot.showTraffic ch manner on
    return none
  | test c => some <$> Pilot.answer ch manner c

/-- **Everything that a pilot can be asked to do.** -/
inductive Errand where
  | onGrid (o : Operation)
  | loadGrid (name : String)
  deriving DecidableEq, Repr

/-- **How a pilot carries an errand out.** -/
def Errand.carryOut : Errand → Pilot.Action χ (Option Bool)
  | onGrid o => o.carryOut ch manner
  | loadGrid name => do
    Pilot.obey ch manner (.loadGrid name)
    return none

/-- **A result that leaves a pilot behind.** -/
def Pilot.resultOf {α : Type} (p : Pilot χ) :
    Except (Trouble LinkError) α → EStateM.Result (Trouble LinkError) (Pilot χ) α
  | .ok a => .ok a p
  | .error e => .error e p

/-- **Actions in turn**, with the result of each. What one that fails leaves behind is where the
next one begins. -/
def Pilot.inTurn {α : Type} :
    List (Pilot.Action χ α) → Pilot χ → List (Except (Trouble LinkError) α) × Pilot χ
  | [], p => ([], p)
  | act :: acts, p =>
    match act p with
    | .ok a p' => (.ok a :: (inTurn acts p').1, (inTurn acts p').2)
    | .error e p' => (.error e :: (inTurn acts p').1, (inTurn acts p').2)

/-! ### Answers -/

/-- **What a pilot makes of the response to a question.** -/
def Query.decode {α : Type} (q : Query α) (response : String) : Except (Trouble LinkError) α :=
  match fieldsAfter? q.head response with
  | none => .error (.failed (.wrongResponse q.request.line q.head response))
  | some fields =>
    match q.read fields with
    | none => .error (.failed (.unreadableResponse q.request.line response))
    | some a => .ok a

/-- A pilot understands a response exactly if it is an answer. -/
theorem Query.toOption_decode {α : Type} (q : Query α) (response : String) :
    (q.decode response).toOption = q.answer? response := by
  rw [decode, answer?]
  cases fieldsAfter? q.head response with
  | none => rfl
  | some fields =>
    dsimp only [Option.bind_some]
    cases q.read fields <;> rfl

theorem Query.decode_of_answer? {α : Type} (q : Query α) {response : String} {a : α}
    (h : q.answer? response = some a) : q.decode response = .ok a := by
  rw [← q.toOption_decode] at h
  cases hdecode : q.decode response with
  | ok b => rw [hdecode] at h; rw [Option.some.inj h]
  | error e => rw [hdecode] at h; cases h

/-- A question is the exchange, and what its response is understood as. -/
theorem Pilot.ask_of_exchange {α : Type} {q : Query α} {response : String} {p p' : Pilot χ}
    (h : exchange ch manner q.request p = .ok response p') :
    ask ch manner q p = p'.resultOf (q.decode response) := by
  rw [ask, bind_of_ok h, Query.decode]
  -- the fields are found and then read; where either fails, the response is the wrong one
  cases fieldsAfter? q.head response with
  | none => rfl
  | some fields =>
    dsimp only
    cases q.read fields <;> rfl

/-! ### Facts that are remembered -/

namespace Pilot

/-- **How a fact is found.** If it is not known, it is asked for and then believed. -/
def find {α : Type} (q : Query α) (known : Belief → Option α) (learn : α → Belief → Belief) :
    Action χ α := do
  match known (← believed) with
  | some a => return a
  | none =>
    let a ← ask ch manner q
    believe (learn a)
    return a

section Find

variable {α : Type} {q : Query α} {known : Belief → Option α} {learn : α → Belief → Belief}
variable {p : Pilot χ}

/-- A fact that is known is not asked for. -/
theorem find_of_known {a : α} (h : known p.belief = some a) :
    find ch manner q known learn p = .ok a p := by
  have hbelieved : (believed : Action χ Belief) p = .ok p.belief p := rfl
  rw [find, bind_of_ok hbelieved, h]
  rfl

/-- A fact that is unknown is asked for, and then believed. -/
theorem find_of_unknown (h : known p.belief = none) :
    find ch manner q known learn p = (ask ch manner q >>= fun a => do
      believe (learn a)
      return a : Action χ α) p := by
  have hbelieved : (believed : Action χ Belief) p = .ok p.belief p := rfl
  rw [find, bind_of_ok hbelieved, h]

end Find

theorem findLocation_eq : findLocation ch manner =
    find ch manner .location Belief.location fun c b => { b with location := some c } := by
  funext p
  simp only [findLocation, find, bind_apply, believed]
  cases p.belief.location <;> rfl

theorem findFacing_eq : findFacing ch manner =
    find ch manner .facing Belief.facing fun d b => { b with facing := some d } := by
  funext p
  simp only [findFacing, find, bind_apply, believed]
  cases p.belief.facing <;> rfl

theorem findGems_eq : findGems ch manner =
    find ch manner .gemCount Belief.gems fun n b => { b with gems := some n } := by
  funext p
  simp only [findGems, find, bind_apply, believed]
  cases p.belief.gems <;> rfl

theorem findSize_eq : findSize ch manner =
    find ch manner .gridSize Belief.gridSize fun s b => { b with gridSize := some s } := by
  funext p
  simp only [findSize, find, bind_apply, believed]
  cases p.belief.gridSize <;> rfl

end Pilot

end GridScript
