import GridScript.Proofs.Pilot.Operations
import GridScript.Proofs.Tandem

/-!
# Two pilots over different links

What a pilot does depends on its link only through exchanges. Two pilots that come through every
exchange in the same way come through everything in the same way; of the request that ends a
conversation nothing has to be known for what comes before it.

* `Pilot.Companions` — what is asked of the links, and of the relation between the pilots.
* `Companions.order`, `Companions.ask`, `Companions.find` — one exchange of each kind.
* `Companions.obey`, `Companions.answer` — everything that a script can ask, short of ending.
-/

namespace GridScript

namespace Pilot

variable {χ χ' α : Type}

/-- **Pilots that keep each other company**: they believe the same, and an exchange of any request
but the last one leads to the same result and keeps their relation. -/
structure Companions (ch : Link χ) (ch' : Link χ') (manner : Manner)
    (S : Pilot χ → Pilot χ' → Prop) : Prop where
  belief : ∀ {p p'}, S p p' → p.belief = p'.belief
  believing : ∀ {p p'} (b : Belief), S p p' → S { p with belief := b } { p' with belief := b }
  exchange : ∀ r ≠ .stop, InTandem S (exchange ch manner r) (exchange ch' manner r)

namespace Companions

variable {ch : Link χ} {ch' : Link χ'} {manner : Manner} {S : Pilot χ → Pilot χ' → Prop}
variable (h : Companions ch ch' manner S)

include h

/-! ### Exchanges -/

theorem believed : InTandem S (believed : Action χ Belief) Pilot.believed := by
  intro p p' hp
  rw [Pilot.believed, Pilot.believed, h.belief hp]
  exact .ok _ hp

theorem believe (change : Belief → Belief) :
    InTandem S (believe change) (Pilot.believe change) := by
  intro p p' hp
  rw [Pilot.believe, Pilot.believe, h.belief hp]
  exact .ok () (h.believing _ hp)

theorem order {r : Request} (hr : r ≠ .stop) :
    InTandem S (order ch manner r) (Pilot.order ch' manner r) :=
  (h.exchange r hr).bind fun _ => (inTandem_pure ()).ite (inTandem_throw _)

theorem ask (q : Query α) (hq : q.request ≠ .stop) :
    InTandem S (ask ch manner q) (Pilot.ask ch' manner q) := by
  -- both read the same response, and so they fail at the same field
  refine (h.exchange q.request hq).bind fun response => ?_
  cases fieldsAfter? q.head response with
  | none => exact inTandem_throw _
  | some fields =>
    dsimp only
    cases q.read fields with
    | none => exact inTandem_throw _
    | some a => exact inTandem_pure a

theorem find (q : Query α) (hq : q.request ≠ .stop) (known : Belief → Option α)
    (learn : α → Belief → Belief) :
    InTandem S (find ch manner q known learn) (Pilot.find ch' manner q known learn) := by
  refine h.believed.bind fun b => ?_
  cases known b with
  | some a => exact inTandem_pure a
  | none => exact (h.ask q hq).bind fun a => (h.believe _).bind fun _ => inTandem_pure a

/-! ### Facts and changes -/

theorem findLocation : InTandem S (findLocation ch manner) (Pilot.findLocation ch' manner) := by
  rw [findLocation_eq, findLocation_eq]
  exact h.find .location (by decide) _ _

theorem findFacing : InTandem S (findFacing ch manner) (Pilot.findFacing ch' manner) := by
  rw [findFacing_eq, findFacing_eq]
  exact h.find .facing (by decide) _ _

theorem findGems : InTandem S (findGems ch manner) (Pilot.findGems ch' manner) := by
  rw [findGems_eq, findGems_eq]
  exact h.find .gemCount (by decide) _ _

theorem findSize : InTandem S (findSize ch manner) (Pilot.findSize ch' manner) := by
  rw [findSize_eq, findSize_eq]
  exact h.find .gridSize (by decide) _ _

theorem cellToward (d : Direction) :
    InTandem S (cellToward ch manner d) (Pilot.cellToward ch' manner d) :=
  h.findLocation.bind fun _ => h.findSize.bind fun _ => inTandem_pure _

theorem askCell (c : Coord) :
    InTandem S (Pilot.ask ch manner (.cell c)) (Pilot.ask ch' manner (.cell c)) :=
  h.ask (.cell c) (by simp [Query.cell])

theorem turnTo (d : Direction) : InTandem S (turnTo ch manner d) (Pilot.turnTo ch' manner d) :=
  (h.order (by simp)).bind fun _ => h.believe _

theorem hold (n : UInt32) : InTandem S (hold ch manner n) (Pilot.hold ch' manner n) :=
  (h.order (by simp)).bind fun _ => h.believe _

theorem changeGrid (name : String) :
    InTandem S (changeGrid ch manner name) (Pilot.changeGrid ch' manner name) :=
  (h.order (by simp)).bind fun _ => (h.believe _).bind fun _ => h.findSize.bind fun _ =>
    inTandem_pure ()

/-! ### What a script asks -/

/-- **The cell next to the agent is looked at**, whatever is done then. -/
theorem look {off : Action χ α} {off' : Action χ' α} {there : Coord → Cell → Action χ α}
    {there' : Coord → Cell → Action χ' α} (d : Direction) (hoff : InTandem S off off')
    (hthere : ∀ c cell, InTandem S (there c cell) (there' c cell)) :
    InTandem S
      (do
        let some target ← Pilot.cellToward ch manner d | off
        let cell ← Pilot.ask ch manner (.cell target)
        there target cell)
      (do
        let some target ← Pilot.cellToward ch' manner d | off'
        let cell ← Pilot.ask ch' manner (.cell target)
        there' target cell) := by
  refine (h.cellToward d).bind fun target => ?_
  -- both have been told the same place and the same size, and so look at the same cell
  cases target with
  | none => exact hoff
  | some c => exact (h.askCell c).bind fun cell => hthere c cell

theorem goAhead : InTandem S (goAhead ch manner) (Pilot.goAhead ch' manner) := by
  refine h.findFacing.bind fun d => ?_
  refine h.look d (inTandem_pure ()) fun c cell => ?_
  exact (inTandem_pure ()).ite ((h.order (by simp)).bind fun _ => h.believe _)

theorem takeAhead : InTandem S (takeAhead ch manner) (Pilot.takeAhead ch' manner) := by
  refine h.findFacing.bind fun d => ?_
  refine h.look d (inTandem_pure ()) fun c cell => ?_
  refine (inTandem_pure ()).ite (h.findGems.bind fun held => ?_)
  have htake := (h.order (r := .putCell c .empty) (by simp)).bind fun _ =>
    h.hold (held + cell.gemCount.toUInt32)
  exact ((inTandem_throw _).bind fun _ => htake).ite htake

theorem dropAhead : InTandem S (dropAhead ch manner) (Pilot.dropAhead ch' manner) := by
  refine h.findGems.bind fun held => ?_
  refine (inTandem_pure ()).ite (h.findFacing.bind fun d => ?_)
  refine h.look d (inTandem_pure ()) fun c cell => ?_
  cases cell with
  | wall => exact inTandem_pure ()
  | gems n =>
    exact (inTandem_pure ()).ite ((h.order (by simp)).bind fun _ => h.hold _)

theorem seesGemAhead : InTandem S (seesGemAhead ch manner) (Pilot.seesGemAhead ch' manner) :=
  h.findFacing.bind fun d => h.look d (inTandem_pure false) fun _ _ => inTandem_pure _

theorem isOpen (side : Side) :
    InTandem S (isOpen ch manner side) (Pilot.isOpen ch' manner side) := by
  refine h.findFacing.bind fun d => ?_
  cases side.towardModulo manner.modulus d with
  | error a => exact inTandem_throw _
  | ok d => exact h.look d (inTandem_pure false) fun _ _ => inTandem_pure _

/-- **Every command but the last one.** -/
theorem obey {c : Command} (hc : c ≠ .stop) :
    InTandem S (obey ch manner c) (Pilot.obey ch' manner c) := by
  cases c with
  | move m =>
    cases m with
    | step => exact h.goAhead
    | turnLeft => exact h.findFacing.bind fun d => h.turnTo d.leftOf
    | turnRight => exact h.findFacing.bind fun d => h.turnTo d.rightOf
    | take => exact h.takeAhead
    | drop => exact h.dropAhead
  | loadGrid name => exact h.changeGrid name
  | setGems n => exact h.hold n
  -- only signing off is left out, since it ends the company
  | stop => exact absurd rfl hc

/-- **Every question.** -/
theorem answer (c : Condition) : InTandem S (answer ch manner c) (Pilot.answer ch' manner c) := by
  cases c with
  | clear side => exact h.isOpen side
  | seesGem => exact h.seesGemAhead
  | hasGem => exact h.findGems.bind fun _ => inTandem_pure _
  | facing d => exact h.findFacing.bind fun _ => inTandem_pure _

end Companions

end Pilot

end GridScript
