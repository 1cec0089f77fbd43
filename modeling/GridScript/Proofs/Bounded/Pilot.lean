import GridScript.Proofs.Bounded.Operations
import GridScript.Proofs.Link.Steadfast
import GridScript.Proofs.Pilot.Operations

/-!
# A pilot within bounds

A pilot computes little: it picks the values of an answer by their numbers, looks directions up in
their clockwise order, and counts gems. Each of these could leave its bounds, and something else
keeps it from that: the fields of an answer are counted before their values are picked, only a
digit is read as a number of gems, the modulus of a rotation is 3 or 4, what is taken has to fit
into what can be held, and a gem is dropped only by an agent that holds one and onto a cell with
room for it.

So the pilot that computes with bounds is the pilot, whatever the far end answers, and it breaks off
only where its link does.

* `Bounded.agent` — the pilot, with operations that break off beyond their bounds.
* `Bounded.values_eq`, `Bounded.toward_eq` and the others — what keeps the operations within them.
* `Bounded.Sure` — an action that is the same with bounds, keeps true what its link keeps true, and
  breaks off only as its link does.
* `Bounded.sure_obey`, `Bounded.sure_answer` — everything that a script asks.
-/

namespace GridScript

/-! ### Answers -/

namespace Bounded

variable (broken : Abort) {α β : Type}

/-- **How the fields of an answer are read.** They may form no answer, and reading may break off. -/
abbrev Reader (α : Type) := List String → Except Abort (Option α)

/-- **The values of some fields**, or none if one of the fields has no value. -/
def values (value : String → Except Abort (Option β)) : Reader (List β)
  | [] => .ok (some [])
  | field :: fields => do
    match ← value field with
    | none => return none
    | some v => return (← values value fields).map (v :: ·)

/-- **An answer of a number of fields**, put together from values that are picked by their
numbers. -/
def picked (count : Nat) (value : String → Except Abort (Option β))
    (pick : List β → Except Abort α) : Reader α := fun fields =>
  if fields.length = count then do
    match ← values value fields with
    | none => return none
    | some vs => return some (← pick vs)
  else .ok none

/-- The first of some values. -/
def first (vs : List α) : Except Abort α := item broken vs 0

/-- The first two of some values. -/
def firstTwo (vs : List α) : Except Abort (α × α) := do
  return (← item broken vs 0, ← item broken vs 1)

/-- A field that is an integer. -/
def int (field : String) : Except Abort (Option Int32) := .ok (Numeral.readInt32? field)

/-- **A field that is a cell.** A digit is read by its distance from `0`. -/
def cellText (field : String) : Except Abort (Option Cell) :=
  match field.toList with
  | ['X'] => .ok (some .wall)
  | ['.'] => .ok (some .empty)
  | [c] =>
    if '0' ≤ c ∧ c ≤ '9' then do
      return some (.gems (← sub broken c.toNat '0'.toNat).toUInt8)
    else .ok none
  | _ => .ok none

variable {broken}

/-- Where each field has a value or none, so have some fields. -/
theorem values_eq {value : String → Except Abort (Option β)} {value' : String → Option β}
    (h : ∀ field, value field = .ok (value' field)) (fields : List String) :
    values value fields = .ok (fields.mapM value') := by
  -- the induction is on the fields, and the first that cannot be read ends it on both sides
  induction fields with
  | nil => rfl
  | cons field fields ih =>
    rw [values, h field, List.mapM_cons]
    cases value' field with
    | none => rfl
    | some v =>
      simp only [bind, Except.bind, ih, pure, Except.pure]
      cases fields.mapM value' <;> rfl

/-- **One field** is the first one, once it is known that there is one. -/
theorem picked_one {value : String → Except Abort (Option α)} {value' : String → Option α}
    (h : ∀ field, value field = .ok (value' field)) (fields : List String) :
    picked 1 value (first broken) fields = .ok (Query.one value' fields) := by
  rcases fields with _ | ⟨field, _ | ⟨next, rest⟩⟩
  · rfl
  · -- the one value is there to be picked if the field has one
    have hone : [field].length = 1 := rfl
    rw [picked, if_pos hone, values_eq h, List.mapM_cons]
    cases hvalue : value' field <;>
      simp [Query.one, hvalue, bind, Except.bind, pure, Except.pure, first, item]
  · rfl

/-- **Two integers** are the first two, once it is known that there are two. -/
theorem picked_two (f : Int32 × Int32 → α) (fields : List String) :
    picked 2 int (fun vs => (firstTwo broken vs).map f) fields =
      .ok ((Request.coordOf? fields).map fun c => f (c.x, c.y)) := by
  have hint : ∀ field, int field = .ok (Numeral.readInt32? field) := fun _ => rfl
  -- two fields are a place, and any other number of them is none
  rcases fields with _ | ⟨x, _ | ⟨y, _ | ⟨next, rest⟩⟩⟩
  · rfl
  · rfl
  · have htwo : [x, y].length = 2 := rfl
    rw [picked, if_pos htwo, values_eq hint, Request.coordOf?]
    cases hx : Numeral.readInt32? x with
    | none => simp [hx, bind, Except.bind, pure, Except.pure]
    | some x' =>
      cases hy : Numeral.readInt32? y <;>
        simp [hx, hy, bind, Except.bind, pure, Except.pure, firstTwo, item, Except.map]
  · rfl

/-- **Only a digit is read as a number of gems.** -/
theorem cellText_eq (field : String) : cellText broken field = .ok (Cell.ofText? field) := by
  rw [cellText, Cell.ofText?]
  -- a cell is written with one character
  rcases hchars : field.toList with _ | ⟨c, _ | ⟨c', rest⟩⟩
  · rfl
  · have hread : (if '0' ≤ c ∧ c ≤ '9' then do
        return some (.gems (← sub broken c.toNat '0'.toNat).toUInt8)
      else .ok none : Except Abort (Option Cell)) =
        .ok (if '0' ≤ c ∧ c ≤ '9' then some (.gems (c.toNat - '0'.toNat).toUInt8) else none) := by
      by_cases hdigit : '0' ≤ c ∧ c ≤ '9'
      · have hle : '0'.toNat ≤ c.toNat := hdigit.1
        rw [if_pos hdigit, if_pos hdigit, sub_of_le hle]
        rfl
      · rw [if_neg hdigit, if_neg hdigit]
    -- the two letters come before the digits
    by_cases hwall : c = 'X'
    · subst hwall
      rfl
    by_cases hempty : c = '.'
    · subst hempty
      rfl
    simpa only [hwall, hempty] using hread
  · simp

/-! ### Directions -/

variable (broken)

/-- **A quarter turn clockwise**, by the clockwise order. -/
def rightOf (d : Direction) : Except Abort Direction := do
  let next ← add broken USize.size d.index 1
  item broken Direction.clockwise (← rem broken next Direction.count)

/-- **A quarter turn counter-clockwise.** A whole turn is added first, so that nothing is taken off
0. -/
def leftOf (d : Direction) : Except Abort Direction := do
  let around ← add broken USize.size d.index Direction.count
  let previous ← sub broken around 1
  item broken Direction.clockwise (← rem broken previous Direction.count)

/-- **The direction of a side** by a rotation. -/
def toward (modulus : Nat) (side : Side) (facing : Direction) : Except Abort Direction :=
  match side with
  | .front => .ok facing
  | _ => do
    let turned ← add broken USize.size facing.index side.quarterTurns
    item broken Direction.clockwise (← rem broken turned modulus)

variable {broken}

theorem lt_usize_size {n : Nat} (h : n < UInt32.size) : n < USize.size :=
  Nat.lt_of_lt_of_le h word_sizes.2

theorem rightOf_eq (d : Direction) : rightOf broken d = .ok d.rightOf := by
  cases d <;> (rw [rightOf, add_of_lt (lt_usize_size (by decide))]; rfl)

theorem leftOf_eq (d : Direction) : leftOf broken d = .ok d.leftOf := by
  cases d <;> (rw [leftOf, add_of_lt (lt_usize_size (by decide))]; rfl)

/-- **By the moduli that are accepted** each side is in one direction of the order. -/
theorem toward_eq {modulus : Nat} (h : modulus = 3 ∨ modulus = 4) (side : Side)
    (facing : Direction) :
    ∃ d, side.towardModulo modulus facing = .ok d ∧ toward broken modulus side facing = .ok d := by
  refine ⟨side.rotated modulus facing, Side.towardModulo_eq_rotated h side facing, ?_⟩
  -- neither number is above 3
  have hturned : facing.index + side.quarterTurns < USize.size :=
    lt_usize_size (by cases facing <;> cases side <;> decide)
  cases side with
  | front => rfl
  | _ =>
    simp only [toward, add_of_lt hturned, bind, Except.bind]
    -- only the moduli that the settings allow are tried, and each gives a direction
    rcases h with rfl | rfl <;> cases facing <;> rfl

/-! ### The pilot -/

section Actions

variable (broken : Abort) {χ : Type} (ch : Link χ) (manner : Pilot.Manner) {α : Type}

open Pilot

/-- The value of an operation with bounds, as part of an action. -/
def within (value : Except Abort α) : Action χ α :=
  match value with
  | .ok a => pure a
  | .error a => throw (.aborted a)

/-- **Asks a question**, whose answer is read with bounds. -/
def ask (q : Query α) (read : Reader α) : Action χ α := do
  let response ← exchange ch manner q.request
  match fieldsAfter? q.head response with
  | none => fail (.wrongResponse q.request.line q.head response)
  | some fields =>
    match ← within (read fields) with
    | none => fail (.unreadableResponse q.request.line response)
    | some a => return a

/-- **Finds a fact** that is remembered once it has been asked for. -/
def find (q : Query α) (read : Reader α) (known : Belief → Option α)
    (learn : α → Belief → Belief) : Action χ α := do
  match known (← believed) with
  | some a => return a
  | none =>
    let a ← ask ch manner q read
    believe (learn a)
    return a

/-- Where the agent is. -/
def findLocation : Action χ Coord :=
  find ch manner .location (picked 2 int fun vs => (firstTwo broken vs).map fun (x, y) => ⟨x, y⟩)
    Belief.location fun c b => { b with location := some c }

/-- Which way the agent faces. -/
def findFacing : Action χ Direction :=
  find ch manner .facing (picked 1 (fun field => .ok (Direction.ofName? field)) (first broken))
    Belief.facing fun d b => { b with facing := some d }

/-- How many gems the agent holds. -/
def findGems : Action χ UInt32 :=
  find ch manner .gemCount
    (picked 1 (fun field => .ok (Numeral.readUInt32? field)) (first broken))
    Belief.gems fun n b => { b with gems := some n }

/-- How large the grid is. -/
def findSize : Action χ GridSize :=
  find ch manner .gridSize (picked 2 int fun vs => (firstTwo broken vs).map fun (w, h) => ⟨w, h⟩)
    Belief.gridSize fun s b => { b with gridSize := some s }

/-- What a cell holds. -/
def askCell (c : Coord) : Action χ Cell :=
  ask ch manner (.cell c) (picked 1 (cellText broken) (first broken))

/-- The cell next to the agent in a direction. -/
def cellToward (d : Direction) : Action χ (Option Coord) := do
  let here ← findLocation broken ch manner
  let size ← findSize broken ch manner
  let there := here.step d
  return if size.contains there then some there else none

/-- Goes to the cell ahead. -/
def goAhead : Action χ Unit := do
  let some target ← cellToward broken ch manner (← findFacing broken ch manner) | return
  if (← askCell broken ch manner target).isWall then return
  order ch manner (.goTo target)
  believe ({ · with location := some target })

/-- **Picks up all gems of the cell ahead.** What is held then is counted with bounds. -/
def takeAhead : Action χ Unit := do
  let some target ← cellToward broken ch manner (← findFacing broken ch manner) | return
  let found := (← askCell broken ch manner target).gemCount
  if found = 0 then return
  let held ← findGems broken ch manner
  if UInt32.size ≤ held.toNat + found.toNat then fail (.tooManyGems held found)
  order ch manner (.putCell target .empty)
  let total ← within (add broken UInt32.size held.toNat found.toNat)
  hold ch manner total.toUInt32

/-- **Puts one gem on the cell ahead.** What lies there and what is held then is counted with
bounds. -/
def dropAhead : Action χ Unit := do
  let held ← findGems broken ch manner
  if held = 0 then return
  let some target ← cellToward broken ch manner (← findFacing broken ch manner) | return
  match ← askCell broken ch manner target with
  | .wall => return
  | .gems n =>
    if Cell.mostGems ≤ n then return
    let more ← within (add broken UInt8.size n.toNat 1)
    order ch manner (.putCell target (.gems more.toUInt8))
    let fewer ← within (sub broken held.toNat 1)
    hold ch manner fewer.toUInt32

/-- Does the agent see gems ahead? -/
def seesGemAhead : Action χ Bool := do
  let some target ← cellToward broken ch manner (← findFacing broken ch manner) | return false
  return 0 < (← askCell broken ch manner target).gemCount

/-- Is the cell on a side of the agent there, and no wall? -/
def isOpen (side : Side) : Action χ Bool := do
  let d ← within (toward broken manner.modulus side (← findFacing broken ch manner))
  let some target ← cellToward broken ch manner d | return false
  return !(← askCell broken ch manner target).isWall

/-- Loads another grid. -/
def changeGrid (name : String) : Action χ Unit := do
  order ch manner (.loadGrid name)
  believe .onNewGrid
  discard <| findSize broken ch manner

/-- **Carries out a command of a script.** -/
def obey : Command → Action χ Unit
  | .move .step => goAhead broken ch manner
  | .move .turnLeft => do
    turnTo ch manner (← within (leftOf broken (← findFacing broken ch manner)))
  | .move .turnRight => do
    turnTo ch manner (← within (rightOf broken (← findFacing broken ch manner)))
  | .move .take => takeAhead broken ch manner
  | .move .drop => dropAhead broken ch manner
  | .loadGrid name => changeGrid broken ch manner name
  | .setGems n => hold ch manner n
  | .stop => signOff ch manner

/-- **Answers a question of a script.** -/
def answer : Condition → Action χ Bool
  | .facing d => return (← findFacing broken ch manner) == d
  | .hasGem => return 0 < (← findGems broken ch manner)
  | .seesGem => seesGemAhead broken ch manner
  | .clear side => isOpen broken ch manner side

/-- **The pilot with bounds, as an agent.** -/
def agent : Agent (Pilot χ) where
  obey c := diagnosed (obey broken ch manner c)
  answer c := diagnosed (answer broken ch manner c)

end Actions

end Bounded

/-! ### It is the pilot -/

namespace Bounded

open Pilot

variable {broken : Abort} {χ : Type} {ch : Link χ} {manner : Manner} {α : Type}
variable {I : χ → Prop} {B : Abort → χ → Prop}

/-- **An action within bounds** keeps true of its link what a use of the link does, and breaks off
only as the link does. -/
abbrev Sure (I : χ → Prop) (B : Abort → χ → Prop) (bounded act : Action χ α) : Prop :=
  Within (fun p => I p.link) (fun e p => e.Leaves I B p.link) bounded act

theorem sure_fail (e : LinkError) : Sure I B (fail e : Action χ α) (fail e) :=
  within_throw fun _ hp => hp

/-- Behind a failure nothing is done. -/
theorem sure_fail_bind {β : Type} (e : LinkError) (f f' : α → Action χ β) :
    Sure I B (fail e >>= f) (fail e >>= f') :=
  ⟨rfl, fun _ hp => hp⟩

theorem sure_believed : Sure I B (believed : Action χ Belief) believed :=
  ⟨rfl, fun _ hp => hp⟩

theorem sure_believe (change : Belief → Belief) :
    Sure I B (believe change : Action χ Unit) (believe change) :=
  ⟨rfl, fun _ hp => hp⟩

theorem sure_overLink {use : EStateM (Trouble LinkError) χ α}
    (h : ∀ s, I s → Settles use s (fun _ => I) (Trouble.Leaves I B)) :
    Sure I B (overLink use) (overLink use) := by
  refine ⟨rfl, fun p hp => ?_⟩
  have huse := h p.link hp
  rw [Settles, overLink]
  cases hact : use p.link with
  | ok v s => exact huse.of_ok hact
  | error e s => exact huse.of_error hact

/-- An operation that stays within its bounds has a value. -/
theorem within_bind {β : Type} {value : Except Abort α} {a : α} (h : value = .ok a)
    (f : α → Action χ β) : (within value >>= f) = f a := by
  rw [h]
  rfl

/-! What is counted. -/

/-- More than fits is never counted. -/
theorem toUInt32_add (held : UInt32) (found : UInt8) :
    (held.toNat + found.toNat).toUInt32 = held + found.toUInt32 := by
  apply UInt32.toNat_inj.1
  simp [UInt32.toNat_add]

/-- On a cell that is not full there is room for one more. -/
theorem add_one_of_not_full (broken : Abort) {n : UInt8} (h : ¬ Cell.mostGems ≤ n) :
    add broken UInt8.size n.toNat 1 = .ok (n.toNat + 1) ∧ (n.toNat + 1).toUInt8 = n + 1 := by
  have hlt : n.toNat < 9 := UInt8.lt_iff_toNat_lt.1 (UInt8.not_le.1 h)
  have hsize : UInt8.size = 256 := rfl
  constructor
  · exact add_of_lt (by omega)
  · apply UInt8.toNat_inj.1
    simp [UInt8.toNat_add]

/-- Of some gems there is one to be dropped. -/
theorem sub_one_of_ne_zero (broken : Abort) {held : UInt32} (h : held ≠ 0) :
    sub broken held.toNat 1 = .ok (held.toNat - 1) ∧ (held.toNat - 1).toUInt32 = held - 1 := by
  -- a gem is held, since the number of them is not zero
  have hpos : 1 ≤ held.toNat := by
    refine Nat.one_le_iff_ne_zero.2 fun hzero => ?_
    exact h (UInt32.toNat_inj.1 hzero)
  have hone : (1 : UInt32) ≤ held := UInt32.le_iff_toNat_le.2 hpos
  have hlt : held.toNat - 1 < UInt32.size := Nat.lt_of_le_of_lt (Nat.sub_le _ 1) held.toNat_lt
  constructor
  · exact sub_of_le hpos
  · apply UInt32.toNat_inj.1
    rw [UInt32.toNat_sub_of_le _ _ hone, Nat.toUInt32_eq, UInt32.toNat_ofNat_of_lt' hlt]
    rfl

/-! What is asked and done. -/

variable (hch : ch.Steadfast I B)

include hch

theorem sure_exchange (r : Request) : Sure I B (exchange ch manner r) (exchange ch manner r) := by
  refine (sure_overLink (hch (.send r))).bind fun _ => ?_
  refine (sure_overLink fun _ => hch.receive manner.patience).bind fun response => ?_
  cases response with
  | none => exact sure_fail _
  | some response =>
    exact .ite (fun _ => sure_fail _) fun _ => .ite (fun _ => sure_fail _) fun _ =>
      within_pure _

theorem sure_order (r : Request) : Sure I B (order ch manner r) (order ch manner r) :=
  (sure_exchange hch r).bind fun _ => .ite (fun _ => within_pure _) fun _ => sure_fail _

/-- **A question**, whose answer is read as it is without bounds. -/
theorem sure_ask {q : Query α} {read : Reader α}
    (hread : ∀ fields, read fields = .ok (q.read fields)) :
    Sure I B (ask ch manner q read) (Pilot.ask ch manner q) := by
  refine (sure_exchange hch q.request).bind fun response => ?_
  -- a response without its head, or with fields that cannot be read, fails without an operation
  cases fieldsAfter? q.head response with
  | none => exact sure_fail _
  | some fields =>
    dsimp only
    rw [within_bind (hread fields)]
    cases q.read fields with
    | none => exact sure_fail _
    | some a => exact within_pure a

theorem sure_find {q : Query α} {read : Reader α}
    (hread : ∀ fields, read fields = .ok (q.read fields)) (known : Belief → Option α)
    (learn : α → Belief → Belief) :
    Sure I B (find ch manner q read known learn) (Pilot.find ch manner q known learn) := by
  refine sure_believed.bind fun b => ?_
  cases known b with
  | some a => exact within_pure a
  | none => exact (sure_ask hch hread).bind fun a => (sure_believe _).bind fun _ => within_pure a

theorem sure_findLocation :
    Sure I B (findLocation broken ch manner) (Pilot.findLocation ch manner) := by
  rw [Pilot.findLocation_eq]
  refine sure_find hch (fun fields => ?_) _ _
  rw [picked_two]
  cases hfields : Request.coordOf? fields <;> simp [Query.location, hfields]

theorem sure_findFacing :
    Sure I B (findFacing broken ch manner) (Pilot.findFacing ch manner) := by
  rw [Pilot.findFacing_eq]
  exact sure_find hch (picked_one fun _ => rfl) _ _

theorem sure_findGems : Sure I B (findGems broken ch manner) (Pilot.findGems ch manner) := by
  rw [Pilot.findGems_eq]
  exact sure_find hch (picked_one fun _ => rfl) _ _

theorem sure_findSize : Sure I B (findSize broken ch manner) (Pilot.findSize ch manner) := by
  rw [Pilot.findSize_eq]
  exact sure_find hch (picked_two _) _ _

theorem sure_askCell (c : Coord) :
    Sure I B (askCell broken ch manner c) (Pilot.ask ch manner (.cell c)) :=
  sure_ask hch (picked_one cellText_eq)

theorem sure_cellToward (d : Direction) :
    Sure I B (cellToward broken ch manner d) (Pilot.cellToward ch manner d) :=
  (sure_findLocation hch).bind fun _ => (sure_findSize hch).bind fun _ => within_pure _

theorem sure_turnTo (d : Direction) : Sure I B (turnTo ch manner d) (turnTo ch manner d) :=
  (sure_order hch _).bind fun _ => sure_believe _

theorem sure_hold (n : UInt32) : Sure I B (hold ch manner n) (hold ch manner n) :=
  (sure_order hch _).bind fun _ => sure_believe _

theorem sure_changeGrid (name : String) :
    Sure I B (changeGrid broken ch manner name) (Pilot.changeGrid ch manner name) :=
  (sure_order hch _).bind fun _ => (sure_believe _).bind fun _ =>
    (sure_findSize hch).bind fun _ => within_pure ()

/-- **The cell next to the agent is looked at**, whatever is done then. -/
theorem sure_look {off : Action χ α} {there there' : Coord → Cell → Action χ α} (d : Direction)
    (hoff : Sure I B off off) (hthere : ∀ c cell, Sure I B (there c cell) (there' c cell)) :
    Sure I B
      (do
        let some target ← cellToward broken ch manner d | off
        let cell ← askCell broken ch manner target
        there target cell)
      (do
        let some target ← Pilot.cellToward ch manner d | off
        let cell ← Pilot.ask ch manner (.cell target)
        there' target cell) := by
  refine (sure_cellToward hch d).bind fun target => ?_
  cases target with
  | none => exact hoff
  | some c => exact (sure_askCell hch c).bind fun cell => hthere c cell

theorem sure_goAhead : Sure I B (goAhead broken ch manner) (Pilot.goAhead ch manner) := by
  refine (sure_findFacing hch).bind fun d => ?_
  refine sure_look hch d (within_pure ()) fun c cell => ?_
  exact .ite (fun _ => within_pure ()) fun _ => (sure_order hch _).bind fun _ =>
    sure_believe _

/-- **What is taken fits** into what can be held; else nothing is taken. -/
theorem sure_takeAhead : Sure I B (takeAhead broken ch manner) (Pilot.takeAhead ch manner) := by
  refine (sure_findFacing hch).bind fun d => ?_
  refine sure_look hch d (within_pure ()) fun c cell => ?_
  refine .ite (fun _ => within_pure ()) fun _ => (sure_findGems hch).bind fun held => ?_
  refine .ite (fun _ => sure_fail_bind _ _ _) fun hfits => ?_
  refine (sure_order hch _).bind fun _ => ?_
  have hlt : held.toNat + cell.gemCount.toNat < UInt32.size := Nat.lt_of_not_le hfits
  rw [within_bind (add_of_lt hlt), toUInt32_add]
  exact sure_hold hch _

/-- **A gem is dropped** only by an agent that holds one, and only where there is room for one more.
-/
theorem sure_dropAhead : Sure I B (dropAhead broken ch manner) (Pilot.dropAhead ch manner) := by
  refine (sure_findGems hch).bind fun held => ?_
  -- without gems, at a wall and at a full cell nothing is added or taken away
  refine .ite (fun _ => within_pure ()) fun hheld => (sure_findFacing hch).bind fun d => ?_
  refine sure_look hch d (within_pure ()) fun c cell => ?_
  cases cell with
  | wall => exact within_pure ()
  | gems n =>
    refine .ite (fun _ => within_pure ()) fun hroom => ?_
    obtain ⟨hmore, hone⟩ := add_one_of_not_full broken hroom
    obtain ⟨hfewer, hless⟩ := sub_one_of_ne_zero broken hheld
    rw [within_bind hmore, hone]
    -- one gem is put before one is taken off, with the command between them
    refine (sure_order hch _).bind fun _ => ?_
    rw [within_bind hfewer, hless]
    exact sure_hold hch _

theorem sure_seesGemAhead :
    Sure I B (seesGemAhead broken ch manner) (Pilot.seesGemAhead ch manner) :=
  (sure_findFacing hch).bind fun d => sure_look hch d (within_pure false) fun _ _ =>
    within_pure _

/-- **A side is somewhere** by the moduli that are accepted. -/
theorem sure_isOpen (hmodulus : manner.modulus = 3 ∨ manner.modulus = 4) (side : Side) :
    Sure I B (isOpen broken ch manner side) (Pilot.isOpen ch manner side) := by
  refine (sure_findFacing hch).bind fun facing => ?_
  obtain ⟨d, hd, htoward⟩ := toward_eq hmodulus side facing
  rw [within_bind htoward, hd]
  exact sure_look hch d (within_pure false) fun _ _ => within_pure _

/-- **Every command of a script** stays within its bounds. -/
theorem sure_obey (c : Command) :
    Sure I B (obey broken ch manner c) (Pilot.obey ch manner c) := by
  cases c with
  | move m =>
    cases m with
    | step => exact sure_goAhead hch
    | turnLeft =>
      -- a quarter turn stays below the four directions, whichever way it goes
      refine (sure_findFacing hch).bind fun d => ?_
      rw [within_bind (leftOf_eq d)]
      exact sure_turnTo hch _
    | turnRight =>
      refine (sure_findFacing hch).bind fun d => ?_
      rw [within_bind (rightOf_eq d)]
      exact sure_turnTo hch _
    | take => exact sure_takeAhead hch
    | drop => exact sure_dropAhead hch
  | loadGrid name => exact sure_changeGrid hch name
  | setGems n => exact sure_hold hch n
  | stop => exact sure_order hch _

/-- **Every question of a script** does, too. -/
theorem sure_answer (hmodulus : manner.modulus = 3 ∨ manner.modulus = 4) (c : Condition) :
    Sure I B (answer broken ch manner c) (Pilot.answer ch manner c) := by
  cases c with
  | facing d => exact (sure_findFacing hch).bind fun _ => within_pure _
  | hasGem => exact (sure_findGems hch).bind fun _ => within_pure _
  | seesGem => exact sure_seesGemAhead hch
  | clear side => exact sure_isOpen hch hmodulus side

end Bounded

end GridScript
