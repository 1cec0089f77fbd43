import GridScript.Link.Simulator
import GridScript.Proofs.Pilot.Operations

/-!
# A pilot over a world keeps the rules

The far end of a link holds the world, and a pilot has only its belief and the lines that it
receives. The two stay together: the far end goes on answering for a world, and what the pilot
believes is true of that world, however much of it the pilot has asked for. So the outcome of an
action depends on the world alone, and an action that finds a fact need not be followed twice, for a
pilot that knows it and for one that asks.

* `Simulator.Serves`, `Belief.TrueOf` — the two sides, `Pilot.Knows` — the invariant.
* `Pilot.Makes` — what an action makes of a world, with the rule for sequences.
* `Pilot.makes_find` — a fact is found, believed or asked for; `Pilot.makes_look` — the cell next to
  the agent.
* `Pilot.makes_carryOut` — every operation, as the rules of the grid have it.
* `Pilot.inTurn_eq_rules` — operations in turn.
-/

namespace GridScript

/-! ### The far end -/

/-- **A far end that answers for a world**: its link is open, nothing waits to be received, and it
has not been told to keep silent or to refuse. -/
structure Simulator.Serves (s : Simulator) (w : World) : Prop where
  world : s.world = w
  unread : s.unread = []
  closed : s.closed = false
  silentFor : s.silentFor = none
  refuses : s.refuses = none

namespace Simulator

variable {s : Simulator} {w w' : World} {r : Request} {answer : Response}

/-- **A line that is not refused is answered as the world answers it**, and only the world can
become another one by it. -/
theorem respond_of_not_refused (hbegins : begins r.line s.refuses = false) (hr : r.Plain)
    (hw : s.world.respond r = .ok (answer, w')) :
    ∃ s', s.respond r.line = .ok (answer, s') ∧ s'.world = w' ∧ s'.unread = s.unread ∧
      s'.closed = s.closed ∧ s'.silentFor = s.silentFor ∧ s'.refuses = s.refuses := by
  rw [respond, hbegins, if_neg Bool.false_ne_true, Request.ofLine_line hr]
  cases r with
  | loadGrid name => cases hr
  | _ =>
    -- apart from a change of the grid, the world alone decides
    simp only [hw, Except.map]
    exact ⟨_, rfl, rfl, rfl, rfl, rfl, rfl⟩

/-- **A request is answered as the world answers it.** -/
theorem Serves.respond_eq (h : s.Serves w) (hr : r.Plain) (hw : w.respond r = .ok (answer, w')) :
    ∃ s', s.respond r.line = .ok (answer, s') ∧ s'.Serves w' := by
  have hbegins : begins r.line s.refuses = false := by rw [h.refuses]; rfl
  rw [← h.world] at hw
  obtain ⟨s', hanswer, hworld, hunread, hclosed, hsilent, hrefuses⟩ :=
    respond_of_not_refused hbegins hr hw
  exact ⟨s', hanswer, hworld, hunread.trans h.unread, hclosed.trans h.closed,
    hsilent.trans h.silentFor, hrefuses.trans h.refuses⟩

/-- **A line is heard, and its answer is the next to be said.** -/
theorem Serves.hear_say (h : s.Serves w) (hr : r.Plain) (hw : w.respond r = .ok (answer, w')) :
    ∃ s₁ s₂, hear r.line s = .ok () s₁ ∧ say s₁ = .ok (some answer.line) s₂ ∧ s₂.Serves w' := by
  let s₀ : Simulator := { s with heard := s.heard ++ [r.line] }
  have h₀ : s₀.Serves w := ⟨h.world, h.unread, h.closed, h.silentFor, h.refuses⟩
  -- to have heard the line changes none of the five conditions
  obtain ⟨s', hanswer, h'⟩ := h₀.respond_eq hr hw
  have hsilent : begins r.line s₀.silentFor = false := by rw [h₀.silentFor]; rfl
  refine ⟨{ s' with unread := s'.unread ++ [answer.line] }, s', ?_, ?_, h'⟩
  · rw [hear, if_neg (by simp [h.closed])]
    simp only [s₀] at hsilent hanswer
    simp only [hsilent, hanswer, Bool.false_eq_true, if_false]
  · -- nothing else waits, so the answer is the first to be said and the last
    obtain ⟨world, grids, unread, heard, shows, stopped, closed, silentFor, refuses⟩ := s'
    obtain ⟨-, hunread, hclosed, -, -⟩ := h'
    cases hunread
    cases hclosed
    rfl

end Simulator

/-! ### What a pilot knows -/

/-- **A belief that is true of a world**: what is known is as it is there. -/
structure Belief.TrueOf (b : Belief) (w : World) : Prop where
  location : ∀ c, b.location = some c → c = w.agent
  facing : ∀ d, b.facing = some d → d = w.facing
  gems : ∀ n, b.gems = some n → n = w.held
  gridSize : ∀ s, b.gridSize = some s → s = w.size

namespace Belief.TrueOf

variable {b : Belief} {w : World}

/-! What is learned and what is changed are the same to a belief: it becomes true of a world in
which the one thing is so, and that may be the world as it is. -/

theorem place (h : b.TrueOf w) (c : Coord) :
    Belief.TrueOf { b with location := some c } { w with agent := c } :=
  { h with location := fun _ hc => (Option.some.inj hc).symm }

theorem turn (h : b.TrueOf w) (d : Direction) :
    Belief.TrueOf { b with facing := some d } { w with facing := d } :=
  { h with facing := fun _ hd => (Option.some.inj hd).symm }

theorem hold (h : b.TrueOf w) (n : UInt32) :
    Belief.TrueOf { b with gems := some n } { w with held := n } :=
  { h with gems := fun _ hn => (Option.some.inj hn).symm }

theorem measure (h : b.TrueOf w) : Belief.TrueOf { b with gridSize := some w.size } w :=
  { h with gridSize := fun _ hs => (Option.some.inj hs).symm }

/-- No belief is about a cell. -/
theorem withCell (h : b.TrueOf w) (c : Coord) (cell : Cell) : b.TrueOf (w.withCell c cell) := by
  refine ⟨h.location, h.facing, h.gems, ?_⟩
  rw [World.size_withCell]
  exact h.gridSize

end Belief.TrueOf

/-- **A pilot that knows a world**: its far end answers for it, and what it believes is true there.
-/
structure Pilot.Knows (p : Pilot Simulator) (w : World) : Prop where
  serves : p.link.Serves w
  belief : p.belief.TrueOf w

namespace Pilot

/-- **What an action makes of a world.** It begins with a pilot that knows one world, gives a result
that depends only on that world, and ends with a pilot that knows the other world. -/
def Makes {α : Type} (act : Action Simulator α) (w : World) (r : Except (Trouble LinkError) α)
    (w' : World) : Prop :=
  ∀ p : Pilot Simulator, p.Knows w → ∃ p' : Pilot Simulator, p'.Knows w' ∧ act p = p'.resultOf r

variable {α β : Type} {w w' w'' : World}

theorem makes_pure (a : α) : Makes (pure a) w (.ok a) w := fun p hp => ⟨p, hp, rfl⟩

theorem makes_throw (e : Trouble LinkError) : Makes (α := α) (throw e) w (.error e) w :=
  fun p hp => ⟨p, hp, rfl⟩

theorem makes_fail (e : LinkError) : Makes (α := α) (fail e) w (.error (.failed e)) w :=
  makes_throw _

theorem Makes.bind {act : Action Simulator α} {f : α → Action Simulator β} {a : α}
    {r : Except (Trouble LinkError) β} (h : Makes act w (.ok a) w') (h' : Makes (f a) w' r w'') :
    Makes (act >>= f) w r w'' := by
  intro p hp
  obtain ⟨p', hp', hact⟩ := h p hp
  obtain ⟨p'', hp'', hf⟩ := h' p' hp'
  refine ⟨p'', hp'', ?_⟩
  rw [bind_of_ok hact, hf]

/-- Behind a failure nothing more happens. -/
theorem Makes.bind_error {act : Action Simulator α} {f : α → Action Simulator β}
    {e : Trouble LinkError} (h : Makes act w (.error e) w') :
    Makes (act >>= f) w (.error e) w' := by
  intro p hp
  obtain ⟨p', hp', hact⟩ := h p hp
  refine ⟨p', hp', ?_⟩
  rw [bind_of_error hact]
  rfl

/-! ### Exchanges -/

variable (manner : Manner) {r : Request} {answer : Response}

/-- **An exchange with the far end of a world** gives the answer of the world. -/
theorem exchange_eq {p : Pilot Simulator} (h : p.link.Serves w) (hr : r.Plain)
    (hw : w.respond r = .ok (answer, w')) (hanswer : ∀ reason, answer ≠ .rejected reason) :
    ∃ s', s'.Serves w' ∧
      exchange Simulator.link manner r p = .ok answer.line { p with link := s' } := by
  obtain ⟨s₁, s₂, hhear, hsay, h₂⟩ := h.hear_say hr hw
  obtain ⟨hfail, herror⟩ := Response.line_ne_rejection hanswer
  refine ⟨s₂, h₂, ?_⟩
  simp only [exchange, bind_apply, overLink, Simulator.link, hhear, hsay]
  rw [if_neg hfail, if_neg herror]
  rfl

/-- **A command that the world carries out** is acknowledged. -/
theorem order_eq {p : Pilot Simulator} (h : p.link.Serves w) (hr : r.Plain)
    (hw : w.respond r = .ok (.done r, w')) :
    ∃ s', s'.Serves w' ∧ order Simulator.link manner r p = .ok () { p with link := s' } := by
  obtain ⟨s', h', hexchange⟩ := exchange_eq manner h hr hw (by simp)
  refine ⟨s', h', ?_⟩
  rw [order, bind_of_ok hexchange]
  simp [Response.line]

/-- **A question** is answered with the fact, and the world stays as it is. -/
theorem makes_ask {q : Query α} {a : α} (hr : q.request.Plain)
    (hw : w.respond q.request = .ok (answer, w)) (hanswer : ∀ reason, answer ≠ .rejected reason)
    (ha : q.answer? answer.line = some a) : Makes (ask Simulator.link manner q) w (.ok a) w := by
  intro p hp
  obtain ⟨s', h', hexchange⟩ := exchange_eq manner hp.serves hr hw hanswer
  refine ⟨{ p with link := s' }, ⟨h', hp.belief⟩, ?_⟩
  rw [ask_of_exchange _ manner hexchange, q.decode_of_answer? ha]

/-- **A command after which a belief is changed.** What was true of the world before has to be true
of the world after it, once it is changed. -/
theorem makes_order_believe {change : Belief → Belief} (hr : r.Plain)
    (hw : w.respond r = .ok (.done r, w'))
    (hchange : ∀ b : Belief, b.TrueOf w → (change b).TrueOf w') :
    Makes (do order Simulator.link manner r; believe change) w (.ok ()) w' := by
  intro p hp
  obtain ⟨s', h', horder⟩ := order_eq manner hp.serves hr hw
  refine ⟨⟨s', change p.belief⟩, ⟨h', hchange _ hp.belief⟩, ?_⟩
  rw [bind_of_ok horder]
  rfl

/-- A command that changes nothing of what can be known. -/
theorem makes_order (hr : r.Plain) (hw : w.respond r = .ok (.done r, w'))
    (htrue : ∀ b : Belief, b.TrueOf w → b.TrueOf w') :
    Makes (order Simulator.link manner r) w (.ok ()) w' := by
  intro p hp
  obtain ⟨s', h', horder⟩ := order_eq manner hp.serves hr hw
  exact ⟨{ p with link := s' }, ⟨h', htrue _ hp.belief⟩, horder⟩

/-! ### Facts -/

/-- **A fact of the world is found**, whether it is known already or not. -/
theorem makes_find {q : Query α} {a : α} {known : Belief → Option α} {learn : α → Belief → Belief}
    (hknown : ∀ b : Belief, b.TrueOf w → ∀ x, known b = some x → x = a)
    (hask : Makes (ask Simulator.link manner q) w (.ok a) w)
    (hlearn : ∀ b : Belief, b.TrueOf w → (learn a b).TrueOf w) :
    Makes (find Simulator.link manner q known learn) w (.ok a) w := by
  intro p hp
  -- whether anything is asked depends on the pilot, but what is found does not
  cases hb : known p.belief with
  | some x =>
    refine ⟨p, hp, ?_⟩
    rw [find_of_known _ manner hb, hknown _ hp.belief x hb]
    rfl
  | none =>
    obtain ⟨p', hp', hact⟩ := hask p hp
    refine ⟨{ p' with belief := learn a p'.belief }, ⟨hp'.serves, hlearn _ hp'.belief⟩, ?_⟩
    rw [find_of_unknown _ manner hb, bind_of_ok hact]
    rfl

theorem makes_findLocation : Makes (findLocation Simulator.link manner) w (.ok w.agent) w := by
  rw [findLocation_eq]
  refine makes_find manner (fun b hb => hb.location) ?_ fun b hb => hb.place w.agent
  exact makes_ask manner trivial rfl (by simp) (Query.answer?_location w.agent)

theorem makes_findFacing : Makes (findFacing Simulator.link manner) w (.ok w.facing) w := by
  rw [findFacing_eq]
  refine makes_find manner (fun b hb => hb.facing) ?_ fun b hb => hb.turn w.facing
  exact makes_ask manner trivial rfl (by simp) (Query.answer?_facing w.facing)

theorem makes_findGems : Makes (findGems Simulator.link manner) w (.ok w.held) w := by
  rw [findGems_eq]
  refine makes_find manner (fun b hb => hb.gems) ?_ fun b hb => hb.hold w.held
  exact makes_ask manner trivial rfl (by simp) (Query.answer?_gemCount w.held)

theorem makes_findSize : Makes (findSize Simulator.link manner) w (.ok w.size) w := by
  rw [findSize_eq]
  refine makes_find manner (fun b hb => hb.gridSize) ?_ fun b hb => hb.measure
  exact makes_ask manner trivial rfl (by simp) (Query.answer?_gridSize w.size)

/-! ### The cell next to the agent -/

variable {d : Direction} {c : Coord} {cell : Cell}

/-- **The place next to the agent** is found by the size that the far end tells. -/
theorem makes_cellToward (w : World) (d : Direction) :
    Makes (cellToward Simulator.link manner d) w
      (.ok (if w.size.contains (w.agent.step d) then some (w.agent.step d) else none)) w :=
  (makes_findLocation manner).bind ((makes_findSize manner).bind (makes_pure _))

/-- What a cell holds is told, if it can be. -/
theorem makes_ask_cell (hat : w.at? c = .ok (some cell)) (hcell : cell.Ordinary) :
    Makes (ask Simulator.link manner (.cell c)) w (.ok cell) w := by
  refine makes_ask manner trivial ?_ (by simp) (Query.answer?_cell c hcell)
  change World.respond w (.askCell c) = _
  simp [World.respond, hat]
  rfl

/-- **Past the edge** the pilot finds no cell. -/
theorem makes_cellToward_none (h : w.Regular) (hn : w.next? d = none) :
    Makes (cellToward Simulator.link manner d) w (.ok none) w := by
  have hfound := makes_cellToward manner w d
  rwa [h.not_contains_of_next? hn, if_neg Bool.false_ne_true] at hfound

/-- **On the grid** the pilot finds the cell that is next to the agent, and is told what it holds.
-/
theorem makes_cellToward_some (h : w.Regular) (hn : w.next? d = some (c, cell)) :
    Makes (cellToward Simulator.link manner d) w (.ok (some c)) w ∧
      Makes (ask Simulator.link manner (.cell c)) w (.ok cell) w := by
  obtain ⟨hcontains, rfl, hat, hcell⟩ := h.of_next?_eq_some hn
  have hfound := makes_cellToward manner w d
  rw [if_pos hcontains] at hfound
  exact ⟨hfound, makes_ask_cell manner hat hcell⟩

/-- **The cell next to the agent is looked at.** What comes of it is what comes of the world, off
the grid or with the cell that is there. -/
theorem makes_look {off : Action Simulator α} {there : Coord → Cell → Action Simulator α}
    {r : Except (Trouble LinkError) α} (h : w.Regular)
    (hoff : w.next? d = none → Makes off w r w')
    (hthere : ∀ c cell, w.next? d = some (c, cell) → Makes (there c cell) w r w') :
    Makes (do
      let some target ← cellToward Simulator.link manner d | off
      let cell ← ask Simulator.link manner (.cell target)
      there target cell) w r w' := by
  -- the rule sees a cell exactly where the pilot's comparison with the size lets it look
  cases hn : w.next? d with
  | none => exact (makes_cellToward_none manner h hn).bind (hoff hn)
  | some beside =>
    obtain ⟨c, cell⟩ := beside
    obtain ⟨hfound, hcell⟩ := makes_cellToward_some manner h hn
    exact hfound.bind (hcell.bind (hthere c cell hn))

/-! ### Operations -/

/-- The agent goes to a cell without a wall. -/
theorem makes_goTo {n : UInt8} (hat : w.at? c = .ok (some (.gems n))) :
    Makes (do order Simulator.link manner (.goTo c); believe ({ · with location := some c })) w
      (.ok ()) { w with agent := c } := by
  have hgo : w.respond (.goTo c) = .ok (.done (.goTo c), { w with agent := c }) := by
    simp only [World.respond, hat]
    rfl
  exact makes_order_believe manner trivial hgo fun b hb => hb.place c

/-- A pilot steps as the rules say. -/
theorem makes_goAhead (h : w.Regular) :
    Makes (goAhead Simulator.link manner) w (.ok ()) w.goAhead := by
  -- the pilot looks at the cell that the rule looks up
  refine (makes_findFacing manner).bind (makes_look manner h ?_ ?_)
  · intro hn
    rw [World.goAhead, hn]
    exact makes_pure ()
  · intro c cell hn
    rw [World.goAhead, hn]
    cases cell with
    | wall => exact makes_pure ()
    | gems n =>
      -- the cell is there, so the far end lets the agent go
      obtain ⟨-, -, hat, -⟩ := h.of_next?_eq_some hn
      exact makes_goTo manner hat

/-- A turn is a command. -/
theorem makes_turnTo (d : Direction) :
    Makes (turnTo Simulator.link manner d) w (.ok ()) { w with facing := d } :=
  makes_order_believe manner trivial rfl fun _ hb => hb.turn d

/-- The number of gems is set by a command. -/
theorem makes_hold (n : UInt32) :
    Makes (hold Simulator.link manner n) w (.ok ()) { w with held := n } :=
  makes_order_believe manner trivial rfl fun _ hb => hb.hold n

/-- A cell is replaced by a command. -/
theorem makes_putCell (hat : w.at? c = .ok (some cell)) {new : Cell} (hnew : new.Ordinary) :
    Makes (order Simulator.link manner (.putCell c new)) w (.ok ()) (w.withCell c new) := by
  refine makes_order manner hnew ?_ fun b hb => hb.withCell c new
  simp only [World.respond, World.put?_of_at? hat]
  rfl

/-- A pilot takes as the rules say, and fails where they do. -/
theorem makes_takeAhead (h : w.Regular) :
    Makes (takeAhead Simulator.link manner) w
      (match w.takeAhead with
        | .ok _ => .ok ()
        | .error e => .error (.failed e))
      (match w.takeAhead with
        | .ok w' => w'
        | .error _ => w) := by
  refine (makes_findFacing manner).bind (makes_look manner h ?_ ?_)
  · intro hn
    rw [World.takeAhead, hn]
    exact makes_pure ()
  · intro c cell hn
    cases cell with
    -- a wall has no gems, by the rule as by the pilot
    | wall =>
      rw [World.takeAhead, hn]
      exact makes_pure ()
    | gems n =>
      dsimp only [Cell.gemCount]
      by_cases hzero : n = 0
      · -- the pilot stops before it asks for the gems that the agent holds
        rw [hzero] at hn
        rw [World.takeAhead_of_gems_zero h hn, if_pos hzero]
        exact makes_pure ()
      · rw [World.takeAhead, hn, if_neg hzero]
        refine (makes_findGems manner).bind ?_
        dsimp only
        -- the rule bounds the sum by the same number
        by_cases hroom : w.held.toNat + n.toNat < UInt32.size
        · rw [if_pos hroom, if_neg (Nat.not_le.2 hroom)]
          obtain ⟨-, -, hat, -⟩ := h.of_next?_eq_some hn
          exact (makes_putCell manner hat (by decide)).bind (makes_hold manner _)
        · -- the pilot fails before its first command
          rw [if_neg hroom, if_pos (Nat.not_lt.1 hroom)]
          exact (makes_fail _).bind_error

/-- A pilot drops as the rules say. -/
theorem makes_dropAhead (h : w.Regular) :
    Makes (dropAhead Simulator.link manner) w (.ok ()) w.dropAhead := by
  refine (makes_findGems manner).bind ?_
  by_cases hheld : w.held = 0
  · -- without gems the pilot looks at no cell
    have hstay : w.dropAhead = w := by
      rw [World.dropAhead]
      split
      · rw [if_neg (by simp [hheld])]
      · rfl
    rw [if_pos hheld, hstay]
    exact makes_pure ()
  · rw [if_neg hheld]
    refine (makes_findFacing manner).bind (makes_look manner h ?_ ?_)
    · -- the rule asks for the cell first and the pilot for the gems; the outcome is the same
      intro hn
      rw [World.dropAhead, hn]
      exact makes_pure ()
    · intro c cell hn
      rw [World.dropAhead, hn]
      cases cell with
      | wall => exact makes_pure ()
      | gems n =>
        dsimp only
        -- nine gems are the most that the pilot drops onto, and the rule too
        by_cases hfull : Cell.mostGems ≤ n
        · rw [if_pos hfull, if_neg fun hcond => UInt8.not_lt.2 hfull hcond.2]
          exact makes_pure ()
        · -- the cell is ordinary with one gem more, so it can be told of
          have hroom : n < 9 := UInt8.not_le.1 hfull
          have hpos : 0 < w.held := UInt32.pos_iff_ne_zero.2 hheld
          obtain ⟨-, -, hat, -⟩ := h.of_next?_eq_some hn
          rw [if_neg hfull, if_pos ⟨hpos, hroom⟩]
          exact (makes_putCell manner hat (Cell.ordinary_gems_succ hroom)).bind
            (makes_hold manner _)

/-- A pilot sees gems where there are some. -/
theorem makes_seesGemAhead (h : w.Regular) (modulus : Nat) :
    Makes (seesGemAhead Simulator.link manner) w (.ok (w.holds modulus .seesGem)) w := by
  refine (makes_findFacing manner).bind (makes_look manner h ?_ ?_)
  · intro hn
    rw [World.holds, hn]
    exact makes_pure false
  · intro c cell hn
    rw [World.holds, hn]
    cases cell <;> exact makes_pure _

/-- A pilot finds a side clear where there is a cell without a wall. -/
theorem makes_isOpen (h : w.Regular) (hmodulus : manner.modulus = 3 ∨ manner.modulus = 4)
    (side : Side) :
    Makes (isOpen Simulator.link manner side) w (.ok (w.holds manner.modulus (.clear side))) w := by
  refine (makes_findFacing manner).bind ?_
  -- for these moduli the side that the pilot computes is the one that the rule names
  rw [Side.towardModulo_eq_rotated hmodulus]
  refine makes_look manner h ?_ ?_
  · intro hn
    rw [World.holds, World.isClear, hn]
    exact makes_pure false
  · intro c cell hn
    rw [World.holds, World.isClear, hn]
    cases cell <;> exact makes_pure _

/-- **A pilot does what the rules say.** -/
theorem makes_carryOut (h : w.Regular) (hmodulus : manner.modulus = 3 ∨ manner.modulus = 4)
    (o : Operation) :
    Makes (o.carryOut Simulator.link manner) w (o.rule manner.modulus w).1
      (o.rule manner.modulus w).2 := by
  -- the operations are those of the rule; only a take can fail, and then by itself
  cases o with
  | move m =>
    cases m with
    | step => exact (makes_goAhead manner h).bind (makes_pure none)
    -- the pilot turns by its own table, and the rule by quarter turns
    | turnLeft =>
      rw [Operation.rule, Direction.turned_left]
      refine Makes.bind (a := ()) ?_ (makes_pure none)
      exact (makes_findFacing manner).bind (makes_turnTo manner _)
    | turnRight =>
      rw [Operation.rule, Direction.turned_right]
      refine Makes.bind (a := ()) ?_ (makes_pure none)
      exact (makes_findFacing manner).bind (makes_turnTo manner _)
    | take =>
      have htake := makes_takeAhead manner h
      rw [Operation.rule]
      -- what the rule says of the take decides whether the pilot goes on
      cases hw : w.takeAhead with
      | ok w' =>
        rw [hw] at htake
        exact htake.bind (makes_pure none)
      | error e =>
        rw [hw] at htake
        exact htake.bind_error
    | drop => exact (makes_dropAhead manner h).bind (makes_pure none)
  | setGems n => exact (makes_hold manner n).bind (makes_pure none)
  | stop =>
    exact (makes_order (r := .stop) manner trivial rfl fun _ hb => hb).bind (makes_pure none)
  | showTraffic on =>
    have hr : (Request.showMessages on).Plain := trivial
    exact (makes_order manner hr rfl fun _ hb => hb).bind (makes_pure none)
  -- a test leaves the world alone, and its value is the rule's
  | test c =>
    refine Makes.bind (a := w.holds manner.modulus c) ?_ (makes_pure _)
    cases c with
    | clear side => exact makes_isOpen manner h hmodulus side
    | seesGem => exact makes_seesGemAhead manner h _
    | hasGem => exact (makes_findGems manner).bind (makes_pure _)
    | facing d => exact (makes_findFacing manner).bind (makes_pure _)

/-- **Operations in turn do what the rules say in turn.** By induction on the operations, with a
world that the pilot knows as the invariant. -/
theorem inTurn_of_knows (hmodulus : manner.modulus = 3 ∨ manner.modulus = 4)
    (os : List Operation) {p : Pilot Simulator} (hp : p.Knows w) (h : w.Regular) :
    (inTurn (os.map (·.carryOut Simulator.link manner)) p).1 =
        (Operation.rules manner.modulus os w).1 ∧
      (inTurn (os.map (·.carryOut Simulator.link manner)) p).2.Knows
        (Operation.rules manner.modulus os w).2 := by
  -- the induction is on the operations; what is carried is that the pilot knows the world
  induction os generalizing p w with
  | nil => exact ⟨rfl, hp⟩
  | cons o os ih =>
    -- also behind a failure the pilot knows the world, and goes on
    obtain ⟨p', hp', hact⟩ := makes_carryOut manner h hmodulus o p hp
    obtain ⟨hresults, hknows⟩ := ih hp' (h.rule manner.modulus o)
    rw [List.map_cons, inTurn, hact, Operation.rules]
    dsimp only
    rw [← hresults]
    cases (o.rule manner.modulus w).1 with
    | ok r => exact ⟨rfl, hknows⟩
    | error e => exact ⟨rfl, hknows⟩

/-- A pilot that knows nothing yet knows a world, whatever other grids its far end has. -/
theorem knows_ofWorld (w : World) (grids : List (String × World)) :
    (ofLink { Simulator.ofWorld w with grids }).Knows w where
  serves := ⟨rfl, rfl, rfl, rfl, rfl⟩
  belief := ⟨by simp [ofLink, Belief.empty], by simp [ofLink, Belief.empty],
    by simp [ofLink, Belief.empty], by simp [ofLink, Belief.empty]⟩

/-- **A pilot keeps the rules of the grid.** Over a far end that is a regular world, operations in
turn have the results that the rules give them, and leave the world that the rules make. -/
theorem inTurn_eq_rules {w : World} (h : w.Regular) (manner : Manner)
    (hmodulus : manner.modulus = 3 ∨ manner.modulus = 4) (grids : List (String × World))
    (os : List Operation) :
    let run := inTurn (os.map (·.carryOut Simulator.link manner))
      (ofLink { Simulator.ofWorld w with grids })
    run.1 = (Operation.rules manner.modulus os w).1 ∧
      run.2.link.world = (Operation.rules manner.modulus os w).2 := by
  obtain ⟨hresults, hknows⟩ := inTurn_of_knows manner hmodulus os (knows_ofWorld w grids) h
  exact ⟨hresults, hknows.serves.world⟩

/-- A row of two cells: an agent on the first one, and three gems on the second one. -/
def twoCells : World :=
  { World.ofRows [[.empty, .gems 3]] with facing := .right, held := 4294967294 }

/-- A course over the two cells. -/
def thereAndBack : List Operation :=
  [.move .take, .move .drop, .move .step, .move .turnLeft, .test (.facing .up), .move .turnRight,
    .move .turnRight, .move .turnRight, .move .step, .test (.clear .back), .test .seesGem,
    .move .turnRight]

/-- The agent holds almost as many gems as can be counted: it cannot take the three gems, but drops
one on them and goes there. It turns to the left and back, and then to the right until it faces the
way that it came, goes that way, has no cell ahead there, and turns up. -/
theorem inTurn_twoCells :
    let run := inTurn (thereAndBack.map (·.carryOut Simulator.link ⟨1000, 4⟩))
      (ofLink (Simulator.ofWorld twoCells))
    run.1 = [.error (.failed (.tooManyGems 4294967294 3)), .ok none, .ok none, .ok none,
        .ok (some true), .ok none, .ok none, .ok none, .ok none, .ok (some true), .ok (some false),
        .ok none] ∧
      run.2.link.world = ⟨[[.empty, .gems 4]], ⟨0, 0⟩, .up, 4294967293⟩ := by
  have h : twoCells.Regular := ⟨by decide, by decide, by decide, by decide⟩
  obtain ⟨hresults, hworld⟩ := inTurn_eq_rules h ⟨1000, 4⟩ (.inr rfl) [] thereAndBack
  exact ⟨hresults.trans (by decide), hworld.trans (by decide)⟩

end Pilot

end GridScript
