import GridScript.Proofs.Grid.Conservation
import GridScript.Proofs.Pilot.Refinement
import GridScript.Proofs.Session.Upkeep
import GridScript.Script.Output

/-!
# Sessions conserve gems

A pilot takes and drops gems by two commands, one for the cell and one for the gems that the agent
holds. Each is computed from what the pilot knows, and what it knows is true, so the two belong
together: between two operations nothing is lost. No operation is shown to do what the rules say
here, which would need a grid that fits into coordinates; any rectangle will do.

* `Pilot.Conserving` — an action that leads to a world with the same gems and walls.
* `Pilot.conserving_look` — the look at the next cell, `Pilot.conserving_carry` — a cell and the
  gems that are held, changed together.
* `Pilot.conserving_obey`, `Pilot.conserving_answer` — everything that a script without `init` can
  ask for.
* `Session.gems_conserved` — whole sessions.
-/

namespace GridScript

namespace Pilot

variable {α β : Type} {w w' : World}

/-- **An action that conserves a world**: whatever its result is, the world that it makes is a
rectangle with the same gems and walls. -/
def Conserving (act : Action Simulator α) (w : World) : Prop :=
  ∃ r w', Makes act w r w' ∧ w'.Rectangle ∧ w.Conserves w'

/-- An action that leaves the world as it is. -/
theorem Makes.conserving {act : Action Simulator α} {r : Except (Trouble LinkError) α}
    (h : Makes act w r w) (hw : w.Rectangle) : Conserving act w :=
  ⟨r, w, h, hw, .refl w⟩

/-- What is found out before an action does not change the world. -/
theorem Makes.bind_conserving {act : Action Simulator α} {f : α → Action Simulator β} {a : α}
    (h : Makes act w (.ok a) w) (hf : Conserving (f a) w) : Conserving (act >>= f) w := by
  obtain ⟨r, w', hmakes, hw', hconserves⟩ := hf
  exact ⟨r, w', h.bind hmakes, hw', hconserves⟩

variable (manner : Manner) {d : Direction} {c : Coord}

/-- **The look at the next cell.** It leads off the grid, or to a cell that the far end has. -/
theorem conserving_look {off : Action Simulator α} {there : Coord → Cell → Action Simulator α}
    (hw : w.Rectangle) (hoff : Conserving off w)
    (hthere : ∀ c cell, w.at? c = .ok (some cell) → Conserving (there c cell) w) :
    Conserving (do
      let some target ← cellToward Simulator.link manner d | off
      let cell ← ask Simulator.link manner (.cell target)
      there target cell) w := by
  refine (makes_cellToward manner w d).bind_conserving ?_
  -- a rectangle has a cell wherever its size says so, so that the far end can answer
  by_cases hinside : w.size.contains (w.agent.step d) = true
  · obtain ⟨cell, hat, hcell⟩ := hw.exists_at? hinside
    rw [if_pos hinside]
    exact (makes_ask_cell manner hat hcell).bind_conserving (hthere _ cell hat)
  · rw [if_neg hinside]
    exact hoff

/-- **A cell and the gems that are held, changed together.** -/
theorem conserving_carry {n more : UInt8} {held : UInt32} (hw : w.Rectangle)
    (hat : w.at? c = .ok (some (.gems n))) (hmore : (Cell.gems more).Ordinary)
    (hsum : held.toNat + more.toNat = w.held.toNat + n.toNat) :
    Conserving (do
      order Simulator.link manner (.putCell c (.gems more))
      hold Simulator.link manner held) w :=
  ⟨.ok (), _, (makes_putCell manner hat hmore).bind (makes_hold manner held),
    (hw.withCell c hmore).of_rows_eq rfl, World.conserves_transfer hat hsum⟩

/-! ### Operations -/

theorem conserving_goAhead (hw : w.Rectangle) : Conserving (goAhead Simulator.link manner) w := by
  refine (makes_findFacing manner).bind_conserving ?_
  refine conserving_look manner hw ((makes_pure ()).conserving hw) fun c cell hat => ?_
  cases cell with
  | wall => exact (makes_pure ()).conserving hw
  | gems n => exact ⟨.ok (), _, makes_goTo manner hat, hw.of_rows_eq rfl, World.conserves_goTo hat⟩

theorem conserving_takeAhead (hw : w.Rectangle) :
    Conserving (takeAhead Simulator.link manner) w := by
  refine (makes_findFacing manner).bind_conserving ?_
  refine conserving_look manner hw ((makes_pure ()).conserving hw) fun c cell hat => ?_
  cases cell with
  | wall => exact (makes_pure ()).conserving hw
  | gems n =>
    dsimp only [Cell.gemCount]
    -- the take stops without a change at an empty cell, and at a sum that does not fit
    by_cases hzero : n = 0
    · rw [if_pos hzero]
      exact (makes_pure ()).conserving hw
    rw [if_neg hzero]
    refine (makes_findGems manner).bind_conserving ?_
    by_cases hroom : UInt32.size ≤ w.held.toNat + n.toNat
    · -- nothing is done if the gems cannot be counted
      rw [if_pos hroom]
      exact (makes_fail _).bind_error.conserving hw
    · rw [if_neg hroom]
      have hempty : (Cell.gems 0).Ordinary := by decide
      -- what the cell loses the agent gains: the sum is exact because it fits
      refine conserving_carry manner hw hat hempty ?_
      rw [UInt32.toNat_add, UInt8.toNat_toUInt32, Nat.mod_eq_of_lt (Nat.not_le.1 hroom)]
      rfl

theorem conserving_dropAhead (hw : w.Rectangle) :
    Conserving (dropAhead Simulator.link manner) w := by
  refine (makes_findGems manner).bind_conserving ?_
  -- the drop stops without a change where no gem is held, and at a full cell
  by_cases hheld : w.held = 0
  · rw [if_pos hheld]
    exact (makes_pure ()).conserving hw
  rw [if_neg hheld]
  refine (makes_findFacing manner).bind_conserving ?_
  refine conserving_look manner hw ((makes_pure ()).conserving hw) fun c cell hat => ?_
  cases cell with
  | wall => exact (makes_pure ()).conserving hw
  | gems n =>
    dsimp only
    by_cases hfull : Cell.mostGems ≤ n
    · rw [if_pos hfull]
      exact (makes_pure ()).conserving hw
    · -- the cell has room, and a gem is held
      have hroom : n < Cell.mostGems := UInt8.not_le.1 hfull
      rw [if_neg hfull]
      refine conserving_carry manner hw hat (Cell.ordinary_gems_succ hroom) ?_
      have hmore : (n + 1).toNat = n.toNat + 1 := by
        have hn : n.toNat < 9 := hroom
        rw [UInt8.toNat_add, UInt8.toNat_one]
        omega
      have hone : 1 ≤ w.held.toNat := UInt32.pos_iff_ne_zero.2 hheld
      have hless : (w.held - 1).toNat = w.held.toNat - 1 :=
        UInt32.toNat_sub_of_le _ _ (UInt32.le_iff_toNat_le.2 hone)
      omega

theorem conserving_turnTo (hw : w.Rectangle) (d : Direction) :
    Conserving (turnTo Simulator.link manner d) w :=
  ⟨.ok (), _, makes_turnTo manner d, hw.of_rows_eq rfl, w.conserves_turn d⟩

theorem conserving_showTraffic (hw : w.Rectangle) (on : Bool) :
    Conserving (showTraffic Simulator.link manner on) w :=
  (makes_order (r := .showMessages on) manner trivial rfl fun _ hb => hb).conserving hw

/-- **Every command but those that set something up** conserves the gems. -/
theorem conserving_obey (hw : w.Rectangle) {c : Command} (hload : ∀ name, c ≠ .loadGrid name)
    (hgems : ∀ n, c ≠ .setGems n) : Conserving (obey Simulator.link manner c) w := by
  -- the two commands that are excluded are those that set up a world or a number
  cases c with
  | move m =>
    cases m with
    | step => exact conserving_goAhead manner hw
    | turnLeft => exact (makes_findFacing manner).bind_conserving (conserving_turnTo manner hw _)
    | turnRight => exact (makes_findFacing manner).bind_conserving (conserving_turnTo manner hw _)
    | take => exact conserving_takeAhead manner hw
    | drop => exact conserving_dropAhead manner hw
  | loadGrid name => exact absurd rfl (hload name)
  | setGems n => exact absurd rfl (hgems n)
  | stop => exact (makes_order (r := .stop) manner trivial rfl fun _ hb => hb).conserving hw

/-- **A test** leaves the world as it is. -/
theorem conserving_answer (hw : w.Rectangle) (c : Condition) :
    Conserving (answer Simulator.link manner c) w := by
  cases c with
  | clear side =>
    refine (makes_findFacing manner).bind_conserving ?_
    -- a side that cannot be turned to fails without a request
    cases side.towardModulo manner.modulus w.facing with
    | error a => exact (makes_throw (.aborted a)).conserving hw
    | ok d =>
      exact conserving_look manner hw ((makes_pure false).conserving hw) fun c cell hat =>
        (makes_pure _).conserving hw
  | seesGem =>
    refine (makes_findFacing manner).bind_conserving ?_
    exact conserving_look manner hw ((makes_pure false).conserving hw) fun c cell hat =>
      (makes_pure _).conserving hw
  | hasGem => exact (makes_findGems manner).bind_conserving ((makes_pure _).conserving hw)
  | facing d => exact (makes_findFacing manner).bind_conserving ((makes_pure _).conserving hw)

/-! ### Over time -/

/-- **A pilot whose world has been conserved** since it was another one. -/
def Conserved (w₀ : World) (p : Pilot Simulator) : Prop :=
  ∃ w, p.Knows w ∧ w.Rectangle ∧ w₀.Conserves w

theorem Conserving.settles {w₀ : World} {act : Action Simulator α} {p : Pilot Simulator}
    (h : ∀ w : World, w.Rectangle → Conserving act w) (hp : p.Conserved w₀) :
    Settles act p (fun _ => Conserved w₀) fun _ => Conserved w₀ := by
  obtain ⟨w, hknows, hw, hconserves⟩ := hp
  -- the pilot makes what the world says, and the world conserves what there is
  obtain ⟨r, w', hmakes, hw', hconserves'⟩ := h w hw
  obtain ⟨p', hknows', hact⟩ := hmakes p hknows
  have hp' : p'.Conserved w₀ := ⟨w', hknows', hw', hconserves.trans hconserves'⟩
  rw [Settles, hact]
  cases r <;> exact hp'

/-- Giving the link up does nothing to the world. -/
theorem Conserved.settles_hangUp {w₀ : World} {p : Pilot Simulator} (hp : p.Conserved w₀) :
    Settles (hangUp Simulator.link) p
      (fun _ p' => p'.link.world.Rectangle ∧ w₀.Conserves p'.link.world)
      fun _ p' => p'.link.world.Rectangle ∧ w₀.Conserves p'.link.world := by
  obtain ⟨w, hknows, hw, hconserves⟩ := hp
  obtain rfl := hknows.serves.world
  exact ⟨hw, hconserves⟩

end Pilot

/-! ### Whole sessions -/

namespace Session

variable {τ : Type}

/-- A script that sets nothing up may only tell its agent to move and to stop. -/
theorem not_sets_of_allows {src : Source} {c : Command} (hset : src.setUps = [])
    -- a command that the source allows is one of its set-ups, and here there are none
    (hc : src.lexemes.Allows c) : (∀ name, c ≠ .loadGrid name) ∧ ∀ n, c ≠ .setGems n := by
  constructor
  · rintro name rfl
    have hmem : .loadGrid name ∈ src.setUps := hc
    rw [hset] at hmem
    cases hmem
  · rintro n rfl
    have hmem : .setGems n ∈ src.setUps := hc
    rw [hset] at hmem
    cases hmem

/-- **What is kept true in a session that sets nothing up**: no gems are made or lost. -/
theorem upkeep_conserved {settings : Settings} {src : Source} (hgrid : settings.grid = none)
    -- the set-ups are excluded by the source and by the settings, each in its own place
    (hset : src.setUps = []) (w₀ : World) :
    Upkeep Simulator.link settings src (Pilot.Conserved w₀)
      (fun p => p.link.world.Rectangle ∧ w₀.Conserves p.link.world) where
  showTraffic p := Pilot.Conserving.settles fun w hw =>
    Pilot.conserving_showTraffic settings.manner hw settings.showMessages
  changeGrid p name hname := by
    rw [hgrid] at hname
    cases hname
  agent :=
    { obey := fun c p hc hp => by
        have hplain := not_sets_of_allows hset hc
        have hobey := Pilot.Conserving.settles
          (fun w hw => Pilot.conserving_obey settings.manner hw hplain.1 hplain.2) hp
        simp only [Settles, Pilot.agent, Pilot.diagnosed] at hobey ⊢
        cases hact : Pilot.obey Simulator.link settings.manner c p <;> rwa [hact] at hobey
      answer := fun c p hp => by
        have hanswer := Pilot.Conserving.settles
          (fun w hw => Pilot.conserving_answer settings.manner hw c) hp
        simp only [Settles, Pilot.agent, Pilot.diagnosed] at hanswer ⊢
        cases hact : Pilot.answer Simulator.link settings.manner c p <;> rwa [hact] at hanswer }
  hangUp p hp := hp.settles_hangUp
  -- what is known to the pilot is not part of the result, and is forgotten here
  weaker p hp := by
    obtain ⟨w, hknows, hw, hconserves⟩ := hp
    obtain rfl := hknows.serves.world
    exact ⟨hw, hconserves⟩

/-- **Gems are conserved.** A session without a grid to load, for a script that sets nothing up,
over a far end that answers for a rectangle of ordinary cells: at every point between two operations
and at the end, however that is come to, the world is a rectangle of ordinary cells with as many
gems as at first, those that the agent holds among them, its walls are where they were, and an agent
that was on the floor is on the floor. To note the points between the operations makes no difference
to them. -/
theorem gems_conserved {settings : Settings} {src : Source} (hgrid : settings.grid = none)
    (hset : src.setUps = []) {far : Simulator} {w₀ : World} (hfar : far.Serves w₀)
    (hw₀ : w₀.Rectangle) (sink : Sink τ) (passes : Nat) (output : τ) :
    let s : Session Simulator τ := .ofLink far output
    (∀ p ∈ stations Simulator.link settings sink passes src s ++
        [(remains (converseChecked Simulator.link settings sink passes src s)).pilot],
      p.link.world.Rectangle ∧ w₀.Conserves p.link.world) ∧
    ∀ s' : Session Simulator τ,
      Program.played (context Simulator.link settings sink passes) src ⟨s'.pilot, s'.output⟩ =
        onState Context.unnoted (noted Simulator.link settings sink passes src s') := by
  intro s
  -- a fresh pilot believes nothing, which is never false
  have hs : s.pilot.Conserved w₀ :=
    ⟨w₀, ⟨hfar, ⟨nofun, nofun, nofun, nofun⟩⟩, hw₀, .refl w₀⟩
  have hupkeep := upkeep_conserved hgrid hset w₀
  refine ⟨fun p hp => ?_, fun s' => Program.played_noting _ src ⟨⟨s'.pilot, []⟩, s'.output⟩⟩
  -- the end of the session counts as a station, and is reached by the upkeep as a whole
  rcases List.mem_append.1 hp with hp | hp
  · exact hupkeep.stations hs p hp
  · rw [List.mem_singleton.1 hp]
    exact remains_of_settles (J := fun s : Session Simulator τ =>
      s.pilot.link.world.Rectangle ∧ w₀.Conserves s.pilot.link.world)
      (hupkeep.converseChecked sink passes hs)

/-- An agent with two gems in front of three. -/
def fiveGems : World := { World.ofRows [[.empty, .gems 3]] with facing := .right, held := 2 }

/-- A script that takes gems, drops one and goes there. -/
def takeAndDrop : Source := ⟨"take.gs", Utf8.encode "main \x7b take; drop; step; \x7d"⟩

/-- Gems change hands, and there are five of them at every point. -/
theorem gems_conserved_takeAndDrop :
    let s : Session Simulator Output := .ofLink (.ofWorld fiveGems) (.empty none)
    let points := stations Simulator.link .usual Output.sink 0 takeAndDrop s ++
      [(remains (converseChecked Simulator.link .usual Output.sink 0 takeAndDrop s)).pilot]
    Settings.usual.grid = none ∧ takeAndDrop.setUps = [] ∧
      (Simulator.ofWorld fiveGems).Serves fiveGems ∧ fiveGems.Rectangle ∧
      points.map (·.link.world.held) = [2, 5, 4, 4, 4, 4, 4] ∧
      ∀ p ∈ points, p.link.world.gemTotal = 5 ∧ p.link.world.OnFloor := by
  intro s points
  have hset : takeAndDrop.setUps = [] := by decide +kernel
  have hfar : (Simulator.ofWorld fiveGems).Serves fiveGems := ⟨rfl, rfl, rfl, rfl, rfl⟩
  have hworld : fiveGems.Rectangle := ⟨by decide, by decide⟩
  have hgrid : Settings.usual.grid = none := rfl
  have hpoints := (gems_conserved hgrid hset hfar hworld Output.sink 0 (.empty none)).1
  refine ⟨hgrid, hset, hfar, hworld, by decide +kernel, fun p hp => ?_⟩
  -- five gems and a floor at the beginning, and the same at every station
  obtain ⟨-, hconserves⟩ := hpoints p hp
  exact ⟨hconserves.gems, hconserves.onFloor (by decide)⟩

end Session

end GridScript
