import GridScript.Proofs.Pilot.Faults
import GridScript.Proofs.Wire.Canonical

/-!
# A pilot on another grid

A far end that loads another grid is another world from then on: the agent stands in another place,
faces another way and may hold another number of gems, and the grid has another size. The pilot is
told of all this by one acknowledgement, which repeats its own line, and forgets what is tied to the
grid. The gems that the agent holds are not: they are still believed to be as many as before,
whatever the new world says of them.

The far end takes the blanks off both ends of a name before it looks for the grid, and acknowledges
the name that it has read. A name that has none there comes back as it was sent, so that the grid
has been replaced exactly if the pilot is told so.

* `Belief.SituatedIn` — what is known of the place, the direction and the size is so.
* `Simulator.hear_say_of_loadGrid` — what comes back of a line that names a grid.
* `Pilot.Resettled` — what there is behind a change of the grid, whether it fails or not.
* `Pilot.resettled_changeGrid` — and there always is.
-/

namespace GridScript

/-! ### What is tied to a grid -/

/-- **A belief that places the agent rightly in a world.** It may be wrong about the gems that the
agent holds. -/
structure Belief.SituatedIn (b : Belief) (w : World) : Prop where
  location : ∀ c, b.location = some c → c = w.agent
  facing : ∀ d, b.facing = some d → d = w.facing
  gridSize : ∀ s, b.gridSize = some s → s = w.size

namespace Belief

variable {b : Belief} {w w' : World}

theorem TrueOf.situatedIn (h : b.TrueOf w) : b.SituatedIn w := ⟨h.location, h.facing, h.gridSize⟩

/-- What is left on a new grid says nothing about it. -/
theorem situatedIn_onNewGrid (b : Belief) (w : World) : b.onNewGrid.SituatedIn w :=
  ⟨nofun, nofun, nofun⟩

theorem SituatedIn.measure (h : b.SituatedIn w) :
    SituatedIn { b with gridSize := some w.size } w :=
  { h with gridSize := fun _ hs => (Option.some.inj hs).symm }

/-- The gems are all that there is besides. -/
theorem SituatedIn.trueOf (h : b.SituatedIn w) (hgems : ∀ n, b.gems = some n → n = w.held) :
    b.TrueOf w :=
  ⟨h.location, h.facing, hgems, h.gridSize⟩

end Belief

/-! ### What comes back -/

namespace Simulator

variable {s : Simulator}

/-- **A grid that is registered is loaded** under the name without the blanks around it, and any
other name is rejected. -/
theorem respond_loadGrid (s : Simulator) (name : String) :
    (∃ w, s.grids.lookup (Blank.trim name) = some w ∧ s.respond (Request.loadGrid name).line =
        .ok (.done (.loadGrid (Blank.trim name)), { s with world := w })) ∨
      s.respond (Request.loadGrid name).line = .ok (.rejected .badParameters, s) := by
  rw [respond, Request.ofLine_line_loadGrid]
  -- the far end takes its own refusals first, then looks at the name
  by_cases hrefuses : begins (Request.loadGrid name).line s.refuses = true
  · rw [if_pos hrefuses]
    exact .inr rfl
  · rw [if_neg hrefuses]
    by_cases hname : Blank.trim name = ""
    · rw [if_pos hname]
      exact .inr rfl
    · rw [if_neg hname]
      cases hgrid : s.grids.lookup (Blank.trim name) with
      | none =>
        refine .inr ?_
        simp only [hgrid]
      | some w =>
        refine .inl ⟨w, rfl, ?_⟩
        simp only [hgrid]

/-- **A line that names a grid, and what comes back.** Either a registered grid is the world now,
and that is acknowledged under the name that has been read, or the world is as it was. -/
theorem hear_say_of_loadGrid (hclosed : s.closed = false) (hunread : s.unread = [])
    (name : String) :
    ∃ said s₁ s₂, hear (Request.loadGrid name).line s = .ok () s₁ ∧ say s₁ = .ok said s₂ ∧
      s₂.unread = [] ∧
        (said = some (Request.loadGrid (Blank.trim name)).acknowledgement ∧
            s.grids.lookup (Blank.trim name) = some s₂.world ∨
          (said = some Rejection.failLine ∨ said = none) ∧ s₂.world = s.world) := by
  let line := (Request.loadGrid name).line
  cases hsilent : begins line s.silentFor with
  | true =>
    -- an answer withheld: the line is heard, and the world is not touched
    obtain ⟨s', hhear, hsay, hrest, -, hworld⟩ := hear_say_of_silent hclosed hunread hsilent
    exact ⟨none, s', s', hhear, hsay, hrest, .inr ⟨.inr rfl, hworld⟩⟩
  | false =>
    -- that the line is on record does not matter to its answer
    rcases respond_loadGrid { s with heard := s.heard ++ [line] } name with
      ⟨w, hgrid, hanswer⟩ | hanswer
    · obtain ⟨s₁, s₂, hhear, hsay, hrest, -, hworld⟩ :=
        hear_say_of_answer hclosed hsilent hanswer hclosed hunread
      exact ⟨_, s₁, s₂, hhear, hsay, hrest, .inl ⟨rfl, by rw [hworld]; exact hgrid⟩⟩
    · obtain ⟨s₁, s₂, hhear, hsay, hrest, -, hworld⟩ :=
        hear_say_of_answer hclosed hsilent hanswer hclosed hunread
      exact ⟨_, s₁, s₂, hhear, hsay, hrest, .inr ⟨.inl rfl, hworld⟩⟩

end Simulator

namespace Pilot

variable {p : Pilot Simulator} {manner : Manner}

/-! ### Both requests -/

/-- **To load a grid is a command.** Where it succeeds, the grid of that very name has been loaded;
where it fails with the world replaced, the far end has read another name. -/
theorem ends_order_loadGrid (hunread : p.link.unread = []) (name : String) :
    Ends (order Simulator.link manner (.loadGrid name)) p
      (fun _ p' => p'.belief = p.belief ∧ p'.link.unread = [] ∧ Blank.trim name = name ∧
        p.link.grids.lookup name = some p'.link.world)
      (fun _ p' => p'.belief = p.belief ∧ p'.link.unread = [] ∧
        (p'.link.world = p.link.world ∨ Blank.trim name ≠ name ∧
          p.link.grids.lookup (Blank.trim name) = some p'.link.world)) := by
  -- a closed far end takes no line, so that nothing is changed
  rcases Bool.eq_false_or_eq_true p.link.closed with hclosed | hclosed
  · have hhear := Simulator.hear_of_closed (Request.loadGrid name).line hclosed
    have horder : order Simulator.link manner (.loadGrid name) p = .error (.failed .closed) p := by
      simp only [order, exchange, bind_apply, overLink, Simulator.link, hhear]
    rw [Ends, horder]
    exact ⟨rfl, hunread, .inl rfl⟩
  · obtain ⟨said, s₁, s₂, hhear, hsay, hrest, hsaid⟩ :=
      Simulator.hear_say_of_loadGrid hclosed hunread name
    have hexchange := @exchange_of_said manner _ _ _ _ _ hhear hsay
    -- acknowledged, rejected or not answered: only the first replaces the world
    rcases hsaid with ⟨rfl, hgrid⟩ | ⟨rfl | rfl, hworld⟩
    · -- an acknowledgement begins with other letters than both rejections, so it is compared
      obtain ⟨hfail, herror⟩ : (Request.loadGrid (Blank.trim name)).acknowledgement ≠
            Rejection.failLine ∧
          (Request.loadGrid (Blank.trim name)).acknowledgement ≠ Rejection.errorLine :=
        Response.line_ne_rejection (r := .done (.loadGrid (Blank.trim name))) (by simp)
      simp only [if_neg hfail, if_neg herror] at hexchange
      rw [Ends, order, bind_of_ok hexchange]
      by_cases hname : Blank.trim name = name
      · rw [hname] at hgrid
        rw [if_pos (by rw [hname])]
        exact ⟨rfl, hrest, hname, hgrid⟩
      · -- the acknowledgement is that of another request
        have hother : (Request.loadGrid (Blank.trim name)).acknowledgement ≠
            (Request.loadGrid name).acknowledgement := by
          intro heq
          refine hname ?_
          simpa [Request.acknowledgement, Request.line, ← String.toList_inj] using heq
        rw [if_neg hother]
        exact ⟨rfl, hrest, .inr ⟨hname, hgrid⟩⟩
    · rw [Ends, order, bind_of_error hexchange]
      exact ⟨rfl, hrest, .inl hworld⟩
    · rw [Ends, order, bind_of_error hexchange]
      exact ⟨rfl, hrest, .inl hworld⟩

/-- **A size that is not known** is asked for, whatever is believed of the rest. -/
theorem ends_findSize_of_unknown (hunread : p.link.unread = []) (hsize : p.belief.gridSize = none) :
    Ends (findSize Simulator.link manner) p
      (fun _ p' => p'.belief = { p.belief with gridSize := some p.link.world.size } ∧
        p'.link.world = p.link.world ∧ p'.link.unread = [])
      (fun _ p' => p'.belief = p.belief ∧ p'.link.world = p.link.world ∧
        p'.link.unread = []) := by
  rw [findSize_eq, Ends, find_of_unknown _ manner hsize]
  have hplain : Request.askSize.Plain := trivial
  refine Ends.bind (Q := fun size p' => size = p.link.world.size ∧ p'.belief = p.belief ∧
    p'.link.world = p.link.world ∧ p'.link.unread = []) ?_ (fun _ _ h => h) ?_
  · -- the answer is read back to the size that was written out
    refine (ends_exchange_of_unread hunread hplain rfl (by simp)).bind
      (fun _ _ h => ⟨h.1, h.2.1, h.2.2.1⟩) ?_
    rintro response p' ⟨rfl, hbelief, hworld, hrest, -⟩
    have hanswer := Query.answer?_gridSize p.link.world.size
    obtain ⟨fields, hfields, hread⟩ := Option.bind_eq_some_iff.1 hanswer
    rw [hfields]
    dsimp only
    rw [hread]
    exact ends_pure ⟨rfl, hbelief, hworld, hrest⟩
  · rintro size p' ⟨rfl, hbelief, hworld, hrest⟩
    exact ⟨by rw [hbelief], hworld, hrest⟩

/-! ### The change of the grid -/

/-- **What there is behind a change of the grid.** Nothing waits at the far end, and its world is
the one that it was or a registered grid. The gems that the agent holds are believed to be as many
as before. Where the world is the same, all that is known is so; and where the name has no blank at
either end, what is known of the place, the direction and the size is so on any grid. -/
structure Resettled (p : Pilot Simulator) (name : String) (p' : Pilot Simulator) : Prop where
  unread : p'.link.unread = []
  world : p'.link.world = p.link.world ∨
    p.link.grids.lookup (Blank.trim name) = some p'.link.world
  gems : p'.belief.gems = p.belief.gems
  trueOf : p'.link.world = p.link.world → p'.belief.TrueOf p'.link.world
  situatedIn : Blank.trim name = name → p'.belief.SituatedIn p'.link.world

/-- A belief that is about the place in the new world, and about the gems in the old one. -/
theorem Resettled.of_situatedIn {p' : Pilot Simulator} {name : String}
    (hbelief : p.belief.TrueOf p.link.world) (hrest : p'.link.unread = [])
    (hgrid : p.link.grids.lookup (Blank.trim name) = some p'.link.world)
    (hgems : p'.belief.gems = p.belief.gems) (hsituated : p'.belief.SituatedIn p'.link.world) :
    p.Resettled name p' where
  unread := hrest
  world := .inr hgrid
  gems := hgems
  trueOf hworld := hsituated.trueOf fun n hn => hworld ▸ hbelief.gems n (hgems ▸ hn)
  situatedIn _ := hsituated

/-- **A change of the grid leaves nothing stale that is tied to the grid.** It may succeed or fail
in either of its requests, with the far end closed, silent or refusing. If it succeeds, the grid of
that name is the world, and the pilot knows its size and no more than the number of gems that it has
known before. -/
theorem resettled_changeGrid (hunread : p.link.unread = [])
    (hbelief : p.belief.TrueOf p.link.world) (manner : Manner) (name : String) :
    ∃ r p', changeGrid Simulator.link manner name p = p'.resultOf r ∧ p.Resettled name p' ∧
      (r = .ok () → p.link.grids.lookup name = some p'.link.world ∧
        p'.belief = ⟨none, none, p.belief.gems, some p'.link.world.size⟩ ∧
        p'.belief.SituatedIn p'.link.world) := by
  have hends : Ends (changeGrid Simulator.link manner name) p
      (fun _ p' => p.Resettled name p' ∧ p.link.grids.lookup name = some p'.link.world ∧
        p'.belief = ⟨none, none, p.belief.gems, some p'.link.world.size⟩ ∧
        p'.belief.SituatedIn p'.link.world)
      (fun _ p' => p.Resettled name p') := by
    -- first the command, then the question for the new size; either can fail
    refine (ends_order_loadGrid hunread name).bind ?_ ?_
    · rintro e p' ⟨hsame, hrest, hworld⟩
      refine ⟨hrest, hworld.imp_right And.right, by rw [hsame], fun h => ?_, fun hname => ?_⟩
      · -- the grid has been replaced under another name, or the far end has left its world alone
        rw [hsame, h]
        exact hbelief
      · -- the name has been read as it was sent, so the world is the one that it was
        rcases hworld with hworld | ⟨hother, -⟩
        · rw [hsame, hworld]
          exact hbelief.situatedIn
        · exact absurd hname hother
    · -- from here on the world is the new one, and all that is tied to the grid is forgotten
      rintro _ p₁ ⟨hsame, hrest, hname, hgrid⟩
      have hgrid' : p.link.grids.lookup (Blank.trim name) = some p₁.link.world := by
        rw [hname]
        exact hgrid
      let p₂ : Pilot Simulator := { p₁ with belief := p₁.belief.onNewGrid }
      have hbelieve : believe (χ := Simulator) .onNewGrid p₁ = .ok () p₂ := rfl
      have hunknown : p₂.belief.gridSize = none := rfl
      have hsize := @ends_findSize_of_unknown p₂ manner hrest hunknown
      rw [Ends, bind_of_ok hbelieve]
      refine hsize.bind ?_ ?_
      · -- the size is not told: nothing is known of the new grid, which is never false
        rintro e p' ⟨hforgotten, hworld, hrest'⟩
        refine .of_situatedIn hbelief hrest' (hworld ▸ hgrid') ?_ ?_
        · rw [hforgotten, ← hsame]
          rfl
        · rw [hforgotten]
          exact Belief.situatedIn_onNewGrid _ _
      · -- the size is told: it is the only thing known of the new grid
        rintro size p' ⟨hmeasured, hworld, hrest'⟩
        have hsituated : p'.belief.SituatedIn p'.link.world := by
          rw [hmeasured, hworld]
          exact (Belief.situatedIn_onNewGrid _ _).measure
        have hall : p'.belief = ⟨none, none, p.belief.gems, some p'.link.world.size⟩ := by
          rw [hmeasured, hworld, ← hsame]
          rfl
        refine ⟨.of_situatedIn hbelief hrest' (hworld ▸ hgrid') ?_ hsituated, hworld ▸ hgrid, hall,
          hsituated⟩
        rw [hall]
  obtain ⟨r, p', hact, hok, herror⟩ := hends.exists_resultOf
  refine ⟨r, p', hact, ?_, ?_⟩
  · cases r with
    | ok u => exact (hok u rfl).1
    | error e => exact herror e rfl
  · rintro rfl
    exact (hok () rfl).2

/-- A pilot that knows everything about a world of one cell. Its far end can become another world,
in which the agent stands elsewhere, faces another way and holds fewer gems. -/
def wanderer (unread : List String) : Pilot Simulator :=
  ⟨{ Simulator.ofWorld ⟨[[.empty]], .origin, .up, 5⟩ with
      grids := [("b", ⟨[[.empty, .empty]], ⟨1, 0⟩, .left, 3⟩)]
      unread },
    ⟨some .origin, some .up, some 5, some ⟨1, 1⟩⟩⟩

/-- On the new grid the pilot knows the size, and the five gems that it remembers. -/
theorem resettled_wanderer :
    (wanderer []).link.unread = [] ∧ (wanderer []).belief.TrueOf (wanderer []).link.world ∧
      ∃ p', changeGrid Simulator.link ⟨1000, 4⟩ "b" (wanderer []) = .ok () p' ∧
        (wanderer []).Resettled "b" p' ∧ p'.belief = ⟨none, none, some 5, some ⟨2, 1⟩⟩ ∧
        p'.belief.SituatedIn p'.link.world := by
  have hbelief : (wanderer []).belief.TrueOf (wanderer []).link.world := by
    refine ⟨?_, ?_, ?_, ?_⟩ <;> rintro _ ⟨⟩ <;> rfl
  refine ⟨rfl, hbelief, ?_⟩
  -- the theorem leaves the result open, and the run on this pilot settles that it is a success
  obtain ⟨r, p', hact, hresettled, hok⟩ :=
    resettled_changeGrid (p := wanderer []) rfl hbelief ⟨1000, 4⟩ "b"
  have hresults : (inTurn [changeGrid Simulator.link ⟨1000, 4⟩ "b"] (wanderer [])).1 =
      [.ok ()] := by
    decide +kernel
  cases r with
  | error e =>
    rw [inTurn, hact] at hresults
    cases hresults
  | ok u =>
    obtain ⟨hgrid, hall, hsituated⟩ := hok rfl
    refine ⟨p', hact, hresettled, ?_, hsituated⟩
    rw [hall, ← Option.some.inj hgrid]
    rfl

/-- What becomes of it, with the answers that wait and the name of the grid. -/
def wander (unread : List String) (name : String) :
    List (Except (Trouble LinkError) Unit) × Pilot Simulator :=
  inTurn [changeGrid Simulator.link ⟨1000, 4⟩ name] (wanderer unread)

/-- **What is known behind a change of the grid can be false.** The gems that the agent holds are
remembered, although the new world has another number of them. A name with a blank in front is read
without it, and then the far end has replaced its world and the pilot is told of another name: it
believes to be where it was. And so it does if it is given an answer that was still waiting. -/
theorem stale_wander :
    ((wanderer []).belief.TrueOf (wanderer []).link.world ∧
      (wander [] "b").1 = [.ok ()] ∧
      (wander [] "b").2.belief.gems = some 5 ∧ (wander [] "b").2.link.world.held = 3) ∧
    ((wander [] " b").1 =
        [.error (.failed (.wrongResponse "LOADGRID  b" "ACK LOADGRID  b" "ACK LOADGRID b"))] ∧
      (wander [] " b").2.belief.location = some ⟨0, 0⟩ ∧
      (wander [] " b").2.link.world.agent = ⟨1, 0⟩) ∧
    ((wander ["ACK STOP"] "b").1 =
        [.error (.failed (.wrongResponse "LOADGRID b" "ACK LOADGRID b" "ACK STOP"))] ∧
      (wander ["ACK STOP"] "b").2.belief.location = some ⟨0, 0⟩ ∧
      (wander ["ACK STOP"] "b").2.link.world.agent = ⟨1, 0⟩) := by
  -- all but the first part is finite computation; the belief is true field by field
  refine ⟨⟨?_, by decide +kernel⟩, by decide +kernel, by decide +kernel⟩
  refine ⟨?_, ?_, ?_, ?_⟩ <;> rintro _ ⟨⟩ <;> rfl

end Pilot

end GridScript
