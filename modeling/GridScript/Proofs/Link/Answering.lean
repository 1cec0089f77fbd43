import GridScript.Link.Simulator
import GridScript.Proofs.Grid.Conservation
import GridScript.Proofs.Pilot.Attribution
import GridScript.Proofs.Sequencing
import GridScript.Proofs.Wire.Canonical

/-!
# A far end answers every line, and wholly

Any text may be sent to a far end. A line can be refused because the far end has been told to,
because it is no request, or because the request cannot be carried out on this grid. Each of these
rejections comes before anything is changed. A line that is not rejected is a request, and then both
things are done: the one component that the request names is changed, and the answer is one that a
pilot takes for the success of this request, with fields that tell what the world is like.

* `Simulator.Orderly` — an open link to a far end all of whose grids are regular.
* `Request.Able`, `Simulator.Declines` — what can be carried out, and which lines are rejected.
* `Request.CarriedOut` — what an accepted answer tells, and what has been changed.
* `Simulator.respond_of_declines`, `Simulator.respond_of_able` — one line.
* `Simulator.Hearing` — a line that has been sent, and what it is when it is `Sound`.
* `Simulator.hears_all_or_nothing` — any course of lines sent and answers received.
-/

namespace GridScript

namespace World

variable {w : World} {c : Coord} {old : Cell}

/-! ### One cell among others -/

/-- Two coordinates inside a grid differ in their indices. -/
private theorem eq_of_toNat_eq {c c' : Coord} (hc : w.size.contains c = true)
    (hc' : w.size.contains c' = true) (hx : c'.x.toInt.toNat = c.x.toInt.toNat)
    (hy : c'.y.toInt.toNat = c.y.toInt.toNat) : c' = c := by
  -- inside the grid no coordinate is negative, so none is lost as an index
  have hzero : (0 : Int32).toInt = 0 := by decide
  simp only [GridSize.contains, Bool.and_eq_true, decide_eq_true_eq, Int32.le_iff_toInt_le,
    hzero] at hc hc'
  have hxs : c'.x = c.x := Int32.toInt_inj.1 (by omega)
  have hys : c'.y = c.y := Int32.toInt_inj.1 (by omega)
  cases c
  cases c'
  cases hxs
  cases hys
  rfl

/-- A cell that the far end has is inside its grid. -/
theorem contains_of_at? (h : w.at? c = .ok (some old)) : w.size.contains c = true := by
  rw [at?] at h
  split at h
  · assumption
  · cases h

/-- **Replacing a cell** changes that cell and no other. -/
theorem at?_withCell (h : w.at? c = .ok (some old)) (cell : Cell) (c' : Coord) :
    (w.withCell c cell).at? c' = if c' = c then .ok (some cell) else w.at? c' := by
  have hc := contains_of_at? h
  obtain ⟨-, -, row, hrow, hold⟩ := exists_row_of_at? h
  rw [at?, size_withCell]
  -- the size is kept, so that the same places are inside
  by_cases hc' : w.size.contains c' = true
  · rw [if_pos hc', rows_withCell hrow]
    by_cases hy : c.y.toInt.toNat = c'.y.toInt.toNat
    · -- the other cells of the row are copied
      have hlength : c'.y.toInt.toNat < w.rows.length := hy ▸ (List.getElem?_eq_some_iff.1 hrow).1
      rw [← hy, List.getElem?_set_self (hy ▸ hlength), Option.bind_some]
      by_cases hx : c.x.toInt.toNat = c'.x.toInt.toNat
      · rw [if_pos (eq_of_toNat_eq hc hc' hx.symm hy.symm), ← hx,
          List.getElem?_set_self (List.getElem?_eq_some_iff.1 hold).1]
      · have hne : c' ≠ c := fun heq => hx (heq ▸ rfl)
        rw [if_neg hne, List.getElem?_set_ne hx, at?, if_pos hc', ← hy, hrow, Option.bind_some]
    · have hne : c' ≠ c := fun heq => hy (heq ▸ rfl)
      rw [if_neg hne, List.getElem?_set_ne hy, at?, if_pos hc']
  · -- nothing is outside the grid, neither before nor after
    have hne : c' ≠ c := fun heq => hc' (heq ▸ hc)
    rw [if_neg hc', if_neg hne, at?, if_neg hc']

/-- **The size that a regular world tells** is the number of its columns and of its rows. -/
theorem Regular.toInt_size (h : w.Regular) :
    w.size.width.toInt = w.columns ∧ w.size.height.toInt = w.rows.length :=
  ⟨Int32.toInt_ofNat_of_lt h.columns_lt, Int32.toInt_ofNat_of_lt h.rows_lt⟩

end World

/-! ### What can be carried out, and what is done -/

/-- **What a far end has that a line can change.** -/
structure Simulator.Affairs where
  world : World
  showsMessages : Bool
  stopped : Bool

/-- What a far end has that a line can change, at one point. -/
def Simulator.affairs (s : Simulator) : Affairs := ⟨s.world, s.showsMessages, s.stopped⟩

/-- A line that rejects a request. -/
def IsRejection (response : String) : Prop :=
  response = Rejection.failLine ∨ response = Rejection.errorLine

theorem isRejection_line (reason : Rejection) : IsRejection reason.line := by
  cases reason with
  | unknownCommand => exact .inr rfl
  | badParameters => exact .inl rfl

namespace Request

/-- **A request that can be carried out.** An agent goes where there is no wall, the grid has the
cell, and a grid that is loaded is registered. -/
def Able (grids : List (String × World)) (w : World) : Request → Prop
  | goTo c => ∃ n, w.at? c = .ok (some (.gems n))
  | putCell c _ | askCell c => w.size.contains c = true
  | loadGrid name => (grids.lookup name).isSome = true
  | _ => True

/-- **A request that has been carried out**: a command has changed what it names and nothing else, a
question has changed nothing, and the fields of its answer are what they are in the world. -/
def CarriedOut (grids : List (String × World)) (before after : Simulator.Affairs)
    (response : String) : Request → Prop
  | goTo c =>
    (∃ n, before.world.at? c = .ok (some (.gems n))) ∧
      after = { before with world := { before.world with agent := c } }
  | face d => after = { before with world := { before.world with facing := d } }
  | holdGems n => after = { before with world := { before.world with held := n } }
  | putCell c cell =>
    ∃ rows, after = { before with world := { before.world with rows := rows } } ∧
      before.world.size.contains c = true ∧ after.world.size = before.world.size ∧
      ∀ c', after.world.at? c' = if c' = c then .ok (some cell) else before.world.at? c'
  | loadGrid name =>
    ∃ grid, grids.lookup name = some grid ∧ after = { before with world := grid }
  | showMessages on => after = { before with showsMessages := on }
  | stop => after = { before with stopped := true }
  | askLocation =>
    after = before ∧ Query.location.answer? response = some before.world.agent
  | askFacing => after = before ∧ Query.facing.answer? response = some before.world.facing
  | askGems => after = before ∧ Query.gemCount.answer? response = some before.world.held
  | askCell c =>
    after = before ∧ ∃ cell, before.world.at? c = .ok (some cell) ∧
      (Query.cell c).answer? response = some cell
  | askSize =>
    after = before ∧ ∃ size : GridSize, Query.gridSize.answer? response = some size ∧
      size.width.toInt = before.world.columns ∧ size.height.toInt = before.world.rows.length

end Request

/-! ### One line -/

namespace Simulator

/-- **A far end in order**: its link is open, and its own grid and those that can be loaded are
rectangles of ordinary cells that fit into coordinates. -/
structure Orderly (s : Simulator) : Prop where
  opened : s.closed = false
  world : s.world.Regular
  grids : ∀ name grid, s.grids.lookup name = some grid → grid.Regular

/-- **A line that is rejected**: it begins as no line may, or it is no request that can be carried
out. -/
def Declines (s : Simulator) (line : String) : Prop :=
  begins line s.refuses = true ∨ ∀ r, Request.ofLine line = .ok r → ¬ r.Able s.grids s.world

/-- **A request that has been fulfilled** by an answer. -/
structure Fulfils (s s' : Simulator) (answer : Response) (r : Request) : Prop where
  answers : ∀ reason, answer ≠ .rejected reason
  accepts : r.Accepts answer.line
  carriedOut : r.CarriedOut s.grids s.affairs s'.affairs answer.line
  world : s'.world.Regular
  frame : s' = { s with
    world := s'.world, showsMessages := s'.showsMessages, stopped := s'.stopped }

variable {s : Simulator} {line : String} {r : Request}

/-- Only grids matter to what a far end should be. -/
theorem Orderly.of_world {s' : Simulator} (hs : s.Orderly) (hclosed : s'.closed = s.closed)
    (hgrids : s'.grids = s.grids) (hworld : s'.world.Regular) : s'.Orderly :=
  ⟨hclosed.trans hs.opened, hworld, hgrids ▸ hs.grids⟩

/-- What cannot be carried out is rejected, and the world stays as it is. -/
theorem respond_of_not_able (hs : s.Orderly) (hr : ¬ r.Able s.grids s.world) :
    s.world.respond r = .ok (.rejected .badParameters, s.world) := by
  have houtside {c : Coord} (hc : ¬ s.world.size.contains c = true) :
      s.world.at? c = .ok none := by
    rw [World.at?, if_neg hc]
  -- only the requests about a place or a name can be more than the world is able to do
  cases r with
  | goTo c =>
    rw [World.respond]
    by_cases hc : s.world.size.contains c = true
    · obtain ⟨cell, hcell, -⟩ := hs.world.rectangle.exists_at? hc
      rw [hcell]
      cases cell with
      | wall => rfl
      | gems n => exact absurd ⟨n, hcell⟩ hr
    · rw [houtside hc]
      rfl
  | putCell c cell =>
    rw [World.respond, World.put?, houtside hr]
    rfl
  | askCell c =>
    rw [World.respond, houtside hr]
    rfl
  | loadGrid name => rfl
  | _ => exact absurd trivial hr

/-- **A line that is rejected changes nothing.** -/
theorem respond_of_declines (hs : s.Orderly) (h : s.Declines line) :
    ∃ reason, s.respond line = .ok (.rejected reason, s) := by
  rw [respond]
  -- a line that the far end has been told to refuse is not read at all
  by_cases hrefuses : begins line s.refuses = true
  · exact ⟨_, if_pos hrefuses⟩
  · rw [if_neg hrefuses]
    have hable := h.resolve_left hrefuses
    cases hline : Request.ofLine line with
    | error reason => exact ⟨reason, rfl⟩
    | ok r =>
      -- the line is a request, and what it asks for cannot be done
      have hr := hable r hline
      have hrespond := respond_of_not_able hs hr
      cases r with
      | loadGrid name =>
        have hlookup : s.grids.lookup name = none := Option.not_isSome_iff_eq_none.1 hr
        exact ⟨.badParameters, by simp only [hlookup]⟩
      | showMessages on | stop => exact absurd trivial hr
      | _ => exact ⟨.badParameters, by simp only [hrespond, Except.map]⟩

/-- A far end whose world has answered a request. -/
def answering (s : Simulator) (w : World) : Request → Simulator
  | .showMessages on => { s with world := w, showsMessages := on }
  | .stop => { s with world := w, stopped := true }
  | _ => { s with world := w }

/-- A request for anything but another grid is answered by the world. -/
theorem respond_of_ofLine (hrefuses : begins line s.refuses = false)
    (hline : Request.ofLine line = .ok r) (hr : ∀ name, r ≠ .loadGrid name) {answer : Response}
    {w : World} (hw : s.world.respond r = .ok (answer, w)) :
    s.respond line = .ok (answer, s.answering w r) := by
  rw [respond, if_neg (by simp [hrefuses]), hline]
  cases r with
  | loadGrid name => exact absurd rfl (hr name)
  | _ =>
    simp only [hw]
    rfl

/-- **A request that can be carried out is carried out**, and the answer tells so. -/
theorem respond_of_able (hs : s.Orderly) (hrefuses : begins line s.refuses = false)
    (hline : Request.ofLine line = .ok r) (hable : r.Able s.grids s.world) :
    ∃ answer s', s.respond line = .ok (answer, s') ∧ s.Fulfils s' answer r := by
  -- orders about the agent leave the rows as they are
  have hsame {w : World} (hrows : w.rows = s.world.rows) : w.Regular :=
    hs.world.of_rows_eq hrows
  -- each request that can be carried out has one answer and one effect
  cases r with
  | loadGrid name =>
    obtain ⟨grid, hgrid⟩ := Option.isSome_iff_exists.1 hable
    refine ⟨.done (.loadGrid name), { s with world := grid }, ?_, by simp, rfl,
      ⟨grid, hgrid, rfl⟩, hs.grids name grid hgrid, rfl⟩
    rw [respond, if_neg (by simp [hrefuses]), hline]
    simp only [hgrid]
  | goTo c =>
    obtain ⟨n, hn⟩ := hable
    have hw : s.world.respond (.goTo c) = .ok (.done (.goTo c), { s.world with agent := c }) := by
      rw [World.respond, hn]
      rfl
    exact ⟨_, _, respond_of_ofLine hrefuses hline (by simp) hw, by simp, rfl, ⟨⟨n, hn⟩, rfl⟩,
      hsame rfl, rfl⟩
  | putCell c cell =>
    -- a cell that a line can name holds no more gems than a digit says
    have hcell : cell.Ordinary := Request.readable_of_ofLine hline
    obtain ⟨old, hold, -⟩ := hs.world.rectangle.exists_at? hable
    have hw : s.world.respond (.putCell c cell) =
        .ok (.done (.putCell c cell), s.world.withCell c cell) := by
      rw [World.respond, World.put?_of_at? hold]
      rfl
    exact ⟨_, _, respond_of_ofLine hrefuses hline (by simp) hw, by simp, rfl,
      ⟨_, rfl, hable, s.world.size_withCell c cell, World.at?_withCell hold cell⟩,
      hs.world.withCell c hcell, rfl⟩
  | askCell c =>
    obtain ⟨cell, hcell, hordinary⟩ := hs.world.rectangle.exists_at? hable
    have hw : s.world.respond (.askCell c) = .ok (.cell c cell, s.world) := by
      rw [World.respond, hcell]
      rfl
    have hanswer := Query.answer?_cell c hordinary
    exact ⟨_, _, respond_of_ofLine hrefuses hline (by simp) hw, by simp,
      Option.isSome_iff_exists.2 ⟨_, hanswer⟩, ⟨rfl, cell, hcell, hanswer⟩, hs.world, rfl⟩
  | askLocation =>
    -- a question is answered from the world, which is left alone
    have hanswer := Query.answer?_location s.world.agent
    exact ⟨_, _, respond_of_ofLine hrefuses hline (by simp) rfl, by simp,
      Option.isSome_iff_exists.2 ⟨_, hanswer⟩, ⟨rfl, hanswer⟩, hs.world, rfl⟩
  | askFacing =>
    have hanswer := Query.answer?_facing s.world.facing
    exact ⟨_, _, respond_of_ofLine hrefuses hline (by simp) rfl, by simp,
      Option.isSome_iff_exists.2 ⟨_, hanswer⟩, ⟨rfl, hanswer⟩, hs.world, rfl⟩
  | askGems =>
    have hanswer := Query.answer?_gemCount s.world.held
    exact ⟨_, _, respond_of_ofLine hrefuses hline (by simp) rfl, by simp,
      Option.isSome_iff_exists.2 ⟨_, hanswer⟩, ⟨rfl, hanswer⟩, hs.world, rfl⟩
  | askSize =>
    have hanswer := Query.answer?_gridSize s.world.size
    exact ⟨_, _, respond_of_ofLine hrefuses hline (by simp) rfl, by simp,
      Option.isSome_iff_exists.2 ⟨_, hanswer⟩, ⟨rfl, _, hanswer, hs.world.toInt_size⟩, hs.world,
      rfl⟩
  | face d =>
    exact ⟨_, _, respond_of_ofLine hrefuses hline (by simp) rfl, by simp, rfl, rfl, hsame rfl, rfl⟩
  | holdGems n =>
    exact ⟨_, _, respond_of_ofLine hrefuses hline (by simp) rfl, by simp, rfl, rfl, hsame rfl, rfl⟩
  | showMessages on | stop =>
    exact ⟨_, _, respond_of_ofLine hrefuses hline (by simp) rfl, by simp, rfl, rfl, hs.world, rfl⟩

/-! ### Lines that have been sent -/

/-- **A line that has been sent**, and the far end before and after. -/
structure Hearing where
  line : String
  before : Simulator
  after : Simulator

namespace Hearing

/-- **The answers to a line**: those that wait behind the others. -/
def answers (h : Hearing) : List String := h.after.unread.drop h.before.unread.length

/-- **A line with one answer.** If the answer is a rejection, nothing has changed. Otherwise the
line is a request, a pilot takes the answer for the success of this request, and what it names is
done. -/
structure AnsweredBy (h : Hearing) (response : String) : Prop where
  only : h.answers = [response]
  isRejection_iff : IsRejection response ↔ h.before.Declines h.line
  rejected : IsRejection response → h.after.affairs = h.before.affairs
  carriedOut : ¬ IsRejection response → ∃ r, Request.ofLine h.line = .ok r ∧
    r.Accepts response ∧ r.CarriedOut h.before.grids h.before.affairs h.after.affairs response

/-- **A line as it should be treated.** It is on record, the answers that waited still wait, and
only what a line can change has changed. If it is not to be answered, not even that. -/
structure Sound (h : Hearing) : Prop where
  before : h.before.Orderly
  after : h.after.Orderly
  frame : h.after = { h.before with
    world := h.after.world, showsMessages := h.after.showsMessages, stopped := h.after.stopped
    heard := h.before.heard ++ [h.line], unread := h.before.unread ++ h.answers }
  silenced : begins h.line h.before.silentFor = true →
    h.answers = [] ∧ h.after.affairs = h.before.affairs
  answered : begins h.line h.before.silentFor = false → ∃ response, h.AnsweredBy response

end Hearing

/-- **One line is heard soundly.** -/
theorem sound_of_hear (hs : s.Orderly) (line : String) :
    ∃ s', hear line s = .ok () s' ∧ Hearing.Sound ⟨line, s, s'⟩ := by
  have hopen : ¬ s.closed = true := by simp [hs.opened]
  let heard : Simulator := { s with heard := s.heard ++ [line] }
  have hheard : heard.Orderly := hs.of_world rfl rfl hs.world
  -- silence, a rejection, or the request carried out
  cases hsilent : begins line s.silentFor with
  | true =>
    have hnone : Hearing.answers ⟨line, s, heard⟩ = [] := List.drop_length
    refine ⟨heard, ?_, ?_⟩
    · simp only [hear, if_neg hopen, hsilent, if_true, heard]
    · refine ⟨hs, hheard, ?_, fun _ => ⟨hnone, rfl⟩, fun h => ?_⟩
      · rw [hnone, List.append_nil]
      · rw [hsilent] at h
        cases h
  | false =>
    -- being on record does not matter to the answer
    have hof {answer : Response} {s' : Simulator}
        (hanswer : heard.respond line = .ok (answer, s')) :
        hear line s = .ok () { s' with unread := s'.unread ++ [answer.line] } := by
      simp only [hear, if_neg hopen, hsilent, Bool.false_eq_true, if_false, heard] at hanswer ⊢
      rw [hanswer]
    have hsilenced {P : Prop} : begins line s.silentFor = true → P := by
      rw [hsilent]
      simp
    have hone (s' : Simulator) {response : String} (hunread : s'.unread = s.unread) :
        Hearing.answers ⟨line, s, { s' with unread := s'.unread ++ [response] }⟩ = [response] := by
      rw [Hearing.answers, hunread, List.drop_left]
    by_cases hdeclines : s.Declines line
    · -- a rejection comes from the far end as it was
      obtain ⟨reason, hanswer⟩ := respond_of_declines hheard hdeclines
      have hrejection := isRejection_line reason
      refine ⟨_, hof hanswer, hs, hs.of_world rfl rfl hs.world, ?_, hsilenced, fun _ => ?_⟩
      · rw [hone heard rfl]
      · exact ⟨_, hone heard rfl, iff_of_true hrejection hdeclines, fun _ => rfl,
          fun h => absurd hrejection h⟩
    · -- the line is a request that can be carried out
      obtain ⟨hrefuses, hable⟩ := not_or.1 hdeclines
      push Not at hable
      obtain ⟨r, hline, hr⟩ := hable
      obtain ⟨answer, s', hanswer, hfulfils⟩ :=
        respond_of_able hheard (Bool.eq_false_iff.2 hrefuses) hline hr
      have hframe := hfulfils.frame
      have hunread : s'.unread = s.unread := by rw [hframe]
      have hgrids : s'.grids = s.grids := by rw [hframe]
      have hclosed : s'.closed = s.closed := by rw [hframe]
      have haccepted : ¬ IsRejection answer.line :=
        not_or.2 (Response.line_ne_rejection hfulfils.answers)
      refine ⟨_, hof hanswer, hs, hs.of_world hclosed hgrids hfulfils.world, ?_, hsilenced,
        fun _ => ?_⟩
      · rw [hone s' hunread, hframe]
      · exact ⟨_, hone s' hunread, iff_of_false haccepted hdeclines, fun h => absurd h haccepted,
          fun _ => ⟨r, hline, hfulfils.accepts, hfulfils.carriedOut⟩⟩

/-! ### Courses -/

/-- **A use of the link**: a line is sent, or an answer is waited for. -/
inductive Use where
  | send (line : String)
  | receive (milliseconds : Nat)
  deriving DecidableEq, Repr

/-- The line that a use sends. -/
def Use.line? : Use → Option String
  | send line => some line
  | receive _ => none

/-- **How the link is used.** What is received may be nothing. -/
def Use.carryOut : Use → EStateM (Trouble LinkError) Simulator (Option String)
  | send line => do
    link.send line
    return none
  | receive ms => link.receive ms

/-- The line that a use has sent, if it has sent one. -/
def Use.hearing? (use : Use) (s s' : Simulator) : Option Hearing :=
  use.line?.map fun line => ⟨line, s, s'⟩

/-- **The lines that are sent in a course**, each with the far end before and after. -/
def hearings : List Use → Simulator → List Hearing
  | [], _ => []
  | use :: uses, s =>
    match use.carryOut s with
    | .ok _ s' => (use.hearing? s s').toList ++ hearings uses s'
    | .error _ _ => []

/-- **One use** of a link to a far end in order. What is received was the first to wait. -/
theorem carryOut_of_orderly (hs : s.Orderly) (use : Use) :
    ∃ said s', use.carryOut s = .ok said s' ∧ s'.Orderly ∧
      said.toList ++ s'.unread =
        s.unread ++ (use.hearing? s s').toList.flatMap Hearing.answers ∧
      ∀ h ∈ use.hearing? s s', h.Sound := by
  -- only a line that is sent is heard; to receive takes what waits
  cases use with
  | send line =>
    obtain ⟨s', hhear, hsound⟩ := sound_of_hear hs line
    have hsend : link.send line s = .ok () s' := hhear
    refine ⟨none, s', ?_, hsound.after, ?_, ?_⟩
    · rw [Use.carryOut, bind_of_ok hsend, pure_apply]
    · have hunread : s'.unread = s.unread ++ Hearing.answers ⟨line, s, s'⟩ :=
        congrArg Simulator.unread hsound.frame
      simpa [Use.hearing?, Use.line?] using hunread
    · intro h hh
      cases hh
      exact hsound
  | receive ms =>
    have hopen : ¬ s.closed = true := by simp [hs.opened]
    have hnone (s' : Simulator) : (Use.receive ms).hearing? s s' = none := rfl
    cases hunread : s.unread with
    | nil =>
      -- nothing waits, and the time runs out
      refine ⟨none, s, ?_, hs, by simp [hunread, hnone], by simp [hnone]⟩
      simp only [Use.carryOut, link, say, if_neg hopen, hunread]
    | cons answer rest =>
      -- the oldest answer that waits is received
      refine ⟨some answer, { s with unread := rest }, ?_, hs.of_world rfl rfl hs.world,
        by simp [hnone], by simp [hnone]⟩
      simp only [Use.carryOut, link, say, if_neg hopen, hunread]

/-- **A far end in order answers all lines, and each of them wholly or not at all.** Whatever is
sent over its link, and whenever answers are waited for in between, nothing fails and it stays in
order. The lines that it has heard are those that were sent. What has been received, with what still
waits, is what waited at first and then the answers to these lines, in their order. And every line
has been treated as it should be. -/
theorem hears_all_or_nothing (hs : s.Orderly) (uses : List Use) :
    ∃ received s', uses.mapM Use.carryOut s = .ok received s' ∧ s'.Orderly ∧
      (hearings uses s).map Hearing.line = uses.filterMap Use.line? ∧
      received.reduceOption ++ s'.unread =
        s.unread ++ (hearings uses s).flatMap Hearing.answers ∧
      ∀ h ∈ hearings uses s, h.Sound := by
  -- along the course, as each use leaves the far end in order
  induction uses generalizing s with
  | nil => exact ⟨[], s, rfl, hs, rfl, (List.append_nil s.unread).symm, by simp [hearings]⟩
  | cons use uses ih =>
    obtain ⟨said, s', huse, hs', hwaiting, hsound⟩ := carryOut_of_orderly hs use
    obtain ⟨received, s'', huses, hs'', hlines, hwaiting', hsound'⟩ := ih hs'
    have hhearings : hearings (use :: uses) s =
        (use.hearing? s s').toList ++ hearings uses s' := by
      rw [hearings, huse]
    refine ⟨said :: received, s'', ?_, hs'', ?_, ?_, ?_⟩
    · rw [List.mapM_cons, bind_of_ok huse, bind_of_ok huses]
      rfl
    · -- only the uses that send have a line
      rw [hhearings, List.map_append, hlines]
      cases use <;> rfl
    · -- what this use receives comes before what the others receive
      have hreceived : (said :: received).reduceOption = said.toList ++ received.reduceOption := by
        cases said <;> rfl
      rw [hhearings, hreceived, List.append_assoc, hwaiting', ← List.append_assoc, hwaiting,
        List.flatMap_append, List.append_assoc]
    · rw [hhearings]
      intro h hh
      rcases List.mem_append.1 hh with hh | hh
      · exact hsound h (Option.mem_toList.1 hh)
      · exact hsound' h hh

/-- A far end with two cells, another grid, and lines that it refuses or keeps silent on. -/
def guarded : Simulator :=
  { ofWorld (.ofRows [[.empty, .wall]]) with
    grids := [("yard", .empty 3 2)], silentFor := some "FACE", refuses := some "STOP" }

/-- Some of the lines to it are rejected, each for a reason of its own, and the others are not. -/
theorem guarded_hears_all_or_nothing :
    guarded.Orderly ∧ ∃ received s',
      [.send "GETSIZE", .send "GOTO 1 0", .receive 0, .send "FACE left", .send "SETGRID 0 0 7",
        .send "STOP", .send "DANCE", .receive 0, .send "LOADGRID  yard"].mapM Use.carryOut guarded =
        .ok received s' ∧
      received.reduceOption ++ s'.unread =
        ["GRIDSIZE 2 1", "CMDFAIL", "ACK SETGRID 0 0 7", "CMDFAIL", "CMDERR",
          "ACK LOADGRID yard"] := by
  have hworld : guarded.world.Regular := ⟨by decide, by decide, by decide, by decide⟩
  have hyard : (World.empty 3 2).Regular := ⟨by decide, by decide, by decide, by decide⟩
  -- one grid is registered, and any other name has none
  have horderly : guarded.Orderly := by
    refine ⟨rfl, hworld, fun name grid hgrid => ?_⟩
    have hgrids : guarded.grids = [("yard", World.empty 3 2)] := rfl
    rw [hgrids, List.lookup_cons] at hgrid
    split at hgrid
    · cases hgrid
      exact hyard
    · cases hgrid
  obtain ⟨received, s', huses, -, -, hwaiting, -⟩ := hears_all_or_nothing horderly
    [.send "GETSIZE", .send "GOTO 1 0", .receive 0, .send "FACE left", .send "SETGRID 0 0 7",
      .send "STOP", .send "DANCE", .receive 0, .send "LOADGRID  yard"]
  refine ⟨horderly, received, s', huses, hwaiting.trans ?_⟩
  decide

end Simulator

end GridScript
