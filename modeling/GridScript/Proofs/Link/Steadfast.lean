import GridScript.Link.Rehearsal
import GridScript.Link.Simulator
import GridScript.Proofs.Grid.Regular
import GridScript.Proofs.Sequencing
import GridScript.Proofs.Wire.Canonical
import Mathlib.Logic.Relation

/-!
# Links that break off

A link may fail in every way: what is sent may get lost, what is received may be anything, and both
may end with an error, which the other side handles. Breaking off is another matter, since nobody
handles it. Whether a link does so depends on the state that it is in, and with that on everything
that was sent before. A far end in memory breaks off at a cell that is missing from its grid, and at
nothing else.

* `Link.Leads` — the states that a link comes to, `Link.BreaksOff` — how it may break off from one.
* `Link.Steadfast` — a link that keeps something true as long as it does not break off, and
  `Link.steadfast_leads` — to have come from a state is something that every link keeps true.
* `Rehearsal.steadfast_link` — a rehearsal never breaks off.
* `Simulator.Rectangular`, `Simulator.steadfast_link` — neither does a far end in memory, if its
  grids are rectangles.
-/

namespace GridScript

/-! ### Using a link -/

namespace Link

variable {χ : Type}

/-- **A use of a link**: a request is sent, a line is waited for, or the link is given up. -/
inductive Use where
  | send (r : Request)
  | receive (milliseconds : Nat)
  | close

/-- **How a link is used.** What is received does not matter here. -/
def use (ch : Link χ) : Use → EStateM (Trouble LinkError) χ Unit
  | .send r => ch.send r.line
  | .receive ms => discard (ch.receive ms)
  | .close => ch.close

/-- **The states that a link comes to** from one of them, by uses that succeed or fail. -/
def Leads (ch : Link χ) : χ → χ → Prop :=
  Relation.ReflTransGen fun s s' =>
    ∃ u, ch.use u s = .ok () s' ∨ ∃ e, ch.use u s = .error (.failed e) s'

/-- **A link breaks off** in a use of a state that it comes to, and is left like that. -/
def BreaksOff (ch : Link χ) (s : χ) (a : Abort) (s' : χ) : Prop :=
  ∃ r u, ch.Leads s r ∧ ch.use u r = .error (.aborted a) s'

end Link

/-- **What is left behind by trouble**: `I` is still true behind an error, and behind what breaks
off there is what `B` says. -/
def Trouble.Leaves {ε σ : Type} (I : σ → Prop) (B : Abort → σ → Prop) : Trouble ε → σ → Prop
  | failed _, s => I s
  | aborted a, s => B a s

namespace Link

variable {χ : Type} {I : χ → Prop} {B : Abort → χ → Prop} {ch : Link χ} {s s' : χ} {a : Abort}

/-- **A link that keeps `I` true**, in whatever way it is used, as long as it does not break off,
and that breaks off as `B` says only. -/
def Steadfast (ch : Link χ) (I : χ → Prop) (B : Abort → χ → Prop) : Prop :=
  ∀ u s, I s → Settles (ch.use u) s (fun _ => I) (Trouble.Leaves I B)

/-- What is received leaves behind what waiting for it does. -/
theorem Steadfast.receive (h : ch.Steadfast I B) (ms : Nat) (hs : I s) :
    Settles (ch.receive ms) s (fun _ => I) (Trouble.Leaves I B) := by
  have huse := h (.receive ms) s hs
  rw [Settles, use, discard_apply] at huse
  rw [Settles]
  cases hreceive : ch.receive ms s <;> rwa [hreceive] at huse

/-- What a link keeps true is true of the states that it comes to. -/
theorem Steadfast.of_leads (h : ch.Steadfast I B) (hs : I s) (hleads : ch.Leads s s') : I s' := by
  induction hleads with
  | refl => exact hs
  | tail _ hstep ih =>
    obtain ⟨u, hok | ⟨e, herror⟩⟩ := hstep
    · exact (h u _ ih).of_ok hok
    · exact (h u _ ih).of_error herror

/-- **How a link breaks off** from where it has kept something true. -/
theorem Steadfast.of_breaksOff (h : ch.Steadfast I B) (hs : I s) (hbreaks : ch.BreaksOff s a s') :
    B a s' := by
  obtain ⟨r, u, hleads, huse⟩ := hbreaks
  exact (h u r (h.of_leads hs hleads)).of_error huse

/-- **To have come from a state** is kept true by every link, and from there it breaks off. -/
theorem steadfast_leads (ch : Link χ) (s : χ) : ch.Steadfast (ch.Leads s) (ch.BreaksOff s) := by
  intro u r hr
  rw [Settles]
  cases huse : ch.use u r with
  | ok v r' => exact hr.tail ⟨u, .inl huse⟩
  | error e r' =>
    cases e with
    | failed e => exact hr.tail ⟨u, .inr ⟨e, huse⟩⟩
    | aborted a => exact ⟨r, u, hr, huse⟩

end Link

/-! ### Links that do not break off -/

/-- **A rehearsal** does not break off. -/
theorem Rehearsal.steadfast_link : link.Steadfast (fun _ => True) fun _ _ => False := by
  intro u r _
  cases u with
  | send request =>
    change Settles (hear request.line) r _ _
    rw [Settles, hear]
    dsimp only
    -- the link may have been given up, the lines be over, or another line be due
    split_ifs
    · exact trivial
    · cases r.lines with
      | nil => exact trivial
      | cons due rest =>
        dsimp only
        split_ifs <;> exact trivial
  | receive ms =>
    change Settles (discard say) r _ _
    rw [Settles, discard_apply, say]
    cases r.unsaid <;> exact trivial
  | close => exact trivial

namespace World

variable {w : World}

/-- **A rectangle has no missing cells**: whatever is looked at is there or outside. -/
theorem Rectangle.exists_at?_eq_ok (h : w.Rectangle) (c : Coord) :
    ∃ found, w.at? c = .ok found := by
  by_cases hc : w.size.contains c = true
  · obtain ⟨cell, hcell, -⟩ := h.exists_at? hc
    exact ⟨some cell, hcell⟩
  · exact ⟨none, if_neg hc⟩

/-- **A rectangle answers every request** that can be read, and stays one. -/
theorem Rectangle.exists_respond (h : w.Rectangle) {r : Request} (hr : r.Readable) :
    ∃ answer w', w.respond r = .ok (answer, w') ∧ w'.Rectangle := by
  -- only a request about a place is looked up in the rows, where a cell may be missing
  cases r with
  | goTo c =>
    obtain ⟨found, hfound⟩ := h.exists_at?_eq_ok c
    rw [respond, hfound]
    match found with
    | none | some .wall => exact ⟨_, _, rfl, h⟩
    | some (.gems n) => exact ⟨_, _, rfl, h.of_rows_eq rfl⟩
  | putCell c cell =>
    obtain ⟨found, hfound⟩ := h.exists_at?_eq_ok c
    cases found with
    | none =>
      rw [respond, put?, hfound]
      exact ⟨_, _, rfl, h⟩
    | some old =>
      rw [respond, put?_of_at? hfound]
      exact ⟨_, _, rfl, h.withCell c hr⟩
  | askCell c =>
    obtain ⟨found, hfound⟩ := h.exists_at?_eq_ok c
    rw [respond, hfound]
    cases found <;> exact ⟨_, _, rfl, h⟩
  | face d => exact ⟨_, _, rfl, h.of_rows_eq rfl⟩
  | holdGems n => exact ⟨_, _, rfl, h.of_rows_eq rfl⟩
  | _ => exact ⟨_, _, rfl, h⟩

end World

namespace Simulator

variable {s : Simulator}

/-- **A far end all of whose grids are rectangles** of ordinary cells, the one it is on and those
that can be loaded. -/
structure Rectangular (s : Simulator) : Prop where
  world : s.world.Rectangle
  grids : ∀ name grid, s.grids.lookup name = some grid → grid.Rectangle

/-- **It answers every line**, and its grids stay rectangles. -/
theorem Rectangular.exists_respond (h : s.Rectangular) (line : String) :
    ∃ answer s', s.respond line = .ok (answer, s') ∧ s'.Rectangular := by
  rw [respond]
  -- a line on the list of refusals is not looked at
  split_ifs
  · exact ⟨_, _, rfl, h⟩
  cases hline : Request.ofLine line with
  | error reason => exact ⟨_, _, rfl, h⟩
  | ok r =>
    obtain ⟨answer, w', hw, hw'⟩ := h.world.exists_respond (Request.readable_of_ofLine hline)
    -- a line that names a grid is not carried out in the world that there is
    cases r with
    | loadGrid name =>
      dsimp only
      -- the other grids are not its own, so this is no question to its world
      split
      · next grid hgrid => exact ⟨_, _, rfl, h.grids name grid hgrid, h.grids⟩
      · exact ⟨_, _, rfl, h⟩
    | _ =>
      simp only [hw, Except.map]
      exact ⟨_, _, rfl, hw', h.grids⟩

/-- **A far end in memory with rectangles for grids** does not break off. -/
theorem steadfast_link : link.Steadfast Rectangular fun _ _ => False := by
  intro u s hs
  cases u with
  | send r =>
    change Settles (hear r.line) s _ _
    rw [Settles, hear]
    dsimp only
    -- a far end that is closed or silent does not answer, and so it does not look anything up
    split_ifs
    · exact hs
    · exact ⟨hs.world, hs.grids⟩
    · have hheard : Rectangular { s with heard := s.heard ++ [r.line] } := ⟨hs.world, hs.grids⟩
      obtain ⟨answer, s', hanswer, hs'⟩ := hheard.exists_respond r.line
      rw [hanswer]
      exact ⟨hs'.world, hs'.grids⟩
  | receive ms =>
    change Settles (discard say) s _ _
    rw [Settles, discard_apply, say]
    split_ifs
    · exact hs
    · -- what waits is said, and nothing is looked up for it
      cases s.unread with
      | nil => exact hs
      | cons answer rest => exact ⟨hs.world, hs.grids⟩
  | close => exact ⟨hs.world, hs.grids⟩

end Simulator

end GridScript
