import GridScript.Proofs.Grid.Regular
import Mathlib.Algebra.GroupWithZero.Nat

/-!
# What is conserved on a grid

Gems are neither made nor lost as long as they only change between a cell and the agent, and walls
stay where they are as long as only cells without one are replaced. Both are sums and lists over the
whole grid, while each change is one of a single cell.

* `World.gemTotal`, `World.walls`, `World.OnFloor` — what is looked at.
* `World.Conserves` — two worlds that have all of this in common.
* `World.gemsOnGrid_withCell`, `World.walls_withCell` — replacing one cell.
* `World.conserves_transfer` — gems change between a cell and the agent.
-/

namespace GridScript

namespace World

/-- The number of gems on the cells. -/
def gemsOnGrid (w : World) : Nat :=
  (w.rows.map fun row => (row.map fun cell => cell.gemCount.toNat).sum).sum

/-- **The number of gems**, on the cells and held. -/
def gemTotal (w : World) : Nat := w.held.toNat + w.gemsOnGrid

/-- Where there are walls. -/
def walls (w : World) : List (List Bool) := w.rows.map (·.map Cell.isWall)

/-- **The agent is inside the grid, off the walls.** -/
def OnFloor (w : World) : Prop :=
  0 ≤ w.agent.x ∧ 0 ≤ w.agent.y ∧
    (w.walls[w.agent.y.toInt.toNat]?.bind (·[w.agent.x.toInt.toNat]?)) = some false

instance (w : World) : Decidable w.OnFloor :=
  inferInstanceAs (Decidable (_ ∧ _ ∧ _))

/-- **A world that another one has come to without gems made or lost**: there are as many of them,
the walls are where they were, and the agent has not left the floor. -/
structure Conserves (w w' : World) : Prop where
  gems : w'.gemTotal = w.gemTotal
  walls : w'.walls = w.walls
  onFloor : w.OnFloor → w'.OnFloor

variable {w w' w'' : World} {c : Coord}

theorem Conserves.refl (w : World) : w.Conserves w := ⟨rfl, rfl, id⟩

theorem Conserves.trans (h : w.Conserves w') (h' : w'.Conserves w'') : w.Conserves w'' where
  gems := h'.gems.trans h.gems
  walls := h'.walls.trans h.walls
  onFloor hw := h'.onFloor (h.onFloor hw)

/-! ### One cell -/

/-- A sum over a list in which one entry is another one. -/
private theorem sum_map_set {α : Type} (f : α → Nat) {l : List α} {i : Nat} {a : α}
    (h : l[i]? = some a) (b : α) :
    ((l.set i b).map f).sum + f a = (l.map f).sum + f b := by
  -- the induction is on the list, with the index running along
  induction l generalizing i with
  | nil => cases h
  | cons c l ih =>
    cases i with
    | zero =>
      obtain rfl : c = a := Option.some.inj h
      simp only [List.set_cons_zero, List.map_cons, List.sum_cons]
      omega
    | succ i =>
      have hrest := ih (i := i) h
      simp only [List.set_cons_succ, List.map_cons, List.sum_cons]
      omega

/-- An entry of a list is replaced by itself. -/
private theorem set_self {α : Type} {l : List α} {i : Nat} {a : α} (h : l[i]? = some a) :
    l.set i a = l := by
  obtain ⟨hi, rfl⟩ := List.getElem?_eq_some_iff.1 h
  exact List.set_getElem_self hi

/-- A cell that the far end has is an entry of a row. -/
theorem exists_row_of_at? {cell : Cell} (h : w.at? c = .ok (some cell)) :
    0 ≤ c.x ∧ 0 ≤ c.y ∧
      ∃ row, w.rows[c.y.toInt.toNat]? = some row ∧ row[c.x.toInt.toNat]? = some cell := by
  -- first the size is asked, then the row and the cell in it
  rw [at?] at h
  split at h
  · next hinside =>
    simp only [GridSize.contains, Bool.and_eq_true, decide_eq_true_eq] at hinside
    obtain ⟨⟨⟨hx, -⟩, hy⟩, -⟩ := hinside
    split at h
    · next hfound =>
      cases h
      exact ⟨hx, hy, Option.bind_eq_some_iff.1 hfound⟩
    · cases h
  · cases h

/-- The row of the cell is replaced. -/
theorem rows_withCell {row : List Cell} (h : w.rows[c.y.toInt.toNat]? = some row) (new : Cell) :
    (w.withCell c new).rows = w.rows.set c.y.toInt.toNat (row.set c.x.toInt.toNat new) := by
  rw [withCell]
  refine List.ext_getElem? fun i => ?_
  -- the row of the place is replaced, and all others stay
  by_cases hi : c.y.toInt.toNat = i
  · subst hi
    rw [List.getElem?_modify_eq, List.getElem?_set_self', h]
    rfl
  · rw [List.getElem?_modify_ne _ _ hi, List.getElem?_set_ne hi]

variable {old new : Cell}

/-- **Replacing a cell** changes the number of gems by what is on it. -/
theorem gemsOnGrid_withCell (h : w.at? c = .ok (some old)) :
    (w.withCell c new).gemsOnGrid + old.gemCount.toNat =
      w.gemsOnGrid + new.gemCount.toNat := by
  obtain ⟨-, -, row, hrow, hcell⟩ := exists_row_of_at? h
  -- the same lemma twice: for the cell in its row, and for the row in the grid
  have hinside := sum_map_set (fun cell => cell.gemCount.toNat) hcell new
  have hrows := sum_map_set (fun row => (row.map fun cell => cell.gemCount.toNat).sum) hrow
    (row.set c.x.toInt.toNat new)
  -- both sums are over the same rows but one
  rw [gemsOnGrid, rows_withCell hrow, gemsOnGrid]
  omega

/-- **Replacing a cell by one that is as much of a wall** leaves the walls where they are. -/
theorem walls_withCell (h : w.at? c = .ok (some old)) (hwall : new.isWall = old.isWall) :
    (w.withCell c new).walls = w.walls := by
  obtain ⟨-, -, row, hrow, hcell⟩ := exists_row_of_at? h
  have hinside : (row.set c.x.toInt.toNat new).map Cell.isWall = row.map Cell.isWall := by
    rw [List.map_set, hwall, set_self (by rw [List.getElem?_map, hcell, Option.map_some])]
  rw [walls, rows_withCell hrow, List.map_set, hinside, walls,
    set_self (by rw [List.getElem?_map, hrow, Option.map_some])]

/-! ### What keeps the gems -/

/-- The way the agent faces does not matter. -/
theorem conserves_turn (w : World) (d : Direction) : w.Conserves { w with facing := d } :=
  ⟨rfl, rfl, id⟩

/-- **The agent goes to a cell without a wall.** -/
theorem conserves_goTo {n : UInt8} (h : w.at? c = .ok (some (.gems n))) :
    w.Conserves { w with agent := c } where
  gems := rfl
  walls := rfl
  -- the floor is where there is no wall, and the cell that is entered holds gems
  onFloor _ := by
    obtain ⟨hx, hy, row, hrow, hcell⟩ := exists_row_of_at? h
    refine ⟨hx, hy, ?_⟩
    change (w.walls[c.y.toInt.toNat]?.bind _) = _
    rw [walls, List.getElem?_map, hrow, Option.map_some, Option.bind_some, List.getElem?_map, hcell]
    rfl

/-- **Gems change between a cell and the agent**: what one of them has more, the other has less. -/
theorem conserves_transfer {n more : UInt8} {held : UInt32} (h : w.at? c = .ok (some (.gems n)))
    (hsum : held.toNat + more.toNat = w.held.toNat + n.toNat) :
    w.Conserves { w.withCell c (.gems more) with held := held } where
  -- what the grid loses the agent gains
  gems := by
    have hcell : (w.withCell c (.gems more)).gemsOnGrid + n.toNat = w.gemsOnGrid + more.toNat :=
      gemsOnGrid_withCell h
    change held.toNat + (w.withCell c (.gems more)).gemsOnGrid = w.held.toNat + _
    omega
  walls := walls_withCell h rfl
  -- walls are where they were, and the agent has not moved
  onFloor hw := by
    have hwalls : (w.withCell c (.gems more)).walls = w.walls := walls_withCell h rfl
    rw [OnFloor] at hw ⊢
    change _ ∧ _ ∧ ((w.withCell c (.gems more)).walls[_]?.bind _) = _
    rw [hwalls]
    exact hw

end World

end GridScript
