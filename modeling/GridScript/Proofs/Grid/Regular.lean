import GridScript.Grid.World
import Mathlib.Algebra.Group.Nat.Defs

/-!
# Regular worlds

A regular world is a rectangle whose sides fit into a coordinate and whose cells can be told of on
the wire. The cell next to the agent is found there by plain arithmetic on its row and column.

* `Coord.beside` — the four steps, and `Coord.step_eq_beside` — a coordinate steps like that, within
  its limits.
* `World.Rectangle` — the rectangles of any size, and `World.Rectangle.exists_at?` — the far end has
  a cell wherever its own size says that there is one.
* `World.Regular` — the rectangles that fit.
* `World.next?` — the cell next to the agent, without the limits of coordinates.
* `World.Regular.contains_of_next?`, `World.Regular.not_contains_of_next?` — what the far end says
  of that cell.
* `World.Rectangle.withCell`, `World.Regular.withCell` — replacing a cell keeps a world as it should
  be.
-/

namespace GridScript

/-- **A cell that can be told of**: a wall, or at most nine gems. -/
def Cell.Ordinary (cell : Cell) : Prop := cell.gemCount ≤ 9

instance (cell : Cell) : Decidable cell.Ordinary :=
  inferInstanceAs (Decidable (cell.gemCount ≤ 9))

/-- **The column and the row next to a place**, as integers. The first row is the top one, so `up`
goes to a smaller row. -/
def Coord.beside (c : Coord) : Direction → Int × Int
  | .up => (c.x.toInt, c.y.toInt - 1)
  | .right => (c.x.toInt + 1, c.y.toInt)
  | .down => (c.x.toInt, c.y.toInt + 1)
  | .left => (c.x.toInt - 1, c.y.toInt)

/-- A coordinate steps to the place next to it, or stays at the last one that there is. -/
theorem Coord.step_eq_beside (c : Coord) (d : Direction) :
    c.step d = ⟨.ofIntClamp (c.beside d).1, .ofIntClamp (c.beside d).2⟩ := by
  cases d <;> simp [step, beside, Direction.vector, Int.sub_eq_add_neg]

namespace World

/-- The number of columns. -/
def columns (w : World) : Nat := (w.rows.head?.getD []).length

/-- **A rectangle of ordinary cells.** The agent may be anywhere. -/
structure Rectangle (w : World) : Prop where
  rectangular : ∀ row ∈ w.rows, row.length = w.columns
  ordinary : ∀ row ∈ w.rows, ∀ cell ∈ row, cell.Ordinary

/-- **A rectangle of ordinary cells**, with less than 2 ^ 31 rows and columns. The agent may be
anywhere. -/
structure Regular (w : World) : Prop where
  rectangular : ∀ row ∈ w.rows, row.length = w.columns
  columns_lt : w.columns < 2 ^ 31
  rows_lt : w.rows.length < 2 ^ 31
  ordinary : ∀ row ∈ w.rows, ∀ cell ∈ row, cell.Ordinary

/-- **The cell next to the agent** in a direction, and where it is. There is none past the edge. -/
def next? (w : World) (d : Direction) : Option (Coord × Cell) :=
  let x := (w.agent.beside d).1
  let y := (w.agent.beside d).2
  -- as an index, a negative number would be the first one
  if 0 ≤ x ∧ 0 ≤ y then
    (w.rows[y.toNat]?.bind (·[x.toNat]?)).map fun cell => (⟨.ofInt x, .ofInt y⟩, cell)
  else none

/-- **The same world with another cell** at a coordinate. -/
def withCell (w : World) (c : Coord) (cell : Cell) : World :=
  { w with rows := w.rows.modify c.y.toInt.toNat (·.set c.x.toInt.toNat cell) }

variable {w : World}

theorem Regular.rectangle (h : w.Regular) : w.Rectangle := ⟨h.rectangular, h.ordinary⟩

/-- Only the cells matter. -/
theorem Rectangle.of_rows_eq {w' : World} (h : w.Rectangle) (hrows : w'.rows = w.rows) :
    w'.Rectangle := by
  obtain ⟨rectangular, ordinary⟩ := h
  rw [columns, ← hrows] at rectangular
  rw [← hrows] at ordinary
  exact ⟨rectangular, ordinary⟩

/-- Only the cells matter. -/
theorem Regular.of_rows_eq {w' : World} (h : w.Regular) (hrows : w'.rows = w.rows) :
    w'.Regular := by
  obtain ⟨rectangular, columns_lt, rows_lt, ordinary⟩ := h
  rw [columns, ← hrows] at columns_lt
  rw [← hrows] at rows_lt ordinary rectangular
  exact ⟨by rwa [columns, ← hrows] at rectangular, columns_lt, rows_lt, ordinary⟩

/-! ### Cells of a rectangle -/

/-- Inside a rectangle there is a cell. -/
theorem Rectangle.exists_cell (h : w.Rectangle) {x y : Nat} (hx : x < w.columns)
    (hy : y < w.rows.length) :
    ∃ cell, (w.rows[y]?.bind (·[x]?)) = some cell ∧ cell.Ordinary := by
  have hlength := h.rectangular _ (List.getElem_mem hy)
  refine ⟨w.rows[y][x], ?_, h.ordinary _ (List.getElem_mem hy) _ (List.getElem_mem _)⟩
  rw [List.getElem?_eq_getElem hy, Option.bind_some, List.getElem?_eq_getElem (hlength ▸ hx)]

/-- **A coordinate before the end of a side** is an index before it. A side that is too long for a
coordinate wraps around, so it ends only sooner. -/
theorem toNat_lt_of_lt_ofNat {i : Int32} {n : Nat} (h0 : 0 ≤ i) (h : i < Int32.ofNat n) :
    i.toInt.toNat < n := by
  have hzero : (0 : Int32).toInt = 0 := by decide
  rw [Int32.le_iff_toInt_le, hzero] at h0
  rw [Int32.lt_iff_toInt_lt, Int32.toInt_ofNat'] at h
  -- a length too great for the type wraps around, which only makes it smaller
  have hwrap : (n : Int).bmod Int32.size ≤ n := by
    rw [Int.bmod_def, Int32.size]
    omega
  omega

/-- **The far end has a cell wherever it says that its grid is.** -/
theorem Rectangle.exists_at? (h : w.Rectangle) {c : Coord} (hc : w.size.contains c = true) :
    ∃ cell, w.at? c = .ok (some cell) ∧ cell.Ordinary := by
  have hinside := hc
  simp only [GridSize.contains, Bool.and_eq_true, decide_eq_true_eq] at hinside
  obtain ⟨⟨⟨hx, hx'⟩, hy⟩, hy'⟩ := hinside
  obtain ⟨cell, hcell, hordinary⟩ :=
    h.exists_cell (toNat_lt_of_lt_ofNat hx hx') (toNat_lt_of_lt_ofNat hy hy')
  refine ⟨cell, ?_, hordinary⟩
  rw [at?, if_pos hc, hcell]

/-! ### The cell next to the agent -/

/-- **A clamped coordinate** is inside a side exactly if the integer is. -/
theorem clamp_inside_iff {i : Int} {n : Nat} (hn : n < 2 ^ 31) :
    (0 ≤ Int32.ofIntClamp i ∧ Int32.ofIntClamp i < Int32.ofNat n) ↔ 0 ≤ i ∧ i < n := by
  have hmin : Int32.minValue.toInt = -2147483648 := by decide
  have hmax : Int32.maxValue.toInt = 2147483647 := by decide
  have hzero : (0 : Int32).toInt = 0 := by decide
  rw [Int32.le_iff_toInt_le, Int32.lt_iff_toInt_lt, Int32.toInt_ofNat_of_lt hn, hzero]
  by_cases hlow : Int32.minValue.toInt ≤ i
  · by_cases hhigh : i ≤ Int32.maxValue.toInt
    · rw [Int32.toInt_ofIntClamp hlow hhigh]
    · -- the last coordinate is behind every side
      rw [Int32.ofIntClamp, dif_pos hlow, dif_neg hhigh]
      omega
  · -- the first coordinate is before every side
    rw [Int32.ofIntClamp, dif_neg hlow]
    omega

/-- A clamped integer inside a side is that integer. -/
theorem clamp_eq_ofInt {i : Int} {n : Nat} (hn : n < 2 ^ 31) (hi : 0 ≤ i ∧ i < n) :
    Int32.ofIntClamp i = Int32.ofInt i := by
  have hmin : Int32.minValue.toInt ≤ i := by
    rw [show Int32.minValue.toInt = -2147483648 by decide]
    omega
  have hmax : i ≤ Int32.maxValue.toInt := by
    rw [show Int32.maxValue.toInt = 2147483647 by decide]
    omega
  rw [Int32.ofIntClamp, dif_pos hmin, dif_pos hmax, Int32.ofIntLE]

variable {d : Direction} {c : Coord} {cell : Cell}

/-- The rows and columns that the agent looks at, as integers. -/
theorem Regular.contains_step_iff (h : w.Regular) :
    w.size.contains (w.agent.step d) = true ↔
      (0 ≤ (w.agent.beside d).1 ∧ (w.agent.beside d).1 < w.columns) ∧
      (0 ≤ (w.agent.beside d).2 ∧ (w.agent.beside d).2 < w.rows.length) := by
  rw [← clamp_inside_iff h.columns_lt, ← clamp_inside_iff h.rows_lt, Coord.step_eq_beside]
  simp only [GridSize.contains, Bool.and_eq_true, decide_eq_true_eq, and_assoc]
  exact Iff.rfl

/-- **Beside the grid** the far end has no cell. -/
theorem Regular.not_contains_of_next? (h : w.Regular) (hn : w.next? d = none) :
    w.size.contains (w.agent.step d) = false := by
  refine Bool.eq_false_iff.2 fun hc => ?_
  obtain ⟨⟨hx, hx'⟩, hy, hy'⟩ := h.contains_step_iff.1 hc
  obtain ⟨cell, hcell, -⟩ :=
    h.rectangle.exists_cell ((Int.toNat_lt hx).2 hx') ((Int.toNat_lt hy).2 hy')
  rw [next?, if_pos ⟨hx, hy⟩, hcell] at hn
  cases hn

/-- **On the grid** the far end has the cell that is next to the agent. -/
theorem Regular.of_next?_eq_some (h : w.Regular) (hn : w.next? d = some (c, cell)) :
    w.size.contains (w.agent.step d) = true ∧ w.agent.step d = c ∧ w.at? c = .ok (some cell) ∧
      cell.Ordinary := by
  rw [next?] at hn
  split at hn
  · next hpos =>
    obtain ⟨hx, hy⟩ := hpos
    obtain ⟨found, hfound, heq⟩ := Option.map_eq_some_iff.1 hn
    obtain ⟨row, hrow, hcell⟩ := Option.bind_eq_some_iff.1 hfound
    cases heq
    -- both indices are inside the rectangle, since a cell has been found there
    obtain ⟨hrows, rfl⟩ := List.getElem?_eq_some_iff.1 hrow
    obtain ⟨hcolumns, rfl⟩ := List.getElem?_eq_some_iff.1 hcell
    have hx' := (Int.toNat_lt hx).1 (h.rectangular _ (List.getElem_mem hrows) ▸ hcolumns)
    have hy' := (Int.toNat_lt hy).1 hrows
    have hcontains := h.contains_step_iff.2 ⟨⟨hx, hx'⟩, hy, hy'⟩
    -- neither coordinate is clamped, since the step does not leave the sides
    have hstep : w.agent.step d =
        ⟨.ofInt (w.agent.beside d).1, .ofInt (w.agent.beside d).2⟩ := by
      rw [Coord.step_eq_beside, clamp_eq_ofInt h.columns_lt ⟨hx, hx'⟩,
        clamp_eq_ofInt h.rows_lt ⟨hy, hy'⟩]
    refine ⟨hcontains, hstep, ?_, h.ordinary _ (List.getElem_mem hrows) _ (List.getElem_mem _)⟩
    -- within the sides a coordinate and its integer are the same
    have hcolumns_lt := h.columns_lt
    have hrows_lt := h.rows_lt
    rw [at?, if_pos (hstep ▸ hcontains), Int32.toInt_ofInt_of_le (by omega) (by omega),
      Int32.toInt_ofInt_of_le (by omega) (by omega), hfound]
  · cases hn

/-! ### Replacing a cell -/

/-- A cell of the far end is replaced. -/
theorem put?_of_at? {old : Cell} (h : w.at? c = .ok (some old)) :
    w.put? c cell = .ok (some (w.withCell c cell)) := by
  rw [put?, h]
  rfl

/-- Replacing a cell keeps the number of rows. -/
theorem length_rows_withCell (w : World) (c : Coord) (cell : Cell) :
    (w.withCell c cell).rows.length = w.rows.length :=
  List.length_modify ..

/-- Replacing a cell keeps the number of columns. -/
theorem columns_withCell (w : World) (c : Coord) (cell : Cell) :
    (w.withCell c cell).columns = w.columns := by
  rw [columns, columns, withCell]
  dsimp only
  -- columns are counted in the first row
  cases w.rows with
  | nil => rw [List.modify_nil]
  | cons row rows =>
    cases c.y.toInt.toNat with
    | zero => simp
    | succ y => simp

/-- A row with a replaced cell, or another row. -/
theorem mem_rows_withCell {row : List Cell} (h : row ∈ (w.withCell c cell).rows) :
    row ∈ w.rows ∨ ∃ old ∈ w.rows, row = old.set c.x.toInt.toNat cell := by
  obtain ⟨i, hi⟩ := List.mem_iff_getElem?.1 h
  rw [withCell, List.getElem?_modify] at hi
  obtain ⟨old, hold, heq⟩ := Option.map_eq_some_iff.1 hi
  -- the row is an old one, or an old one with one cell set
  have hmem := List.mem_of_getElem? hold
  split at heq
  · exact .inr ⟨old, hmem, heq.symm⟩
  · exact .inl (heq ▸ hmem)

/-- **Replacing a cell by an ordinary one** keeps a rectangle of ordinary cells. -/
theorem Rectangle.withCell (h : w.Rectangle) (c : Coord) (hcell : cell.Ordinary) :
    (w.withCell c cell).Rectangle where
  rectangular row hrow := by
    rw [columns_withCell]
    -- a row that is set keeps its length
    rcases mem_rows_withCell hrow with hrow | ⟨old, hold, rfl⟩
    · exact h.rectangular row hrow
    · rw [List.length_set, h.rectangular old hold]
  ordinary row hrow content hcontent := by
    rcases mem_rows_withCell hrow with hrow | ⟨old, hold, rfl⟩
    · exact h.ordinary row hrow content hcontent
    · -- the only cell that is new is the one that was set
      rcases List.mem_or_eq_of_mem_set hcontent with hcontent | rfl
      · exact h.ordinary old hold content hcontent
      · exact hcell

/-- **Replacing a cell by an ordinary one** keeps a world regular. -/
theorem Regular.withCell (h : w.Regular) (c : Coord) (hcell : cell.Ordinary) :
    (w.withCell c cell).Regular where
  rectangular := (h.rectangle.withCell c hcell).rectangular
  columns_lt := by
    rw [columns_withCell]
    exact h.columns_lt
  rows_lt := by
    rw [length_rows_withCell]
    exact h.rows_lt
  ordinary := (h.rectangle.withCell c hcell).ordinary

/-- Replacing a cell keeps the size. -/
theorem size_withCell (w : World) (c : Coord) (cell : Cell) :
    (w.withCell c cell).size = w.size := by
  have hcolumns := columns_withCell w c cell
  have hrows := length_rows_withCell w c cell
  rw [columns, columns] at hcolumns
  rw [size, size, hcolumns, hrows]

/-- Setting an entry of a row to what it is. -/
private theorem modify_set_self {rows : List (List Cell)} {x y : Nat}
    (h : rows[y]?.bind (·[x]?) = some cell) : rows.modify y (·.set x cell) = rows := by
  obtain ⟨row, hrow, hcell⟩ := Option.bind_eq_some_iff.1 h
  -- a row in which a cell is set to itself is the same row, and so is the grid
  have hset : row.set x cell = row := by
    obtain ⟨hx, rfl⟩ := List.getElem?_eq_some_iff.1 hcell
    exact List.set_getElem_self hx
  refine List.ext_getElem? fun i => ?_
  by_cases hi : y = i
  · rw [← hi, List.getElem?_modify_eq, hrow, Option.map_eq_map, Option.map_some, hset]
  · rw [List.getElem?_modify_ne _ _ hi]

/-- Replacing a cell by what it holds changes nothing. -/
theorem withCell_self (h : w.at? c = .ok (some cell)) : w.withCell c cell = w := by
  have hcell : (w.rows[c.y.toInt.toNat]?).bind (·[c.x.toInt.toNat]?) = some cell := by
    rw [at?] at h
    split at h
    · split at h
      · next found hfound =>
        cases h
        exact hfound
      · cases h
    · cases h
  rw [withCell, modify_set_self hcell]

end World

end GridScript
