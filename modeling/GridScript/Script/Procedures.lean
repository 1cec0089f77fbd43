/-!
# Procedure tables

A procedure table knows where the body of each declared procedure begins. A later declaration of a
name replaces the earlier one.

* `Procedures.insert`, `Procedures.get?`: `get?_insert` ties them together.
* `Procedures.names` lists the declared names in the order of their code points.
-/

namespace GridScript

/-- **A procedure table**, with places of type `α`. -/
structure Procedures (α : Type) where
  /-- The declared names, the last one first, each with its place. -/
  entries : List (String × α)
  /-- No name is in it twice. -/
  nodup : (entries.map Prod.fst).Nodup

namespace Procedures

variable {α : Type}

/-- The table without procedures. -/
def empty : Procedures α := ⟨[], by simp⟩

/-- **The place of the body of a procedure.** -/
def get? (ps : Procedures α) (name : String) : Option α :=
  ps.entries.lookup name

/-- **The table with one more declaration**, in place of an earlier one of the same name. -/
def insert (ps : Procedures α) (name : String) (body : α) : Procedures α :=
  { entries := (name, body) :: ps.entries.filter (·.1 != name)
    nodup := by
      have kept := ps.nodup.sublist ((List.filter_sublist (p := (·.1 != name))).map Prod.fst)
      simpa using kept }

/-- `true` if the name is declared. -/
def contains (ps : Procedures α) (name : String) : Bool :=
  (ps.get? name).isSome

/-- The number of declared names. -/
def size (ps : Procedures α) : Nat := ps.entries.length

/-- **The declared names**, in the order of their code points, which is also that of their bytes. -/
def names (ps : Procedures α) : List String :=
  (ps.entries.map (·.1)).mergeSort fun a b => decide (a ≤ b)

/-- Dropping the entries of one name leaves every other name where it was. -/
private theorem lookup_filter_ne {name other : String} (h : other ≠ name)
    (l : List (String × α)) : (l.filter (·.1 != name)).lookup other = l.lookup other := by
  induction l with
  | nil => rfl
  | cons e l ih =>
    obtain ⟨key, value⟩ := e
    by_cases hkey : key = name
    · -- The entry is dropped, and `other` would not have been found in it.
      have hother : (other == key) = false := beq_false_of_ne fun ho => h (ho.trans hkey)
      rw [List.filter_cons_of_neg (by simp [hkey]), List.lookup_cons, hother]
      exact ih
    · rw [List.filter_cons_of_pos (by simp [hkey]), List.lookup_cons, List.lookup_cons]
      rw [ih]

/-- **Declaring a name sets its place and no other.** -/
theorem get?_insert (ps : Procedures α) (name other : String) (body : α) :
    (ps.insert name body).get? other = if other = name then some body else ps.get? other := by
  unfold get? insert
  by_cases h : other = name
  · rw [if_pos h, h, List.lookup_cons_self]
  · rw [if_neg h, List.lookup_cons, beq_false_of_ne h]
    exact lookup_filter_ne h ps.entries

end Procedures

end GridScript
