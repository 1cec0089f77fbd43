import GridScript.Abort
import GridScript.Proofs.Sequencing
import Mathlib.Data.List.Basic

/-!
# Operations with bounds

Numbers of a machine have a largest one and none below 0, and tables and slices have an end. An
operation on them has a result only within these bounds; beyond them it breaks off, for whatever
reason is given. What is computed with such operations and never breaks off has stayed within the
bounds all the time.

* `Bounded.add`, `Bounded.sub`, `Bounded.rem` — on numbers.
* `Bounded.item`, `Bounded.slice` — on tables.
* `Bounded.Within` — a computation that is the same with such operations, with one rule for each way
  in which computations are put together.
-/

namespace GridScript

namespace Bounded

variable (broken : Abort) {α : Type}

/-- **A sum** of numbers below a bound. -/
def add (bound a b : Nat) : Except Abort Nat :=
  if a + b < bound then .ok (a + b) else .error broken

/-- **A difference** of numbers from 0 on. -/
def sub (a b : Nat) : Except Abort Nat :=
  if b ≤ a then .ok (a - b) else .error broken

/-- **A remainder.** There is none by 0. -/
def rem (a b : Nat) : Except Abort Nat :=
  if b = 0 then .error broken else .ok (a % b)

/-- **An entry of a table.** -/
def item (table : List α) (i : Nat) : Except Abort α :=
  match table[i]? with
  | some a => .ok a
  | none => .error broken

/-- **A part of a table**, from a start to an end, which come in this order and lie in it. -/
def slice (table : List α) (start stop : Nat) : Except Abort (List α) :=
  if start ≤ stop ∧ stop ≤ table.length then .ok ((table.take stop).drop start) else .error broken

variable {broken}

theorem add_of_lt {bound a b : Nat} (h : a + b < bound) : add broken bound a b = .ok (a + b) :=
  if_pos h

theorem sub_of_le {a b : Nat} (h : b ≤ a) : sub broken a b = .ok (a - b) :=
  if_pos h

theorem item_of_getElem? {table : List α} {i : Nat} {a : α} (h : table[i]? = some a) :
    item broken table i = .ok a := by
  rw [item, h]

/-- A part of a table is what stands between what is before it and what is behind it. -/
theorem slice_append (broken : Abort) (before part behind : List α) :
    slice broken (before ++ part ++ behind) before.length (before.length + part.length) =
      .ok part := by
  -- the part is what is left behind the first cut, up to the second one
  have hpart : ((before ++ part ++ behind).take (before.length + part.length)).drop
      before.length = part := by
    rw [← List.length_append, List.take_left, List.drop_left]
  -- both cuts are inside, since they are lengths of what the table is put together from
  have hbounds : before.length ≤ before.length + part.length ∧
      before.length + part.length ≤ (before ++ part ++ behind).length := by
    simp only [List.length_append]
    omega
  rw [slice, if_pos hbounds, hpart]

/-- Offsets have 32 bits or more. -/
theorem word_sizes : 2 ≤ UInt32.size ∧ UInt32.size ≤ USize.size :=
  ⟨by decide, USize.le_size⟩

/-! ### Computations -/

section Within

variable {ε σ β : Type} {I : σ → Prop} {E : ε → σ → Prop}

/-- **A computation within bounds**: with bounds it is the same. Begun where `I` holds, it succeeds
where `I` holds, and it ends early only as `E` allows. -/
structure Within (I : σ → Prop) (E : ε → σ → Prop) (bounded x : EStateM ε σ α) : Prop where
  same : bounded = x
  settles : ∀ s, I s → Settles x s (fun _ => I) E

theorem within_pure (a : α) : Within I E (pure a : EStateM ε σ α) (pure a) :=
  ⟨rfl, fun _ hs => hs⟩

theorem within_throw {e : ε} (h : ∀ s, I s → E e s) :
    Within I E (throw e : EStateM ε σ α) (throw e) :=
  ⟨rfl, h⟩

theorem Within.bind {bounded x : EStateM ε σ α} {f f' : α → EStateM ε σ β}
    (h : Within I E bounded x) (hf : ∀ a, Within I E (f a) (f' a)) :
    Within I E (bounded >>= f) (x >>= f') := by
  -- each part keeps what holds, and each is the same with bounds
  refine ⟨?_, fun s hs => (h.settles s hs).bind fun a s' hs' => (hf a).settles s' hs'⟩
  rw [h.same, funext fun a => (hf a).same]

theorem Within.ite {c : Prop} [Decidable c] {bounded x bounded' x' : EStateM ε σ α}
    (h : c → Within I E bounded x) (h' : ¬ c → Within I E bounded' x') :
    Within I E (if c then bounded else bounded') (if c then x else x') := by
  by_cases hc : c
  · simpa only [if_pos hc] using h hc
  · simpa only [if_neg hc] using h' hc

end Within

end Bounded

end GridScript
