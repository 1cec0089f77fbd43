/-!
# Computations one after the other

Readings, runs and actions are all computations on a state that may end early. What is used of that
again and again is what a success of several steps says about each of them, and when two
computations cannot be told apart.

* `bind_eq_ok_iff` — a sequence succeeds exactly if its first part does and the rest does from where
  that leaves off.
* `bind_congr_of_ok` — only the results that the first part can have matter to the rest.
* `Settles` — what holds of both ends of a computation, with the rule for sequences.
* `Keeps` — what holds of both ends if it holds of the beginning, and how a computation ends early.
-/

namespace GridScript

section Sequencing

variable {ε σ α β : Type}

/-- A sequence, as what becomes of the result of its first part. -/
theorem bind_apply (x : EStateM ε σ α) (f : α → EStateM ε σ β) (s : σ) :
    (x >>= f) s = match x s with
      | .ok a s' => f a s'
      | .error e s' => .error e s' := rfl

/-- A result that is dropped. -/
theorem discard_apply (x : EStateM ε σ α) (s : σ) :
    (discard x) s = match x s with
      | .ok _ s' => .ok () s'
      | .error e s' => .error e s' := rfl

@[simp] theorem pure_apply (a : α) (s : σ) : (pure a : EStateM ε σ α) s = .ok a s := rfl

theorem get_apply (s : σ) : (get : EStateM ε σ σ) s = .ok s s := rfl

/-- **Inverting a sequence.** -/
theorem bind_eq_ok_iff {x : EStateM ε σ α} {f : α → EStateM ε σ β} {s s'' : σ} {b : β} :
    (x >>= f) s = .ok b s'' ↔ ∃ a s', x s = .ok a s' ∧ f a s' = .ok b s'' := by
  rw [bind_apply]
  cases hx : x s with
  | ok a s' =>
    constructor
    · intro h
      exact ⟨a, s', rfl, h⟩
    · rintro ⟨a', t, heq, h⟩
      cases heq
      exact h
  | error e s' => simp

/-- Inverting a dropped result. -/
theorem discard_eq_ok_iff {x : EStateM ε σ α} {s s' : σ} {u : PUnit} :
    (discard x) s = .ok u s' ↔ ∃ a, x s = .ok a s' := by
  rw [discard_apply]
  cases x s <;> simp

/-- The rest of a sequence, once its first part is known to succeed. -/
theorem bind_of_ok {x : EStateM ε σ α} {s s' : σ} {a : α} (h : x s = .ok a s')
    (f : α → EStateM ε σ β) : (x >>= f) s = f a s' := by
  rw [bind_apply, h]

/-- The rest of a sequence does not happen, once its first part is known to end early. -/
theorem bind_of_error {x : EStateM ε σ α} {s s' : σ} {e : ε} (h : x s = .error e s')
    (f : α → EStateM ε σ β) : (x >>= f) s = .error e s' := by
  rw [bind_apply, h]

/-- **Sequences that agree.** They need only agree on what the first part can lead to. -/
theorem bind_congr_of_ok {x : EStateM ε σ α} {f g : α → EStateM ε σ β} {s : σ}
    (h : ∀ a s', x s = .ok a s' → f a s' = g a s') : (x >>= f) s = (x >>= g) s := by
  rw [bind_apply, bind_apply]
  cases hx : x s with
  | ok a s' => exact h a s' hx
  | error e s' => rfl

end Sequencing

section Settling

variable {ε σ α β : Type} {x : EStateM ε σ α} {s : σ} {Q Q' : α → σ → Prop} {E E' : ε → σ → Prop}

/-- **Both ends of a computation**: `Q` where it succeeds, and `E` where it ends early, each of the
state that is left behind. -/
def Settles (x : EStateM ε σ α) (s : σ) (Q : α → σ → Prop) (E : ε → σ → Prop) : Prop :=
  match x s with
  | .ok a s' => Q a s'
  | .error e s' => E e s'

theorem settles_pure {a : α} (h : Q a s) : Settles (pure a : EStateM ε σ α) s Q E := h

theorem settles_throw {e : ε} (h : E e s) : Settles (throw e : EStateM ε σ α) s Q E := h

/-- **One computation after another.** The second one may rely on the success of the first one only.
-/
theorem Settles.bind {f : α → EStateM ε σ β} {R : β → σ → Prop} (h : Settles x s Q E)
    (hf : ∀ a s', Q a s' → Settles (f a) s' R E) : Settles (x >>= f) s R E := by
  rw [Settles] at h ⊢
  -- the second part begins where the first one has ended
  cases hx : x s with
  | ok a s' =>
    rw [hx] at h
    rw [bind_of_ok hx]
    exact hf a s' h
  | error e s' =>
    rw [hx] at h
    rw [bind_of_error hx]
    exact h

theorem Settles.weaken (h : Settles x s Q E) (hQ : ∀ a s', Q a s' → Q' a s')
    (hE : ∀ e s', E e s' → E' e s') : Settles x s Q' E' := by
  rw [Settles] at h ⊢
  split at h
  · exact hQ _ _ h
  · exact hE _ _ h

/-- What holds of the end if the computation succeeds. -/
theorem Settles.of_ok {a : α} {s' : σ} (h : Settles x s Q E) (hx : x s = .ok a s') : Q a s' := by
  rw [Settles, hx] at h
  exact h

/-- What holds of the end if it does not. -/
theorem Settles.of_error {e : ε} {s' : σ} (h : Settles x s Q E) (hx : x s = .error e s') :
    E e s' := by
  rw [Settles, hx] at h
  exact h

end Settling

section Keeping

variable {ε σ α β : Type} {I : σ → Prop} {E : ε → Prop} {x : EStateM ε σ α}

/-- **A computation that keeps something true** of its state, whether it succeeds or ends early, and
that ends early in no way but those of which `E` holds. -/
def Keeps (I : σ → Prop) (E : ε → Prop) (x : EStateM ε σ α) : Prop :=
  ∀ s, I s → Settles x s (fun _ => I) fun e s' => I s' ∧ E e

theorem keeps_pure (a : α) : Keeps I E (pure a : EStateM ε σ α) := fun _ h => h

theorem keeps_throw {e : ε} (he : E e) : Keeps I E (throw e : EStateM ε σ α) := fun _ h => ⟨h, he⟩

theorem Keeps.bind {f : α → EStateM ε σ β} (h : Keeps I E x) (hf : ∀ a, Keeps I E (f a)) :
    Keeps I E (x >>= f) :=
  fun s hs => (h s hs).bind fun a s' hs' => hf a s' hs'

theorem Keeps.discard (h : Keeps I E x) : Keeps I E (Functor.discard x) :=
  h.bind fun _ => keeps_pure _

theorem Keeps.ite {c : Prop} [Decidable c] {y : EStateM ε σ α} (h : Keeps I E x)
    (h' : Keeps I E y) : Keeps I E (if c then x else y) := by
  by_cases hc : c
  · simpa only [if_pos hc] using h
  · simpa only [if_neg hc] using h'

end Keeping

end GridScript
