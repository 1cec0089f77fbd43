import GridScript.Proofs.Sequencing

/-!
# Computations in tandem

Two computations on different states cannot be told apart from outside if they always have the same
result. They stay in tandem as long as a relation between their states is kept, whether they succeed
or fail.

* `SameResult`, `InTandem` — the relation, for results and for computations.
* `onState` — a result with a view of its state.
* `InTandem.bind` and the others — computations that are put together in the same way.
* `Matching`, `InStep` — the same with values and errors that need only be related, too.
* `Paired`, `Abreast` — the same from one relation to others, as triples have it.
-/

namespace GridScript

/-- A result that leaves another state behind. -/
def onState {ε ω ω' α : Type} (f : ω → ω') :
    EStateM.Result ε ω α → EStateM.Result ε ω' α
  | .ok a w => .ok a (f w)
  | .error e w => .error e (f w)

section Tandem

variable {ε ω ω' α β : Type} {S : ω → ω' → Prop}

/-- **The same result**, with states that are related. -/
inductive SameResult (S : ω → ω' → Prop) :
    EStateM.Result ε ω α → EStateM.Result ε ω' α → Prop
  | ok (a : α) {w : ω} {w' : ω'} (h : S w w') : SameResult S (.ok a w) (.ok a w')
  | error (e : ε) {w : ω} {w' : ω'} (h : S w w') : SameResult S (.error e w) (.error e w')

theorem SameResult.weaken {T : ω → ω' → Prop} {r : EStateM.Result ε ω α}
    {r' : EStateM.Result ε ω' α} (h : SameResult S r r') (hST : ∀ w w', S w w' → T w w') :
    SameResult T r r' := by
  cases h with
  | ok a hw => exact .ok a (hST _ _ hw)
  | error e hw => exact .error e (hST _ _ hw)

/-- Where one state is a view of the other, so is one result of the other. -/
theorem SameResult.eq_onState {f : ω' → ω} {r : EStateM.Result ε ω α}
    {r' : EStateM.Result ε ω' α} (h : SameResult (fun w w' => w = f w') r r') :
    r = onState f r' := by
  cases h with
  | ok a hw => rw [hw, onState]
  | error e hw => rw [hw, onState]

/-- **Computations in tandem**: from related states they have the same result. -/
def InTandem (S : ω → ω' → Prop) (x : EStateM ε ω α) (x' : EStateM ε ω' α) : Prop :=
  ∀ w w', S w w' → SameResult S (x w) (x' w')

theorem inTandem_pure (a : α) : InTandem S (pure a : EStateM ε ω α) (pure a) :=
  fun _ _ h => .ok a h

theorem inTandem_throw (e : ε) : InTandem S (throw e : EStateM ε ω α) (throw e) :=
  fun _ _ h => .error e h

theorem InTandem.bind {x : EStateM ε ω α} {x' : EStateM ε ω' α} {f : α → EStateM ε ω β}
    {f' : α → EStateM ε ω' β} (h : InTandem S x x') (hf : ∀ a, InTandem S (f a) (f' a)) :
    InTandem S (x >>= f) (x' >>= f') := by
  intro w w' hw
  have hfirst := h w w' hw
  rw [bind_apply, bind_apply]
  -- the two first parts have come to one value, or to one error, and then nothing follows
  generalize x w = r, x' w' = r' at hfirst ⊢
  cases hfirst with
  | ok a hv => exact hf a _ _ hv
  | error e hv => exact .error e hv

theorem InTandem.ite {c : Prop} [Decidable c] {x y : EStateM ε ω α} {x' y' : EStateM ε ω' α}
    (h : InTandem S x x') (h' : InTandem S y y') :
    InTandem S (if c then x else y) (if c then x' else y') := by
  by_cases hc : c
  · simpa only [if_pos hc] using h
  · simpa only [if_neg hc] using h'

end Tandem

section InStep

variable {ε ω α β : Type} {E : ε → ε → Prop} {S : ω → ω → Prop} {A : α → α → Prop}
variable {B : β → β → Prop}

/-- **Results that match**: two successes with values that are related, or two failures with errors
that are. The states are related in either case. -/
inductive Matching (E : ε → ε → Prop) (S : ω → ω → Prop) (A : α → α → Prop) :
    EStateM.Result ε ω α → EStateM.Result ε ω α → Prop
  | ok {a a' : α} {w w' : ω} (ha : A a a') (hw : S w w') : Matching E S A (.ok a w) (.ok a' w')
  | error {e e' : ε} {w w' : ω} (he : E e e') (hw : S w w') :
    Matching E S A (.error e w) (.error e' w')

/-- **Computations in step**: from related states they have results that match. -/
def InStep (E : ε → ε → Prop) (S : ω → ω → Prop) (A : α → α → Prop) (x x' : EStateM ε ω α) : Prop :=
  ∀ w w', S w w' → Matching E S A (x w) (x' w')

theorem inStep_pure {a a' : α} (h : A a a') : InStep E S A (pure a) (pure a') :=
  fun _ _ hw => .ok h hw

theorem inStep_throw {e e' : ε} (h : E e e') :
    InStep E S A (throw e : EStateM ε ω α) (throw e') :=
  fun _ _ hw => .error h hw

theorem InStep.bind {x x' : EStateM ε ω α} {f f' : α → EStateM ε ω β} (h : InStep E S A x x')
    (hf : ∀ a a', A a a' → InStep E S B (f a) (f' a')) : InStep E S B (x >>= f) (x' >>= f') := by
  intro w w' hw
  have hfirst := h w w' hw
  rw [bind_apply, bind_apply]
  generalize x w = r, x' w' = r' at hfirst ⊢
  cases hfirst with
  | ok ha hv => exact hf _ _ ha _ _ hv
  | error he hv => exact .error he hv

/-- The case in which the first values are the same. -/
theorem InStep.bind_eq {x x' : EStateM ε ω α} {f f' : α → EStateM ε ω β}
    (h : InStep E S Eq x x') (hf : ∀ a, InStep E S B (f a) (f' a)) :
    InStep E S B (x >>= f) (x' >>= f') :=
  h.bind fun a _ ha => ha ▸ hf a

/-- A result that is dropped need only be there. -/
theorem InStep.discard {x x' : EStateM ε ω α} (h : InStep E S A x x') :
    InStep E S Eq (Functor.discard x) (Functor.discard x') :=
  h.bind fun _ _ _ => inStep_pure rfl

theorem InStep.ite {c : Prop} [Decidable c] {x x' y y' : EStateM ε ω α} (h : InStep E S A x x')
    (h' : InStep E S A y y') : InStep E S A (if c then x else y) (if c then x' else y') := by
  by_cases hc : c
  · simpa only [if_pos hc] using h
  · simpa only [if_neg hc] using h'

end InStep

section Abreast

variable {ε ω α β : Type} {P P' : ω → ω → Prop} {Q Q' : α → α → ω → ω → Prop}
variable {R : β → β → ω → ω → Prop} {E : ε → ε → ω → ω → Prop} {x x' : EStateM ε ω α}

/-- **Results in pairs**: two successes of which `Q` holds, or two early ends of which `E` holds. -/
inductive Paired (Q : α → α → ω → ω → Prop) (E : ε → ε → ω → ω → Prop) :
    EStateM.Result ε ω α → EStateM.Result ε ω α → Prop
  | ok {a a' : α} {w w' : ω} (h : Q a a' w w') : Paired Q E (.ok a w) (.ok a' w')
  | error {e e' : ε} {w w' : ω} (h : E e e' w w') : Paired Q E (.error e w) (.error e' w')

theorem Paired.weaken {E' : ε → ε → ω → ω → Prop} {r r' : EStateM.Result ε ω α}
    (h : Paired Q E r r') (hQ : ∀ a a' w w', Q a a' w w' → Q' a a' w w')
    (hE : ∀ e e' w w', E e e' w w' → E' e e' w w') : Paired Q' E' r r' := by
  cases h with
  | ok h => exact .ok (hQ _ _ _ _ h)
  | error h => exact .error (hE _ _ _ _ h)

/-- **Computations side by side**: from states of which `P` holds, `Q` holds of both if they
succeed, and `E` if they end early. One does not succeed without the other. -/
def Abreast (P : ω → ω → Prop) (x x' : EStateM ε ω α) (Q : α → α → ω → ω → Prop)
    (E : ε → ε → ω → ω → Prop) : Prop :=
  ∀ w w', P w w' → Paired Q E (x w) (x' w')

theorem abreast_pure {a a' : α} (h : ∀ w w', P w w' → Q a a' w w') :
    Abreast P (pure a) (pure a') Q E :=
  fun w w' hw => .ok (h w w' hw)

theorem abreast_throw {e e' : ε} (h : ∀ w w', P w w' → E e e' w w') :
    Abreast P (throw e : EStateM ε ω α) (throw e') Q E :=
  fun w w' hw => .error (h w w' hw)

theorem Abreast.bind {f f' : α → EStateM ε ω β} (h : Abreast P x x' Q E)
    (hf : ∀ a a', Abreast (Q a a') (f a) (f' a') R E) : Abreast P (x >>= f) (x' >>= f') R E := by
  intro w w' hw
  have hfirst := h w w' hw
  rw [bind_apply, bind_apply]
  generalize x w = r, x' w' = r' at hfirst ⊢
  cases hfirst with
  | ok hv => exact hf _ _ _ _ hv
  | error he => exact .error he

/-- **The same value**, and states of which `T` holds. -/
def Agreeing (T : α → ω → ω → Prop) (a a' : α) (w w' : ω) : Prop := a = a' ∧ T a w w'

/-- The case in which the first values are the same. -/
theorem Abreast.bind_eq {T : α → ω → ω → Prop} {f f' : α → EStateM ε ω β}
    (h : Abreast P x x' (Agreeing T) E) (hf : ∀ a, Abreast (T a) (f a) (f' a) R E) :
    Abreast P (x >>= f) (x' >>= f') R E := by
  refine h.bind fun a a' w w' hw => ?_
  obtain ⟨rfl, hw⟩ := hw
  exact hf a w w' hw

/-- A result that is dropped need only be there. -/
theorem Abreast.discard {T : ω → ω → Prop} (h : Abreast P x x' (Agreeing fun _ => T) E) :
    Abreast P (Functor.discard x) (Functor.discard x') (Agreeing fun _ => T) E :=
  h.bind_eq fun _ => abreast_pure fun _ _ hw => ⟨rfl, hw⟩

/-- Either choice may rely on what it is chosen for. -/
theorem Abreast.ite {c : Prop} [Decidable c] {y y' : EStateM ε ω α}
    (h : c → Abreast P x x' Q E) (h' : ¬ c → Abreast P y y' Q E) :
    Abreast P (if c then x else y) (if c then x' else y') Q E := by
  by_cases hc : c
  · simpa only [if_pos hc] using h hc
  · simpa only [if_neg hc] using h' hc

theorem Abreast.weaken (h : Abreast P x x' Q E) (hP : ∀ w w', P' w w' → P w w')
    (hQ : ∀ a a' w w', Q a a' w w' → Q' a a' w w') : Abreast P' x x' Q' E :=
  fun w w' hw => (h w w' (hP w w' hw)).weaken hQ fun _ _ _ _ he => he

/-- What holds of both holds of the first one. -/
theorem Paired.settles {w : ω} {r' : EStateM.Result ε ω α} {T : α → ω → Prop} {F : ε → ω → Prop}
    (h : Paired Q E (x w) r') (hQ : ∀ a a' w w', Q a a' w w' → T a w)
    (hE : ∀ e e' w w', E e e' w w' → F e w) : Settles x w T F := by
  rw [Settles]
  generalize x w = r at h ⊢
  cases h with
  | ok h => exact hQ _ _ _ _ h
  | error h => exact hE _ _ _ _ h

end Abreast

end GridScript
