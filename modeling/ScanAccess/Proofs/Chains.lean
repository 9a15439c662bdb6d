import ScanAccess.Action

/-! # Chains of actions

A chain ends as its parts do: its result is the first failure or the last value,
and what it leaves of a part of the state is what its parts leave of it.
-/

namespace ScanAccess

/-- The result of a stateless chain is the chain of the results. -/
theorem Logged.result_bind {α β : Type} (x : Logged α) (f : α → Logged β) :
    (x.bind f).result = x.result.bind fun value => (f value).result := by
  unfold Logged.bind
  cases x.result <;> rfl

namespace Action

variable {σ τ ρ α β : Type}

/-! ## Results and states -/

/-- The result of a chain is that of its second part, if the first has a value. -/
theorem result_bind_of_ok {x : Action σ α} {f : α → Action σ β} {state : σ} {value : α}
    (h : (x state).result = .ok value) :
    ((x >>= f) state).result = (f value (x state).state).result := by
  change (Action.bind x f state).result = _
  simp only [Action.bind, h]

theorem state_bind_of_ok {x : Action σ α} {f : α → Action σ β} {state : σ} {value : α}
    (h : (x state).result = .ok value) :
    ((x >>= f) state).state = (f value (x state).state).state := by
  change (Action.bind x f state).state = _
  simp only [Action.bind, h]

/-- A failure ends a chain where it stands. -/
theorem result_bind_of_error {x : Action σ α} {f : α → Action σ β} {state : σ}
    {failure : Failure} (h : (x state).result = .error failure) :
    ((x >>= f) state).result = .error failure := by
  change (Action.bind x f state).result = _
  simp only [Action.bind, h]

theorem state_bind_of_error {x : Action σ α} {f : α → Action σ β} {state : σ}
    {failure : Failure} (h : (x state).result = .error failure) :
    ((x >>= f) state).state = (x state).state := by
  change (Action.bind x f state).state = _
  simp only [Action.bind, h]

/-- An action whose value is only rewrapped ends as before, on the same state. -/
theorem result_bind_pure (x : Action σ α) (f : α → β) (state : σ) :
    ((x >>= fun value => (Pure.pure (f value) : Action σ β)) state).result =
      (x state).result.map f := by
  cases h : (x state).result with
  | error failure => rw [result_bind_of_error h]; rfl
  | ok value => rw [result_bind_of_ok h]; rfl

theorem state_bind_pure (x : Action σ α) (f : α → β) (state : σ) :
    ((x >>= fun value => (Pure.pure (f value) : Action σ β)) state).state = (x state).state := by
  cases h : (x state).result with
  | error failure => rw [state_bind_of_error h]
  | ok value => rw [state_bind_of_ok h]; rfl

/-! ## What an action leaves alone -/

/-- An action that leaves a part of the state as it was, whether it fails or not. -/
def Leaves (part : σ → τ) (x : Action σ α) : Prop :=
  ∀ state, part (x state).state = part state

namespace Leaves

variable {part : σ → τ} {x : Action σ α} {f : α → Action σ β}

theorem pure (value : α) : Leaves part (Pure.pure value : Action σ α) :=
  fun _ => rfl

theorem fail (failure : Failure) : Leaves part (Action.fail failure : Action σ α) :=
  fun _ => rfl

theorem get : Leaves part (Action.get : Action σ σ) :=
  fun _ => rfl

theorem lift (y : Logged α) : Leaves part (Action.lift y : Action σ α) :=
  fun _ => rfl

theorem bind (hx : Leaves part x) (hf : ∀ value, Leaves part (f value)) :
    Leaves part (x >>= f) := by
  intro state
  cases h : (x state).result with
  | error failure => rw [state_bind_of_error h, hx]
  | ok value => rw [state_bind_of_ok h, hf, hx]

/-- An action on another part of the state leaves this one. -/
theorem within {other : σ → ρ} {replace : σ → ρ → σ} (y : Action ρ α)
    (h : ∀ state value, part (replace state value) = part state) :
    Leaves part (Action.within other replace y) :=
  fun state => h state _

end Leaves

end Action

end ScanAccess
