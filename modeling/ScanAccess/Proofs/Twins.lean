import ScanAccess.Action

/-! # Twin actions

Twins are two actions that nobody can tell apart by what they log or by whether and
why they fail, as long as they start on states that belong together. They leave states
that belong together, so that runs of twins can be compared step by step.
-/

namespace ScanAccess

/-- Results that end alike: with values that belong together, or with the same failure. -/
inductive EndAlike {α β : Type} (values : α → β → Prop) :
    Except Failure α → Except Failure β → Prop where
  | ok {value : α} {other : β} (h : values value other) : EndAlike values (.ok value) (.ok other)
  | error (failure : Failure) : EndAlike values (.error failure) (.error failure)

theorem EndAlike.refl {α : Type} (result : Except Failure α) : EndAlike Eq result result := by
  cases result with
  | ok value => exact .ok rfl
  | error failure => exact .error failure

theorem EndAlike.eq {α : Type} {result other : Except Failure α} (h : EndAlike Eq result other) :
    result = other := by
  cases h with
  | ok hvalue => rw [hvalue]
  | error failure => rfl

/-- A result ends as the one that it becomes by a change of the value. -/
theorem EndAlike.map {α β : Type} (f : α → β) (result : Except Failure α) :
    EndAlike (fun value other => other = f value) result (result.map f) := by
  cases result with
  | ok value => exact .ok rfl
  | error failure => exact .error failure

variable {σ τ α β : Type}

/-- Outcomes with the same events, results that end alike, and states that belong together. -/
structure Outcome.Alike (states : σ → τ → Prop) (values : α → β → Prop) (first : Outcome σ α)
    (second : Outcome τ β) : Prop where
  events : second.events = first.events
  result : EndAlike values first.result second.result
  state : states first.state second.state

/-- The failure with which an action ended, if it failed. -/
def Outcome.failure? (outcome : Outcome σ α) : Option Failure :=
  match outcome.result with
  | .ok _ => none
  | .error failure => some failure

theorem Outcome.Alike.failure?_eq {states : σ → τ → Prop} {values : α → β → Prop}
    {first : Outcome σ α} {second : Outcome τ β} (h : first.Alike states values second) :
    second.failure? = first.failure? := by
  obtain ⟨⟨result, events⟩, left⟩ := first
  obtain ⟨⟨otherResult, otherEvents⟩, otherLeft⟩ := second
  have hresult : EndAlike values result otherResult := h.result
  cases hresult with
  | ok _ => rfl
  | error failure => rfl

namespace Action

/-- Two actions whose outcomes are alike wherever their states belong together. -/
def Twins (states : σ → τ → Prop) (values : α → β → Prop) (x : Action σ α) (y : Action τ β) :
    Prop :=
  ∀ state other, states state other → (x state).Alike states values (y other)

namespace Twins

variable {states : σ → τ → Prop} {values : α → β → Prop} {x : Action σ α} {y : Action τ β}

theorem pure {value : α} {other : β} (h : values value other) :
    Twins states values (Pure.pure value : Action σ α) (Pure.pure other : Action τ β) :=
  fun _ _ hstates => ⟨rfl, .ok h, hstates⟩

theorem fail (failure : Failure) :
    Twins states values (Action.fail failure : Action σ α) (Action.fail failure : Action τ β) :=
  fun _ _ hstates => ⟨rfl, .error failure, hstates⟩

theorem lift (result : Logged α) :
    Twins states Eq (Action.lift result : Action σ α) (Action.lift result : Action τ α) :=
  fun _ _ hstates => ⟨rfl, .refl result.result, hstates⟩

theorem get : Twins states states (Action.get : Action σ σ) (Action.get : Action τ τ) :=
  fun _ _ hstates => ⟨rfl, .ok hstates, hstates⟩

theorem modify {f : σ → σ} {g : τ → τ}
    (h : ∀ state other, states state other → states (f state) (g other)) :
    Twins states Eq (Action.modify f) (Action.modify g) :=
  fun state other hstates => ⟨rfl, .ok rfl, h state other hstates⟩

theorem bind {α' β' : Type} {values' : α' → β' → Prop} {f : α → Action σ α'} {g : β → Action τ β'}
    (h : Twins states values x y)
    (hnext : ∀ value other, values value other → Twins states values' (f value) (g other)) :
    Twins states values' (x >>= f) (y >>= g) := by
  intro state other hstates
  obtain ⟨hevents, hresult, hleft⟩ := h state other hstates
  change (Action.bind x f state).Alike states values' (Action.bind y g other)
  unfold Action.bind
  generalize x state = first at *
  generalize y other = second at *
  obtain ⟨⟨result, events⟩, left⟩ := first
  obtain ⟨⟨otherResult, otherEvents⟩, otherLeft⟩ := second
  cases hresult with
  | error failure => exact ⟨hevents, .error failure, hleft⟩
  | ok hvalues =>
      obtain ⟨hlater, hend, hlast⟩ := hnext _ _ hvalues left otherLeft hleft
      exact ⟨congr (congrArg HAppend.hAppend hevents) hlater, hend, hlast⟩

/-- What is made of the same values in the end is the same. -/
theorem map {y : Action τ α} {α' : Type} (h : Twins states Eq x y) (f : α → α') :
    Twins states Eq (x >>= fun value => (Pure.pure (f value) : Action σ α'))
      (y >>= fun value => (Pure.pure (f value) : Action τ α')) := by
  refine h.bind ?_
  rintro value - rfl
  exact Twins.pure rfl

/-- What is made of the values in the end does not matter for the comparison. -/
theorem bind_pure {α' β' : Type} (h : Twins states values x y) (f : α → α') (g : β → β') :
    Twins states (fun _ _ => True) (x >>= fun value => (Pure.pure (f value) : Action σ α'))
      (y >>= fun value => (Pure.pure (g value) : Action τ β')) :=
  h.bind fun _ _ _ => Twins.pure trivial

/-- Twins on parts of larger states are twins on these. -/
theorem within {σ' τ' : Type} {whole : σ' → τ' → Prop} {part : σ' → σ} {replace : σ' → σ → σ'}
    {part' : τ' → τ} {replace' : τ' → τ → τ'} (h : Twins states values x y)
    (hpart : ∀ state other, whole state other → states (part state) (part' other))
    (hreplace : ∀ state other value value', whole state other → states value value' →
      whole (replace state value) (replace' other value')) :
    Twins whole values (Action.within part replace x) (Action.within part' replace' y) := by
  intro state other hwhole
  obtain ⟨hevents, hresult, hleft⟩ := h _ _ (hpart state other hwhole)
  exact ⟨hevents, hresult, hreplace state other _ _ hwhole hleft⟩

end Twins

end Action

end ScanAccess
