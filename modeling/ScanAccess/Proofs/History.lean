import ScanAccess.Action

/-! # Histories of runs

A run takes steps one after the other, each on the state that the one before
left, whether it succeeded or not. Its history lists the steps with their
results, oldest first.
-/

namespace ScanAccess.Action

variable {ι σ α : Type}

/-- The state that steps leave. -/
def stateAfter (act : ι → Action σ α) : List ι → σ → σ
  | [], state => state
  | step :: rest, state => stateAfter act rest (act step state).state

/-- The steps of a run, each with its result. -/
def history (act : ι → Action σ α) (steps : List ι) (state : σ) : List (ι × Except Failure α) :=
  steps.zip ((runEach (steps.map act) state).map fun outcome => outcome.result)

variable (act : ι → Action σ α)

@[simp] theorem history_nil (state : σ) : history act [] state = [] := rfl

@[simp] theorem history_cons (step : ι) (rest : List ι) (state : σ) :
    history act (step :: rest) state =
      (step, (act step state).result) :: history act rest (act step state).state := rfl

theorem stateAfter_append (first second : List ι) (state : σ) :
    stateAfter act (first ++ second) state =
      stateAfter act second (stateAfter act first state) := by
  induction first generalizing state with
  | nil => rfl
  | cons step rest ih => exact ih (act step state).state

/-- An entry of a history is a step of the run with what it came to on some state. -/
theorem exists_of_mem_history {steps : List ι} {state : σ} {entry : ι × Except Failure α}
    (h : entry ∈ history act steps state) :
    entry.1 ∈ steps ∧ ∃ reached, entry.2 = (act entry.1 reached).result := by
  induction steps generalizing state with
  | nil => cases h
  | cons step rest ih =>
      rw [history_cons] at h
      rcases List.mem_cons.mp h with rfl | hrest
      · exact ⟨List.mem_cons_self, state, rfl⟩
      · obtain ⟨hmem, hreached⟩ := ih hrest
        exact ⟨List.mem_cons_of_mem _ hmem, hreached⟩

/-- Where a history can be cut, its run can be cut: what stands before an entry is the history
of a shorter run, the entry is the next step of it, and the rest follows from there. -/
theorem exists_of_history_eq {steps : List ι} {state : σ}
    {past future : List (ι × Except Failure α)} {entry : ι × Except Failure α}
    (h : history act steps state = past ++ entry :: future) :
    ∃ before step after, steps = before ++ step :: after ∧
      past = history act before state ∧
      entry = (step, (act step (stateAfter act before state)).result) ∧
      future = history act after (act step (stateAfter act before state)).state := by
  induction past generalizing steps state with
  | nil =>
      cases steps with
      | nil => simp at h
      | cons step rest =>
          rw [history_cons, List.nil_append, List.cons.injEq] at h
          exact ⟨[], step, rest, rfl, rfl, h.1.symm, h.2.symm⟩
  | cons first past ih =>
      cases steps with
      | nil => simp at h
      | cons step rest =>
          rw [history_cons, List.cons_append, List.cons.injEq] at h
          obtain ⟨before, next, after, rfl, rfl, hentry, hfuture⟩ := ih h.2
          refine ⟨step :: before, next, after, rfl, ?_, hentry, hfuture⟩
          rw [history_cons, h.1]

/-- Two entries of a history are two steps of its run, and what stands between them is the history
of the steps between, on the state that the first of the two left. -/
theorem exists_of_history_eq_between {steps : List ι} {state : σ}
    {past between future : List (ι × Except Failure α)} {first second : ι × Except Failure α}
    (h : history act steps state = past ++ first :: between ++ second :: future) :
    ∃ before one middle two after, steps = before ++ one :: middle ++ two :: after ∧
      past = history act before state ∧
      first = (one, (act one (stateAfter act before state)).result) ∧
      between = history act middle (act one (stateAfter act before state)).state ∧
      second = (two, (act two
        (stateAfter act middle (act one (stateAfter act before state)).state)).result) := by
  rw [List.append_assoc, List.cons_append] at h
  obtain ⟨before, one, rest, rfl, rfl, rfl, hrest⟩ := exists_of_history_eq act h
  obtain ⟨middle, two, after, rfl, rfl, rfl, -⟩ := exists_of_history_eq act hrest.symm
  exact ⟨before, one, middle, two, after, by simp, rfl, rfl, rfl, rfl⟩

end ScanAccess.Action
