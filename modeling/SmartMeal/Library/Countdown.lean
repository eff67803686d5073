/-
Runs that spend a measure.

Where every step takes exactly one unit of a measure, a run is as long as what it has
spent, and a machine that is never stuck while something is left can be run until
nothing is.
-/

import SmartMeal.Library.Run

namespace PartialStep

variable {State Action : Type} {step : Transition State Action}

def Spends (step : Transition State Action) (measure : State → Nat) : Prop :=
  ∀ state action next, step state action = some next → measure state = measure next + 1

theorem Spends.length_add {measure : State → Nat} (spends : Spends step measure)
    {state reached : State} {actions : List Action}
    (arrived : run step state actions = some reached) :
    actions.length + measure reached = measure state := by
  induction actions generalizing state with
  | nil =>
      cases Option.some.inj arrived
      exact Nat.zero_add _
  | cons action rest ih =>
      cases taken : step state action with
      | none => rw [run_cons, taken] at arrived; cases arrived
      | some next =>
          rw [run_cons_of_step rest taken] at arrived
          have later := ih arrived
          have here := spends state action next taken
          rw [List.length_cons]
          omega

theorem Spends.exists_run {measure : State → Nat} (spends : Spends step measure)
    (invariant : State → Prop)
    (kept : ∀ state action next, invariant state → step state action = some next →
      invariant next)
    (enabled : ∀ state, invariant state → measure state ≠ 0 →
      ∃ action next, step state action = some next)
    {state : State} (holds : invariant state) :
    ∃ actions reached, run step state actions = some reached ∧ invariant reached ∧
      measure reached = 0 := by
  generalize amount : measure state = budget
  induction budget generalizing state with
  | zero => exact ⟨[], state, rfl, holds, amount⟩
  | succ budget ih =>
      have remains : measure state ≠ 0 := by omega
      obtain ⟨action, next, taken⟩ := enabled state holds remains
      have spent := spends state action next taken
      have less : measure next = budget := by omega
      obtain ⟨rest, reached, arrived, final⟩ := ih (kept state action next holds taken) less
      refine ⟨action :: rest, reached, ?_, final⟩
      rw [run_cons_of_step rest taken]
      exact arrived

structure Descends (step : Transition State Action) (invariant : State → Prop)
    (measure : State → Nat) : Prop where
  kept : ∀ state action next, invariant state → step state action = some next → invariant next
  lowers : ∀ state action next, invariant state → step state action = some next →
    measure next < measure state

variable {invariant : State → Prop} {measure : State → Nat}

private theorem Descends.length_add_le (descends : Descends step invariant measure)
    {state reached : State} {actions : List Action} (holds : invariant state)
    (arrived : run step state actions = some reached) :
    actions.length + measure reached ≤ measure state := by
  induction actions generalizing state with
  | nil =>
      cases Option.some.inj arrived
      exact Nat.le_of_eq (Nat.zero_add _)
  | cons action rest ih =>
      cases taken : step state action with
      | none => rw [run_cons, taken] at arrived; cases arrived
      | some next =>
          rw [run_cons_of_step rest taken] at arrived
          have later := ih (descends.kept state action next holds taken) arrived
          have here := descends.lowers state action next holds taken
          rw [List.length_cons]
          omega

private theorem Descends.exists_run (descends : Descends step invariant measure)
    (enabled : ∀ state, invariant state → measure state ≠ 0 →
      ∃ action next, step state action = some next)
    {state : State} (holds : invariant state) :
    ∃ actions reached, run step state actions = some reached ∧ invariant reached ∧
      measure reached = 0 := by
  obtain ⟨budget, within⟩ : ∃ budget, measure state ≤ budget := ⟨_, Nat.le_refl _⟩
  induction budget generalizing state with
  | zero => exact ⟨[], state, rfl, holds, Nat.le_zero.mp within⟩
  | succ budget ih =>
      by_cases done : measure state = 0
      · exact ⟨[], state, rfl, holds, done⟩
      · obtain ⟨action, next, taken⟩ := enabled state holds done
        have less := descends.lowers state action next holds taken
        obtain ⟨rest, reached, arrived, final⟩ :=
          ih (descends.kept state action next holds taken) (by omega)
        refine ⟨action :: rest, reached, ?_, final⟩
        rw [run_cons_of_step rest taken]
        exact arrived

/-- From a state that meets the invariant, every run is bounded by the measure, and however
far it has come it can be continued until nothing is left. -/
theorem Descends.finishes (descends : Descends step invariant measure)
    (enabled : ∀ state, invariant state → measure state ≠ 0 →
      ∃ action next, step state action = some next)
    {state reached : State} {actions : List Action} (holds : invariant state)
    (arrived : run step state actions = some reached) :
    actions.length ≤ measure state ∧
      ∃ rest last, run step reached rest = some last ∧ invariant last ∧ measure last = 0 := by
  have short := descends.length_add_le holds arrived
  constructor
  · omega
  · exact descends.exists_run enabled (run_invariant invariant descends.kept holds arrived)

end PartialStep
