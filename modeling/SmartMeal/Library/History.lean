/-
History variables of a partial step function.

A history is a list in the state to which a step appends at most one entry.  When the
history of a reached state is split at one of its entries, the run is split with it:
it passed through a state with exactly the earlier entries, and its next step appended
the entry.
-/

import SmartMeal.Library.Run

namespace PartialStep

variable {State Action Entry : Type} {step : Transition State Action}

def Records (step : Transition State Action) (history : State → List Entry) : Prop :=
  ∀ state action next, step state action = some next →
    history next = history state ∨ ∃ entry, history next = history state ++ [entry]

variable {history : State → List Entry}

private theorem Records.prefix_step (records : Records step history) {state next : State}
    {action : Action} (taken : step state action = some next) :
    history state <+: history next := by
  rcases records state action next taken with kept | ⟨entry, appended⟩
  · exact ⟨[], by rw [kept, List.append_nil]⟩
  · exact ⟨[entry], appended.symm⟩

theorem Records.prefix_run (records : Records step history) {state reached : State}
    {actions : List Action} (arrived : run step state actions = some reached) :
    history state <+: history reached := by
  refine run_invariant (fun later => history state <+: history later) ?_ (List.prefix_refl _)
    arrived
  intro later action next here taken
  exact here.trans (records.prefix_step taken)

private theorem Records.appends (records : Records step history) {state next : State}
    {action : Action}
    {done later : List Entry} {entry : Entry} (taken : step state action = some next)
    (before : history state <+: done) (after : history next <+: done ++ entry :: later)
    (passed : ¬ history next <+: done) :
    history state = done ∧ history next = done ++ [entry] := by
  rcases records state action next taken with kept | ⟨appended, grown⟩
  · rw [kept] at passed
    exact absurd before passed
  · have reaches : done <+: history next :=
      (List.prefix_or_prefix_of_prefix (List.prefix_append done (entry :: later)) after).resolve_right
        passed
    rw [grown] at reaches passed after
    rcases List.prefix_concat_iff.mp reaches with whole | within
    · rw [whole] at passed
      exact absurd (List.prefix_refl _) passed
    · have same : history state = done := before.eq_of_length_le within.length_le
      rw [same] at after grown
      obtain ⟨rfl, _⟩ := List.cons_prefix_cons.mp ((List.prefix_append_right_inj done).mp after)
      exact ⟨same, grown⟩

/-- The run up to an entry of the history, the step that appends it, and the rest. -/
private theorem Records.split_run (records : Records step history) {state reached : State}
    {actions : List Action} {done later : List Entry} {entry : Entry}
    (arrived : run step state actions = some reached) (begins : history state <+: done)
    (splits : history reached = done ++ entry :: later) :
    ∃ first action rest before next, actions = first ++ action :: rest ∧
      run step state first = some before ∧ step before action = some next ∧
      run step next rest = some reached ∧
      history before = done ∧ history next = done ++ [entry] := by
  induction actions generalizing state with
  | nil =>
      cases arrived
      have longer := begins.length_le
      rw [splits, List.length_append, List.length_cons] at longer
      omega
  | cons action rest ih =>
      cases taken : step state action with
      | none =>
          rw [run_cons, taken] at arrived
          cases arrived
      | some next =>
          rw [run_cons_of_step rest taken] at arrived
          by_cases within : history next <+: done
          · obtain ⟨first, other, remaining, before, after, rfl, led, appended⟩ := ih arrived within
            refine ⟨action :: first, other, remaining, before, after, rfl, ?_, appended⟩
            rw [run_cons_of_step first taken]
            exact led
          · have after := records.prefix_run arrived
            rw [splits] at after
            exact ⟨[], action, rest, state, next, rfl, rfl, taken, arrived,
              records.appends taken begins after within⟩

theorem Records.appended_under (records : Records step history) (invariant : State → Prop)
    (kept : ∀ state action next, invariant state → step state action = some next →
      invariant next)
    {state reached : State} {actions : List Action} {done later : List Entry} {entry : Entry}
    (holds : invariant state) (begins : history state = [])
    (arrived : run step state actions = some reached)
    (splits : history reached = done ++ entry :: later) :
    ∃ before action next, invariant before ∧ step before action = some next ∧
      history before = done ∧ history next = done ++ [entry] := by
  have within : history state <+: done := by
    rw [begins]
    exact List.nil_prefix
  obtain ⟨first, action, rest, before, next, _, led, taken, _, earlier, appended⟩ :=
    records.split_run arrived within splits
  exact ⟨before, action, next, run_invariant invariant kept holds led, taken, earlier, appended⟩

end PartialStep
