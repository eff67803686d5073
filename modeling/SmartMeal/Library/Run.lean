/-
Finite runs of a partial step function, and the rules that turn what one step
does into what a whole run does.

An action that is not enabled has no next state, so a list of actions is a run
as far as its actions are enabled.  Two run predicates are provided: a property
of every state a run visits, and a property of every step a run takes.  The
rules relate the two through an invariant, in both directions, so that the runs
on which a property survives can be characterized exactly.
-/

import Mathlib.Data.List.Basic

namespace PartialStep

variable {State Action : Type}

abbrev Transition (State Action : Type) := State → Action → Option State

variable (step : Transition State Action)

def run : State → List Action → Option State
  | state, [] => some state
  | state, action :: rest => (step state action).bind fun next => run next rest

/-- The property holds in every state visited, the first and last included. -/
def Throughout (property : State → Prop) : State → List Action → Prop
  | state, [] => property state
  | state, action :: rest =>
      property state ∧ ∀ next, step state action = some next → Throughout property next rest

/-- Every step that is taken meets the condition in the state it starts from. -/
def EachStep (condition : State → Action → Prop) : State → List Action → Prop
  | _, [] => True
  | state, action :: rest =>
      ∀ next, step state action = some next →
        condition state action ∧ EachStep condition next rest

variable {step}

@[simp]
theorem run_nil (state : State) : run step state [] = some state := rfl

theorem run_cons (state : State) (action : Action) (rest : List Action) :
    run step state (action :: rest) = (step state action).bind fun next => run step next rest :=
  rfl

theorem run_cons_of_step {state next : State} {action : Action} (rest : List Action)
    (taken : step state action = some next) :
    run step state (action :: rest) = run step next rest := by
  rw [run_cons, taken]
  rfl

theorem run_append (state : State) (first second : List Action) :
    run step state (first ++ second) =
      (run step state first).bind fun middle => run step middle second := by
  induction first generalizing state with
  | nil => rfl
  | cons action rest ih =>
      rw [List.cons_append, run_cons, run_cons]
      cases step state action with
      | none => rfl
      | some next => exact ih next

/-! ### States of a run -/

private theorem Throughout.start {property : State → Prop} {state : State} {actions : List Action}
    (always : Throughout step property state actions) : property state := by
  cases actions with
  | nil => exact always
  | cons action rest => exact always.1

theorem throughout_iff_prefixes {property : State → Prop} (state : State)
    (actions : List Action) :
    Throughout step property state actions ↔
      ∀ done, done <+: actions → ∀ reached, run step state done = some reached →
        property reached := by
  induction actions generalizing state with
  | nil =>
      constructor
      · intro always done short reached arrived
        rw [List.prefix_nil.mp short, run_nil] at arrived
        exact Option.some.inj arrived ▸ always
      · intro all
        exact all [] (List.prefix_refl []) state rfl
  | cons action rest ih =>
      constructor
      · rintro ⟨here, later⟩ done short reached arrived
        cases done with
        | nil => exact Option.some.inj arrived ▸ here
        | cons head tail =>
            obtain ⟨rfl, shorter⟩ := List.cons_prefix_cons.mp short
            rw [run_cons] at arrived
            cases taken : step state head with
            | none => rw [taken] at arrived; cases arrived
            | some next =>
                rw [taken] at arrived
                exact (ih next).mp (later next taken) tail shorter reached arrived
      · intro all
        refine ⟨all [] List.nil_prefix state rfl, fun next taken => (ih next).mpr ?_⟩
        intro done short reached arrived
        refine all (action :: done) (List.cons_prefix_cons.mpr ⟨rfl, short⟩) reached ?_
        rw [run_cons_of_step done taken]
        exact arrived

theorem throughout_mono (property : State → Prop) {weaker : State → Prop}
    (weaken : ∀ s, property s → weaker s)
    {state : State} {actions : List Action}
    (always : Throughout step property state actions) :
    Throughout step weaker state actions := by
  induction actions generalizing state with
  | nil => exact weaken state always
  | cons action rest ih =>
      exact ⟨weaken state always.1, fun next taken => ih (always.2 next taken)⟩

/-! ### Invariants -/

theorem run_invariant (invariant : State → Prop)
    (kept : ∀ state action next, invariant state → step state action = some next →
      invariant next)
    {state reached : State} {actions : List Action} (holds : invariant state)
    (arrived : run step state actions = some reached) : invariant reached := by
  induction actions generalizing state with
  | nil => exact Option.some.inj arrived ▸ holds
  | cons action rest ih =>
      cases taken : step state action with
      | none => rw [run_cons, taken] at arrived; cases arrived
      | some next =>
          rw [run_cons_of_step rest taken] at arrived
          exact ih (kept state action next holds taken) arrived

theorem run_invariant_of_allowed (invariant : State → Prop) {allowed : Action → Prop}
    (kept : ∀ state action next, invariant state → allowed action →
      step state action = some next → invariant next)
    {state reached : State} {actions : List Action} (holds : invariant state)
    (all : ∀ action ∈ actions, allowed action)
    (arrived : run step state actions = some reached) : invariant reached := by
  induction actions generalizing state with
  | nil => exact Option.some.inj arrived ▸ holds
  | cons action rest ih =>
      cases taken : step state action with
      | none => rw [run_cons, taken] at arrived; cases arrived
      | some next =>
          rw [run_cons_of_step rest taken] at arrived
          have here := kept state action next holds (all action List.mem_cons_self) taken
          exact ih here (fun other member => all other (List.mem_cons_of_mem action member)) arrived

theorem throughout_of_eachStep (invariant : State → Prop) {condition : State → Action → Prop}
    (kept : ∀ state action next, invariant state → condition state action →
      step state action = some next → invariant next)
    {state : State} {actions : List Action} (holds : invariant state)
    (met : EachStep step condition state actions) :
    Throughout step invariant state actions := by
  induction actions generalizing state with
  | nil => exact holds
  | cons action rest ih =>
      refine ⟨holds, fun next taken => ?_⟩
      obtain ⟨here, later⟩ := met next taken
      exact ih (kept state action next holds here taken) later

theorem eachStep_of_eachStep (invariant : State → Prop)
    {condition property : State → Action → Prop}
    (kept : ∀ state action next, invariant state → condition state action →
      step state action = some next → invariant next)
    (yields : ∀ state action next, invariant state → condition state action →
      step state action = some next → property state action)
    {state : State} {actions : List Action} (holds : invariant state)
    (met : EachStep step condition state actions) :
    EachStep step property state actions := by
  induction actions generalizing state with
  | nil => trivial
  | cons action rest ih =>
      intro next taken
      obtain ⟨here, later⟩ := met next taken
      exact ⟨yields state action next holds here taken,
        ih (kept state action next holds here taken) later⟩

/-- Where a step keeps the property exactly when it meets the condition, a run
keeps it throughout exactly when all its steps meet the condition.  The run may
be one whose steps are all of an assumed kind. -/
theorem throughout_iff_eachStep (invariant : State → Prop) {property : State → Prop}
    {assumed condition : State → Action → Prop}
    (kept : ∀ state action next, invariant state → step state action = some next →
      invariant next)
    (exactly : ∀ state action next, invariant state → property state → assumed state action →
      step state action = some next → (property next ↔ condition state action))
    {state : State} {actions : List Action} (given : EachStep step assumed state actions)
    (holds : invariant state) (start : property state) :
    Throughout step property state actions ↔ EachStep step condition state actions := by
  induction actions generalizing state with
  | nil => exact iff_of_true start trivial
  | cons action rest ih =>
      constructor
      · rintro ⟨_, later⟩ next taken
        obtain ⟨givenHere, givenLater⟩ := given next taken
        have there := (later next taken).start
        have here := (exactly state action next holds start givenHere taken).mp there
        exact ⟨here, (ih givenLater (kept state action next holds taken) there).mp
          (later next taken)⟩
      · intro met
        refine ⟨start, fun next taken => ?_⟩
        obtain ⟨givenHere, givenLater⟩ := given next taken
        obtain ⟨here, later⟩ := met next taken
        have there := (exactly state action next holds start givenHere taken).mpr here
        exact (ih givenLater (kept state action next holds taken) there).mpr later

theorem eachStep_of_actions {condition : State → Action → Prop} {actions : List Action}
    (all : ∀ action ∈ actions, ∀ state, condition state action) (state : State) :
    EachStep step condition state actions := by
  induction actions generalizing state with
  | nil => trivial
  | cons action rest ih =>
      intro next _
      exact ⟨all action List.mem_cons_self state,
        ih (fun other member => all other (List.mem_cons_of_mem action member)) next⟩

theorem eachStep_of_forall {condition : State → Action → Prop}
    (all : ∀ state action, condition state action) (state : State) (actions : List Action) :
    EachStep step condition state actions :=
  eachStep_of_actions (fun action _ before => all before action) state

theorem EachStep.and {first second : State → Action → Prop} {state : State}
    {actions : List Action} (left : EachStep step first state actions)
    (right : EachStep step second state actions) :
    EachStep step (fun state action => first state action ∧ second state action) state
      actions := by
  induction actions generalizing state with
  | nil => trivial
  | cons action rest ih =>
      intro next taken
      obtain ⟨leftHere, leftLater⟩ := left next taken
      obtain ⟨rightHere, rightLater⟩ := right next taken
      exact ⟨⟨leftHere, rightHere⟩, ih leftLater rightLater⟩

theorem eachStep_cons {condition : State → Action → Prop} {state next : State}
    {action : Action} {rest : List Action} (taken : step state action = some next) :
    EachStep step condition state (action :: rest) ↔
      condition state action ∧ EachStep step condition next rest := by
  constructor
  · intro met
    exact met next taken
  · rintro met other takenOther
    rw [taken] at takenOther
    cases takenOther
    exact met

theorem EachStep.last {condition : State → Action → Prop} {state reached next : State}
    {actions : List Action} (final : Action)
    (met : EachStep step condition state (actions ++ [final]))
    (arrived : run step state actions = some reached)
    (taken : step reached final = some next) : condition reached final := by
  induction actions generalizing state with
  | nil =>
      cases Option.some.inj arrived
      exact (met next taken).1
  | cons action rest ih =>
      cases first : step state action with
      | none => rw [run_cons, first] at arrived; cases arrived
      | some middle =>
          rw [run_cons_of_step rest first] at arrived
          exact ih (met middle first).2 arrived

/-! ### Refinement -/

/-- A run whose steps are each matched by the abstract machine ends where the
abstract machine ends. -/
theorem run_refines {Abstract : Type} {abstractly : Abstract → Action → Abstract}
    (related : State → Abstract → Prop) {condition : State → Action → Prop}
    (matched : ∀ state abstract action next, related state abstract →
      condition state action → step state action = some next →
      related next (abstractly abstract action))
    {state reached : State} {abstract : Abstract} {actions : List Action}
    (met : EachStep step condition state actions) (begun : related state abstract)
    (arrived : run step state actions = some reached) :
    related reached (actions.foldl abstractly abstract) := by
  induction actions generalizing state abstract with
  | nil => exact Option.some.inj arrived ▸ begun
  | cons action rest ih =>
      cases taken : step state action with
      | none => rw [run_cons, taken] at arrived; cases arrived
      | some next =>
          rw [run_cons_of_step rest taken] at arrived
          obtain ⟨here, later⟩ := met next taken
          exact ih later (matched state abstract action next begun here taken) arrived

/-- What a machine with moves of its own is told of a run. -/
def projected {Move : Type} (step : Transition State Action) (moves : State → Action → List Move) :
    State → List Action → List Move
  | _, [] => []
  | state, action :: rest =>
      match step state action with
      | none => []
      | some next => moves state action ++ projected step moves next rest

theorem run_projected {Other Move : Type} {other : Transition Other Move}
    {moves : State → Action → List Move} (related : State → Other → Prop)
    (matched : ∀ state whole action next, related state whole →
      step state action = some next →
      ∃ after, run other whole (moves state action) = some after ∧ related next after)
    {state reached : State} {whole : Other} {actions : List Action}
    (begun : related state whole) (arrived : run step state actions = some reached) :
    ∃ after, run other whole (projected step moves state actions) = some after ∧
      related reached after := by
  induction actions generalizing state whole with
  | nil =>
      cases arrived
      exact ⟨whole, rfl, begun⟩
  | cons action rest ih =>
      cases taken : step state action with
      | none => rw [run_cons, taken] at arrived; cases arrived
      | some next =>
          rw [run_cons_of_step rest taken] at arrived
          obtain ⟨middle, moved, here⟩ := matched state whole action next begun taken
          obtain ⟨after, later, there⟩ := ih here arrived
          refine ⟨after, ?_, there⟩
          simp only [projected, taken]
          rw [run_append, moved]
          exact later

end PartialStep
