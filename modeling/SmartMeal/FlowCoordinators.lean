/-
The coordinators that `MainCoordinator` keeps alive.

Every flow that is shown appends its coordinator to the children.  A child is removed
only by the delegate call of the main navigation controller, for a controller popped
from it, and that navigation controller is never shown or given a controller.  So no
coordinator is ever released, and the children are the one that is shown exactly as long
as no second flow is started.
-/

import SmartMeal.RootScreen

namespace SmartMeal.FlowCoordinators

open PartialStep RootScreen

/-- A coordinator, by the order in which `MainCoordinator` created it. -/
abbrev Coordinator := Nat

/-- `navigation` has the history of all coordinators created, as its children; the
controllers of the main navigation controller are kept top first, each with its
coordinator if it is `Coordinated`. -/
structure Flows where
  navigation : Navigation
  childCoordinators : List Coordinator
  viewControllers : List (Option Coordinator)

namespace Flows

def launch (hasSeenOnboarding : Bool) (defaults : UserDefaults) : Flows :=
  { navigation := .launch hasSeenOnboarding defaults, childCoordinators := [],
    viewControllers := [] }

def created (flows : Flows) : Nat := flows.navigation.childCoordinators.length

def rootCoordinator (flows : Flows) : Option Coordinator :=
  flows.navigation.rootViewController.map fun _ => flows.created - 1

def removeChild (coordinator : Option Coordinator) (flows : Flows) : Flows :=
  match coordinator with
  | none => flows
  | some coordinator =>
      { flows with
        childCoordinators := flows.childCoordinators.filter fun child => child != coordinator }

def record (flows : Flows) (next : Navigation) : Flows :=
  { flows with
    navigation := next
    childCoordinators := flows.childCoordinators ++
      List.range' flows.created (next.childCoordinators.length - flows.created) }

end Flows

/-- The last action is a pop in the main navigation controller, which calls its delegate. -/
inductive Action where
  | navigation (action : Navigation.Action)
  | popViewController

def step : Transition Flows Action
  | flows, .navigation action => (Navigation.step flows.navigation action).map flows.record
  | flows, .popViewController =>
      match flows.viewControllers with
      | fromViewController :: shown :: rest =>
          some ({ flows with viewControllers := shown :: rest }.removeChild fromViewController)
      | _ => none

def Released (flows : Flows) : Prop :=
  flows.childCoordinators = flows.rootCoordinator.toList

def Presents (navigation : Navigation) : Navigation.Action → Prop
  | .start => True
  | .finishOnboarding => True
  | .logIn _ _ => True
  | .signOut => True
  | .runBlock => ∃ rest, navigation.mainQueue = .validated false :: rest
  | _ => False

def ShowsFirst (flows : Flows) : Action → Prop
  | .navigation action => Presents flows.navigation action →
      flows.navigation.rootViewController = none
  | .popViewController => True

/-! ### What is created -/

variable {navigation after : Navigation} {flows next : Flows}

def ShowsAnother (navigation after : Navigation) : Prop :=
  ∃ screen, after.rootViewController = some screen ∧
    after.childCoordinators = navigation.childCoordinators ++ [screen]

private theorem showsAnother_start (navigation : Navigation) :
    ShowsAnother navigation navigation.start := by
  rcases start_cases navigation with ⟨_, started⟩ | ⟨_, _, started⟩ | ⟨_, _, _, started⟩
  · rw [started]
    exact ⟨.onboarding, rfl, rfl⟩
  · rw [started]
    exact ⟨.login, rfl, rfl⟩
  · rw [started]
    exact ⟨.tabBar, rfl, rfl⟩

private theorem showsAnother_of_presents {action : Navigation.Action}
    (presents : Presents navigation action)
    (taken : Navigation.step navigation action = some after) : ShowsAnother navigation after := by
  cases action with
  | start => cases taken; exact showsAnother_start navigation
  | finishOnboarding => cases taken; exact showsAnother_start _
  | logIn access refresh => cases taken; exact showsAnother_start _
  | signOut => cases taken; exact showsAnother_start _
  | fetchUserData => exact presents.elim
  | answered index result => exact presents.elim
  | runBlock =>
      obtain ⟨rest, queued⟩ := presents
      obtain ⟨block, others, same, rfl⟩ := step_runBlock taken
      cases queued.symm.trans same
      exact ⟨.login, rfl, rfl⟩

private theorem kept_of_not_presents {action : Navigation.Action}
    (silent : ¬ Presents navigation action)
    (taken : Navigation.step navigation action = some after) :
    after.rootViewController = navigation.rootViewController ∧
      after.childCoordinators = navigation.childCoordinators := by
  cases action with
  | start => exact absurd trivial silent
  | finishOnboarding => exact absurd trivial silent
  | logIn access refresh => exact absurd trivial silent
  | signOut => exact absurd trivial silent
  | fetchUserData =>
      cases taken
      rcases fetchUserData_cases navigation with same | ⟨token, _, fetched⟩
      · rw [same]
        exact ⟨rfl, rfl⟩
      · rw [fetched]
        exact ⟨rfl, rfl⟩
  | answered index result =>
      obtain ⟨task, _, rfl⟩ := step_answered taken
      exact ⟨rfl, rfl⟩
  | runBlock =>
      obtain ⟨block, rest, queued, rfl⟩ := step_runBlock taken
      cases block with
      | removeTokens => exact ⟨rfl, rfl⟩
      | validated isValid =>
          cases isValid with
          | true => exact ⟨rfl, rfl⟩
          | false => exact absurd ⟨rest, queued⟩ silent

/-! ### Nothing is removed -/

structure KeepsAll (flows : Flows) : Prop where
  children : flows.childCoordinators = List.range' 0 flows.created
  unused : flows.viewControllers = []
  root : flows.navigation.rootViewController = none ↔ flows.created = 0

theorem keepsAll_launch (hasSeenOnboarding : Bool) (defaults : UserDefaults) :
    KeepsAll (.launch hasSeenOnboarding defaults) :=
  ⟨rfl, rfl, iff_of_true rfl rfl⟩

private theorem children_record (keeps : KeepsAll flows)
    (grows : flows.created ≤ after.childCoordinators.length) :
    (flows.record after).childCoordinators = List.range' 0 after.childCoordinators.length := by
  unfold Flows.record
  rw [keeps.children]
  have joined : List.range' 0 flows.created ++ List.range' (0 + flows.created)
      (after.childCoordinators.length - flows.created) =
        List.range' 0 (flows.created + (after.childCoordinators.length - flows.created)) :=
    List.range'_append_1
  rw [Nat.zero_add, Nat.add_sub_cancel' grows] at joined
  exact joined

private theorem created_of_presents {action : Navigation.Action}
    (presents : Presents flows.navigation action)
    (taken : Navigation.step flows.navigation action = some after) :
    after.rootViewController ≠ none ∧ after.childCoordinators.length = flows.created + 1 := by
  obtain ⟨screen, shown, appended⟩ := showsAnother_of_presents presents taken
  constructor
  · rw [shown]
    exact Option.some_ne_none screen
  · rw [appended, List.length_append]
    rfl

private theorem created_of_not_presents {action : Navigation.Action}
    (silent : ¬ Presents flows.navigation action)
    (taken : Navigation.step flows.navigation action = some after) :
    after.rootViewController = flows.navigation.rootViewController ∧
      after.childCoordinators.length = flows.created := by
  obtain ⟨root, children⟩ := kept_of_not_presents silent taken
  exact ⟨root, congrArg List.length children⟩

theorem keepsAll_step {action : Action} (keeps : KeepsAll flows)
    (taken : step flows action = some next) : KeepsAll next := by
  cases action with
  | popViewController =>
      simp only [step, keeps.unused] at taken
      cases taken
  | navigation action =>
      obtain ⟨after, stepped, rfl⟩ := Option.map_eq_some_iff.mp taken
      by_cases presents : Presents flows.navigation action
      · obtain ⟨shown, counted⟩ := created_of_presents presents stepped
        refine ⟨children_record keeps (by omega), keeps.unused, iff_of_false shown ?_⟩
        change after.childCoordinators.length ≠ 0
        omega
      · obtain ⟨root, counted⟩ := created_of_not_presents presents stepped
        refine ⟨children_record keeps (by omega), keeps.unused, ?_⟩
        change after.rootViewController = none ↔ after.childCoordinators.length = 0
        rw [root, counted]
        exact keeps.root

/-- With everything kept, the children are the shown coordinator exactly if at most one
was created. -/
private theorem released_iff_created (keeps : KeepsAll flows) :
    Released flows ↔ flows.created ≤ 1 := by
  unfold Released Flows.rootCoordinator
  rw [keeps.children]
  cases root : flows.navigation.rootViewController with
  | none =>
      rw [keeps.root.mp root]
      exact iff_of_true rfl (Nat.zero_le 1)
  | some screen =>
      have some_created : flows.created ≠ 0 := by
        intro none
        rw [keeps.root.mpr none] at root
        cases root
      constructor
      · intro same
        have lengths := congrArg List.length same
        rw [List.length_range'] at lengths
        exact Nat.le_of_eq lengths
      · intro atMost
        have one : flows.created = 1 := by omega
        rw [one]
        rfl

private theorem released_step {action : Action} (keeps : KeepsAll flows) (released : Released flows)
    (taken : step flows action = some next) : Released next ↔ ShowsFirst flows action := by
  rw [released_iff_created (keepsAll_step keeps taken)]
  rw [released_iff_created keeps] at released
  cases action with
  | popViewController =>
      simp only [step, keeps.unused] at taken
      cases taken
  | navigation action =>
      obtain ⟨after, stepped, rfl⟩ := Option.map_eq_some_iff.mp taken
      change after.childCoordinators.length ≤ 1 ↔
        (Presents flows.navigation action → flows.navigation.rootViewController = none)
      rw [keeps.root]
      by_cases presents : Presents flows.navigation action
      · rw [(created_of_presents presents stepped).2]
        constructor
        · intro atMost _
          omega
        · intro first
          rw [first presents]
      · apply iff_of_true
        · rw [(created_of_not_presents presents stepped).2]
          exact released
        · intro impossible
          exact absurd impossible presents

/-! ### Whole runs -/

/-- After every step of a run the children are the coordinator whose screen is shown, and
no other, exactly when a screen is shown only while none is. -/
theorem released_throughout_iff (hasSeenOnboarding : Bool) (defaults : UserDefaults)
    (actions : List Action) :
    Throughout step Released (.launch hasSeenOnboarding defaults) actions ↔
      EachStep step ShowsFirst (.launch hasSeenOnboarding defaults) actions := by
  refine throughout_iff_eachStep KeepsAll ?_ ?_ (eachStep_of_forall (fun _ _ => trivial) _ actions)
    (keepsAll_launch hasSeenOnboarding defaults) rfl
  · intro flows action next keeps taken
    exact keepsAll_step keeps taken
  · intro flows action next keeps released _ taken
    exact released_step keeps released taken

/-- After a login the coordinator of the login screen is still a child. -/
theorem not_released_after_login :
    ¬ ∀ (hasSeenOnboarding : Bool) (defaults : UserDefaults) (actions : List Action),
      Throughout step Released (.launch hasSeenOnboarding defaults) actions := by
  intro always
  have released := (throughout_iff_prefixes _ _).mp
    (always true ⟨none, none, none⟩
      [.navigation .start, .navigation (.logIn "access" "refresh")])
    _ (List.prefix_refl _) _ rfl
  have lengths := congrArg List.length released
  exact absurd lengths (by decide)

end SmartMeal.FlowCoordinators
