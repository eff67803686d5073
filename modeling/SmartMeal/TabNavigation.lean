/-
The tab bars and their coordinators.

A screen reaches its coordinator through a weak reference, so that a tap on an item, the
end of the onboarding and a sign-out would be lost with a coordinator that is released.
The delegate of a navigation controller removes the coordinator of a controller that has
left the stack.  Only the roots of the tabs are coordinated, and no root leaves its stack;
so nothing is lost, and the screens follow a machine that knows of no coordinator.
-/

import SmartMeal.FlowCoordinators
import SmartMeal.PayloadSafety

namespace SmartMeal.TabNavigation

open PartialStep RootScreen
open FlowCoordinators hiding step Action

inductive Tabs where
  | home
  | search
  | favorites
  | profile
  deriving DecidableEq

/-- A detail controller is named by the number of those pushed before it. -/
inductive ViewController where
  | root (tab : Tabs)
  | detail (name : Nat) (recipe : Recipe)
  deriving DecidableEq

namespace ViewController

/-- Of a controller that is `Coordinated`; the one of the home tab is not. -/
def coordinator : ViewController → Option Tabs
  | .root .home => none
  | .root tab => some tab
  | .detail _ _ => none

def recipe : ViewController → Option Recipe
  | .root _ => none
  | .detail _ recipe => some recipe

end ViewController

/-- The coordinators of the tabs are named by their tabs, and `viewControllers` are the
stacks of their navigation controllers, top first.  `departed` has the controllers that a
transition of a stack has started from, and `coordinator` is the one of the tab bar. -/
structure TabBarCoordinator where
  coordinator : Coordinator
  childCoordinators : List Tabs
  viewControllers : Tabs → List ViewController
  departed : Tabs → List ViewController
  pushed : Nat

namespace TabBarCoordinator

def start (coordinator : Coordinator) : TabBarCoordinator :=
  { coordinator := coordinator
    childCoordinators := [.home, .search, .favorites, .profile]
    viewControllers := fun tab => [.root tab]
    departed := fun _ => []
    pushed := 0 }

def removeChild (coordinator : Option Tabs) (tabBar : TabBarCoordinator) : TabBarCoordinator :=
  match coordinator with
  | none => tabBar
  | some coordinator =>
      { tabBar with
        childCoordinators := tabBar.childCoordinators.filter fun child => child != coordinator }

/-- `navigationController(_:didShow:animated:)`. -/
def didShow (tab : Tabs) (fromViewController : Option ViewController)
    (tabBar : TabBarCoordinator) : TabBarCoordinator :=
  match fromViewController with
  | none => tabBar
  | some controller =>
      if (tabBar.viewControllers tab).contains controller then tabBar
      else tabBar.removeChild controller.coordinator

def transition (tab : Tabs) (stack : List ViewController) (tabBar : TabBarCoordinator) :
    TabBarCoordinator :=
  { tabBar with
    viewControllers := Function.update tabBar.viewControllers tab stack
    departed := Function.update tabBar.departed tab
      (tabBar.departed tab ++ (tabBar.viewControllers tab).head?.toList) }

/-- `showDetail(for:)` and the `updateUI` of the controller that is pushed, which traps
where there is no image. -/
def showDetail (tab : Tabs) (recipe : Recipe) (tabBar : TabBarCoordinator) :
    Option TabBarCoordinator := do
  let _content ← DetailContent.updateUI recipe
  let shown := tabBar.transition tab
    (.detail tabBar.pushed recipe :: tabBar.viewControllers tab)
  pure { shown with pushed := tabBar.pushed + 1 }

def popViewController (tab : Tabs) (tabBar : TabBarCoordinator) : Option TabBarCoordinator :=
  match tabBar.viewControllers tab with
  | _ :: below :: rest => some (tabBar.transition tab (below :: rest))
  | _ => none

def popToRootViewController (tab : Tabs) (tabBar : TabBarCoordinator) :
    Option TabBarCoordinator :=
  match tabBar.viewControllers tab with
  | _ :: below :: rest => some (tabBar.transition tab (below :: rest).getLast?.toList)
  | _ => none

/-- Held by `MainCoordinator`, or by the coordinator of the profile, which it holds. -/
def isAlive (flows : Flows) (tabBar : TabBarCoordinator) : Bool :=
  flows.childCoordinators.contains tabBar.coordinator || tabBar.childCoordinators.contains .profile

def coordinates (flows : Flows) (tab : Tabs) (tabBar : TabBarCoordinator) : Bool :=
  tabBar.isAlive flows && tabBar.childCoordinators.contains tab

end TabBarCoordinator

def startsTabBar (before after : Navigation) : Bool :=
  match after.rootViewController with
  | some .tabBar => before.childCoordinators.length < after.childCoordinators.length
  | _ => false

structure Tabbed where
  flows : Flows
  tabBars : List TabBarCoordinator

/-- The items of a root are tapped only in the tab bar that is shown; a delegate call may
come later. -/
inductive Action where
  | flows (action : FlowCoordinators.Action)
  | didSelectItemAt (tab : Tabs) (recipe : Recipe)
  | popViewController (tab : Tabs)
  | popToRootViewController (tab : Tabs)
  | didShow (tabBar : Nat) (tab : Tabs) (fromViewController : Option ViewController)

namespace Tabbed

def launch (hasSeenOnboarding : Bool) (defaults : UserDefaults) : Tabbed :=
  { flows := .launch hasSeenOnboarding defaults, tabBars := [] }

def record (tabbed : Tabbed) (after : Flows) : Tabbed :=
  { flows := after
    tabBars :=
      if startsTabBar tabbed.flows.navigation after.navigation then
        .start (after.created - 1) :: tabbed.tabBars
      else tabbed.tabBars }

def follow (tabbed : Tabbed) (action : FlowCoordinators.Action) : Option Tabbed :=
  (FlowCoordinators.step tabbed.flows action).map tabbed.record

def shown (tabbed : Tabbed) : Option TabBarCoordinator :=
  match tabbed.flows.navigation.rootViewController with
  | some .tabBar => tabbed.tabBars.head?
  | _ => none

def setShown (tabbed : Tabbed) (tabBar : TabBarCoordinator) : Tabbed :=
  { tabbed with tabBars := tabBar :: tabbed.tabBars.tail }

def withNavigation (tabbed : Tabbed) (navigation : Navigation) : Tabbed :=
  { tabbed with flows := { tabbed.flows with navigation := navigation } }

def start (tabbed : Tabbed) : Option Tabbed :=
  match tabbed.flows.navigation.rootViewController with
  | none => tabbed.follow (.navigation .start)
  | some _ => none

/-- `onFinish`, whose coordinator is held by `MainCoordinator` only. -/
def finishOnboarding (tabbed : Tabbed) : Option Tabbed :=
  match tabbed.flows.navigation.rootViewController, tabbed.flows.rootCoordinator with
  | some .onboarding, some coordinator =>
      if tabbed.flows.childCoordinators.contains coordinator then
        tabbed.follow (.navigation .finishOnboarding)
      else some (tabbed.withNavigation { tabbed.flows.navigation with hasSeenOnboarding := true })
  | _, _ => none

/-- `tableView(_:didSelectRowAt:)` of the profile; both `signOut` and `profileUpdated` have
weak references. -/
def signOut (tabbed : Tabbed) : Option Tabbed := do
  let tabBar ← tabbed.shown
  if tabBar.coordinates tabbed.flows .profile then tabbed.follow (.navigation .signOut)
  else
    some (tabbed.withNavigation
      { tabbed.flows.navigation with defaults := removeTokens tabbed.flows.navigation.defaults })

def didSelectItemAt (tab : Tabs) (recipe : Recipe) (tabbed : Tabbed) : Option Tabbed := do
  let tabBar ← tabbed.shown
  if tabBar.coordinates tabbed.flows tab then
    (tabBar.showDetail tab recipe).map tabbed.setShown
  else some tabbed

end Tabbed

def showsItems (tab : Tabs) (tabbed : Tabbed) : Bool :=
  tab != .profile &&
    tabbed.shown.any fun tabBar => (tabBar.viewControllers tab).head? == some (.root tab)

/-- A transition that is over may have lost its coordinator. -/
def hasDeparted (tabBar : Nat) (tab : Tabs) (fromViewController : Option ViewController)
    (tabbed : Tabbed) : Bool :=
  fromViewController.all fun controller =>
    (tabbed.tabBars[tabBar]?).any fun bar => (bar.departed tab).contains controller

def step : Transition Tabbed Action := fun tabbed action =>
  match action with
  | .flows (.navigation .start) => tabbed.start
  | .flows (.navigation .finishOnboarding) => tabbed.finishOnboarding
  | .flows (.navigation .signOut) => tabbed.signOut
  -- A login screen and its coordinator hold each other, and are never released.
  | .flows action => tabbed.follow action
  | .didSelectItemAt tab recipe =>
      if showsItems tab tabbed then tabbed.didSelectItemAt tab recipe else none
  | .popViewController tab => do
      let tabBar ← tabbed.shown
      (tabBar.popViewController tab).map tabbed.setShown
  | .popToRootViewController tab => do
      let tabBar ← tabbed.shown
      (tabBar.popToRootViewController tab).map tabbed.setShown
  | .didShow tabBar tab fromViewController =>
      if hasDeparted tabBar tab fromViewController tabbed then
        some { tabbed with
          tabBars := tabbed.tabBars.modify tabBar (·.didShow tab fromViewController) }
      else none

/-! ### What the user sees -/

/-- The root screen with what decides it, and for every tab bar the recipes whose details
lie over the roots of its tabs. -/
structure Displayed where
  navigation : Navigation
  details : List (Tabs → List Recipe)

namespace Displayed

def launch (hasSeenOnboarding : Bool) (defaults : UserDefaults) : Displayed :=
  { navigation := .launch hasSeenOnboarding defaults, details := [] }

def record (displayed : Displayed) (after : Navigation) : Displayed :=
  { navigation := after
    details :=
      if startsTabBar displayed.navigation after then (fun _ => []) :: displayed.details
      else displayed.details }

def change (tab : Tabs) (edit : List Recipe → List Recipe) (displayed : Displayed) : Displayed :=
  { displayed with
    details := displayed.details.modifyHead fun details =>
      Function.update details tab (edit (details tab)) }

/-- Every callback restarts the flow, every tap on an item opens it, and what the delegates
do is not seen. -/
def act (displayed : Displayed) : Action → Displayed
  | .flows (.navigation action) =>
      ((Navigation.step displayed.navigation action).map displayed.record).getD displayed
  | .flows .popViewController => displayed
  | .didSelectItemAt tab recipe => displayed.change tab fun details => recipe :: details
  | .popViewController tab => displayed.change tab List.tail
  | .popToRootViewController tab => displayed.change tab fun _ => []
  | .didShow _ _ _ => displayed

end Displayed

def detailsOf (tabBar : TabBarCoordinator) (tab : Tabs) : List Recipe :=
  (tabBar.viewControllers tab).filterMap ViewController.recipe

def Tabbed.displayed (tabbed : Tabbed) : Displayed :=
  { navigation := tabbed.flows.navigation, details := tabbed.tabBars.map detailsOf }

/-! ### One tab bar -/

def stackOf (tab : Tabs) (details : List (Nat × Recipe)) : List ViewController :=
  details.map (fun detail => .detail detail.1 detail.2) ++ [.root tab]

/-- Every stack is its root below the details, and only roots that are still below a stack
or controllers without a coordinator have departed from it. -/
structure Intact (tabBar : TabBarCoordinator) : Prop where
  children : tabBar.childCoordinators = [.home, .search, .favorites, .profile]
  layered : ∀ tab, ∃ details, tabBar.viewControllers tab = stackOf tab details
  departed : ∀ tab, ∀ controller ∈ tabBar.departed tab,
    controller = .root tab ∨ controller.coordinator = none

variable {tabBar next : TabBarCoordinator} {tab : Tabs}

private theorem intact_start (coordinator : Coordinator) : Intact (.start coordinator) where
  children := rfl
  layered := fun _ => ⟨[], rfl⟩
  departed := by intro tab controller impossible; cases impossible

private theorem alive_of_intact (intact : Intact tabBar) (flows : Flows) (tab : Tabs) :
    tabBar.coordinates flows tab = true := by
  unfold TabBarCoordinator.coordinates TabBarCoordinator.isAlive
  rw [intact.children]
  cases tab <;> simp

private theorem intact_transition (intact : Intact tabBar) (details : List (Nat × Recipe)) :
    Intact (tabBar.transition tab (stackOf tab details)) where
  children := intact.children
  layered := by
    intro other
    unfold TabBarCoordinator.transition
    by_cases same : other = tab
    · subst same
      exact ⟨details, Function.update_self other _ _⟩
    · obtain ⟨kept, stack⟩ := intact.layered other
      exact ⟨kept, (Function.update_of_ne same _ _).trans stack⟩
  departed := by
    intro other controller member
    unfold TabBarCoordinator.transition at member
    by_cases same : other = tab
    · subst same
      simp only [Function.update_self, List.mem_append] at member
      rcases member with earlier | top
      · exact intact.departed other controller earlier
      · obtain ⟨kept, stack⟩ := intact.layered other
        rw [stack] at top
        cases kept with
        | nil => exact Or.inl (List.mem_singleton.mp top)
        | cons detail rest =>
            rw [List.mem_singleton.mp top]
            exact Or.inr rfl
    · simp only [Function.update_of_ne same] at member
      exact intact.departed other controller member

private theorem recipes_stackOf (tab : Tabs) (details : List (Nat × Recipe)) :
    (stackOf tab details).filterMap ViewController.recipe = details.map Prod.snd := by
  unfold stackOf
  rw [List.filterMap_append, List.filterMap_map]
  simp [ViewController.recipe, Function.comp_def]

/-- Nothing is removed: the root is still on its stack, and nothing else has a coordinator. -/
private theorem didShow_eq (intact : Intact tabBar) {fromViewController : Option ViewController}
    (departed : ∀ controller, fromViewController = some controller →
      controller ∈ tabBar.departed tab) :
    tabBar.didShow tab fromViewController = tabBar := by
  cases fromViewController with
  | none => rfl
  | some controller =>
      change (if _ then _ else _) = _
      rcases intact.departed tab controller (departed controller rfl) with rfl | uncoordinated
      · obtain ⟨details, stack⟩ := intact.layered tab
        rw [if_pos (by rw [stack, stackOf]; simp)]
      · rw [uncoordinated]
        exact ite_self _

private theorem detailsOf_transition (tabBar : TabBarCoordinator) (details : List (Nat × Recipe)) :
    detailsOf (tabBar.transition tab (stackOf tab details)) =
      Function.update (detailsOf tabBar) tab (details.map Prod.snd) := by
  funext other
  unfold detailsOf TabBarCoordinator.transition
  by_cases same : other = tab
  · subst same
    simp only [Function.update_self]
    exact recipes_stackOf other details
  · simp only [Function.update_of_ne same]

private theorem detailsOf_of_stack {details : List (Nat × Recipe)}
    (stack : tabBar.viewControllers tab = stackOf tab details) :
    detailsOf tabBar tab = details.map Prod.snd := by
  unfold detailsOf
  rw [stack, recipes_stackOf]

structure Edited (tab : Tabs) (edit : List Recipe → List Recipe)
    (tabBar next : TabBarCoordinator) : Prop where
  intact : Intact next
  details : detailsOf next =
    Function.update (detailsOf tabBar) tab (edit (detailsOf tabBar tab))

private theorem edited_transition (intact : Intact tabBar) {edit : List Recipe → List Recipe}
    (details : List (Nat × Recipe)) (edited : details.map Prod.snd = edit (detailsOf tabBar tab)) :
    Edited tab edit tabBar (tabBar.transition tab (stackOf tab details)) :=
  ⟨intact_transition intact details, edited ▸ detailsOf_transition tabBar details⟩

private theorem edited_showDetail (intact : Intact tabBar) {recipe : Recipe}
    (shown : tabBar.showDetail tab recipe = some next) :
    Edited tab (fun details => recipe :: details) tabBar next := by
  obtain ⟨content, _, pushed⟩ := Option.bind_eq_some_iff.mp shown
  cases pushed
  obtain ⟨details, stack⟩ := intact.layered tab
  have pushed : Edited tab (fun details => recipe :: details) tabBar
      (tabBar.transition tab (stackOf tab ((tabBar.pushed, recipe) :: details))) :=
    edited_transition intact _ (by rw [detailsOf_of_stack stack]; rfl)
  rw [stack]
  exact ⟨⟨pushed.intact.children, pushed.intact.layered, pushed.intact.departed⟩,
    pushed.details⟩

private theorem detail_of_stack (intact : Intact tabBar) {top below : ViewController}
    {rest : List ViewController} (stack : tabBar.viewControllers tab = top :: below :: rest) :
    ∃ detail details, tabBar.viewControllers tab = stackOf tab (detail :: details) ∧
      below :: rest = stackOf tab details := by
  obtain ⟨details, layered⟩ := intact.layered tab
  cases details with
  | nil =>
      rw [layered] at stack
      cases stack
  | cons detail details =>
      refine ⟨detail, details, layered, ?_⟩
      rw [layered] at stack
      exact (List.cons.inj stack).2.symm

private theorem edited_popViewController (intact : Intact tabBar)
    (popped : tabBar.popViewController tab = some next) :
    Edited tab List.tail tabBar next := by
  unfold TabBarCoordinator.popViewController at popped
  split at popped
  next top below rest stack =>
      obtain ⟨detail, details, layered, kept⟩ := detail_of_stack intact stack
      cases popped
      rw [kept]
      exact edited_transition intact details (by rw [detailsOf_of_stack layered]; rfl)
  next => cases popped

private theorem edited_popToRootViewController (intact : Intact tabBar)
    (popped : tabBar.popToRootViewController tab = some next) :
    Edited tab (fun _ => []) tabBar next := by
  unfold TabBarCoordinator.popToRootViewController at popped
  split at popped
  next top below rest stack =>
      obtain ⟨detail, details, layered, kept⟩ := detail_of_stack intact stack
      cases popped
      have root : (stackOf tab details).getLast?.toList = stackOf tab [] := by
        unfold stackOf
        rw [List.getLast?_concat]
        rfl
      rw [kept, root]
      exact edited_transition intact [] rfl
  next => cases popped

/-! ### All tab bars -/

structure Kept (tabbed : Tabbed) : Prop where
  flows : KeepsAll tabbed.flows
  intact : ∀ tabBar ∈ tabbed.tabBars, Intact tabBar

variable {tabbed after : Tabbed}

private theorem kept_launch (hasSeenOnboarding : Bool) (defaults : UserDefaults) :
    Kept (.launch hasSeenOnboarding defaults) :=
  ⟨keepsAll_launch hasSeenOnboarding defaults, by intro tabBar impossible; cases impossible⟩

private theorem tabBars_of_shown (shown : tabbed.shown = some tabBar) :
    ∃ rest, tabbed.tabBars = tabBar :: rest := by
  unfold Tabbed.shown at shown
  split at shown
  · exact List.head?_eq_some_iff.mp shown
  · cases shown

private theorem intact_of_shown (kept : Kept tabbed) (shown : tabbed.shown = some tabBar) :
    Intact tabBar := by
  obtain ⟨rest, tabBars⟩ := tabBars_of_shown shown
  exact kept.intact tabBar (by rw [tabBars]; exact List.mem_cons_self)

private theorem kept_setShown (kept : Kept tabbed) (intact : Intact next) :
    Kept (tabbed.setShown next) := by
  refine ⟨kept.flows, ?_⟩
  intro other member
  rcases List.mem_cons.mp member with rfl | below
  · exact intact
  · exact kept.intact other (List.mem_of_mem_tail below)

private theorem displayed_setShown (shown : tabbed.shown = some tabBar)
    {edit : List Recipe → List Recipe} (edited : Edited tab edit tabBar next) :
    (tabbed.setShown next).displayed = tabbed.displayed.change tab edit := by
  obtain ⟨rest, tabBars⟩ := tabBars_of_shown shown
  unfold Tabbed.displayed Tabbed.setShown Displayed.change
  rw [tabBars]
  simp only [List.tail_cons, List.map_cons, List.modifyHead_cons, edited.details]

private theorem displayed_record (tabbed : Tabbed) (flows : Flows) :
    (tabbed.record flows).displayed = tabbed.displayed.record flows.navigation := by
  unfold Tabbed.displayed Tabbed.record Displayed.record
  dsimp only
  cases startsTabBar tabbed.flows.navigation flows.navigation with
  | true => rfl
  | false => rfl

private theorem displayed_follow (kept : Kept tabbed) {action : Navigation.Action}
    (taken : tabbed.follow (.navigation action) = some after) :
    Kept after ∧ after.displayed = tabbed.displayed.act (.flows (.navigation action)) := by
  obtain ⟨flows, stepped, rfl⟩ := Option.map_eq_some_iff.mp taken
  have flowsKept := keepsAll_step kept.flows stepped
  obtain ⟨navigation, moved, rfl⟩ := Option.map_eq_some_iff.mp stepped
  constructor
  · refine ⟨flowsKept, ?_⟩
    intro tabBar member
    change tabBar ∈ (if _ then _ else _) at member
    split at member
    · rcases List.mem_cons.mp member with rfl | earlier
      · exact intact_start _
      · exact kept.intact tabBar earlier
    · exact kept.intact tabBar member
  · have acted : tabbed.displayed.act (.flows (.navigation action)) =
        tabbed.displayed.record navigation := by
      change ((Navigation.step tabbed.flows.navigation action).map _).getD _ = _
      rw [moved]
      rfl
    rw [acted]
    exact displayed_record tabbed _

/-! ### Steps -/

private theorem start_eq (started : tabbed.start = some after) :
    tabbed.follow (.navigation .start) = some after := by
  unfold Tabbed.start at started
  split at started
  · exact started
  · cases started

private theorem finishOnboarding_eq (kept : Kept tabbed)
    (finished : tabbed.finishOnboarding = some after) :
    tabbed.follow (.navigation .finishOnboarding) = some after := by
  unfold Tabbed.finishOnboarding at finished
  split at finished
  next coordinator shown root =>
      obtain ⟨screen, _, rfl⟩ := Option.map_eq_some_iff.mp root
      have some_created : tabbed.flows.created ≠ 0 := by
        intro none
        rw [kept.flows.root.mpr none] at shown
        cases shown
      have child : tabbed.flows.childCoordinators.contains (tabbed.flows.created - 1) = true := by
        rw [kept.flows.children, List.contains_iff_mem, List.mem_range'_1]
        omega
      rw [if_pos child] at finished
      exact finished
  next => cases finished

private theorem signOut_eq (kept : Kept tabbed) (signed : tabbed.signOut = some after) :
    tabbed.follow (.navigation .signOut) = some after := by
  obtain ⟨tabBar, shown, signed⟩ := Option.bind_eq_some_iff.mp signed
  rw [if_pos (alive_of_intact (intact_of_shown kept shown) tabbed.flows .profile)] at signed
  exact signed

private theorem follow_flows (kept : Kept tabbed) {action : Navigation.Action}
    (taken : step tabbed (.flows (.navigation action)) = some after) :
    tabbed.follow (.navigation action) = some after := by
  cases action with
  | start => exact start_eq taken
  | finishOnboarding => exact finishOnboarding_eq kept taken
  | signOut => exact signOut_eq kept taken
  | logIn access refresh => exact taken
  | fetchUserData => exact taken
  | answered index result => exact taken
  | runBlock => exact taken

private theorem edited_step {edit : List Recipe → List Recipe}
    {change : TabBarCoordinator → Option TabBarCoordinator} (kept : Kept tabbed)
    (edited : ∀ tabBar next, Intact tabBar → change tabBar = some next →
      Edited tab edit tabBar next)
    (taken : (tabbed.shown.bind fun tabBar => (change tabBar).map tabbed.setShown) = some after) :
    Kept after ∧ after.displayed = tabbed.displayed.change tab edit := by
  obtain ⟨tabBar, shown, changed⟩ := Option.bind_eq_some_iff.mp taken
  obtain ⟨next, result, rfl⟩ := Option.map_eq_some_iff.mp changed
  have result := edited tabBar next (intact_of_shown kept shown) result
  exact ⟨kept_setShown kept result.intact, displayed_setShown shown result⟩

private theorem didSelectItemAt_eq (kept : Kept tabbed) (recipe : Recipe) :
    tabbed.didSelectItemAt tab recipe =
      tabbed.shown.bind fun tabBar => (tabBar.showDetail tab recipe).map tabbed.setShown := by
  unfold Tabbed.didSelectItemAt
  cases shown : tabbed.shown with
  | none => rfl
  | some tabBar =>
      change (if _ then _ else _) = _
      rw [if_pos (alive_of_intact (intact_of_shown kept shown) tabbed.flows tab)]
      rfl

private theorem didShow_tabBars (kept : Kept tabbed) {bar : Nat}
    {fromViewController : Option ViewController}
    (departed : hasDeparted bar tab fromViewController tabbed = true) :
    tabbed.tabBars.modify bar (·.didShow tab fromViewController) = tabbed.tabBars := by
  apply List.ext_getElem?
  intro index
  rw [List.getElem?_modify]
  by_cases here : bar = index
  · subst here
    simp only [if_true]
    cases found : tabbed.tabBars[bar]? with
    | none => rfl
    | some tabBar =>
        have same : tabBar.didShow tab fromViewController = tabBar := by
          apply didShow_eq (kept.intact tabBar (List.mem_of_getElem? found))
          rintro controller rfl
          simpa [hasDeparted, found] using departed
        exact congrArg some same
  · simp [here]

private theorem refines_step (kept : Kept tabbed) {action : Action}
    (taken : step tabbed action = some after) :
    Kept after ∧ after.displayed = tabbed.displayed.act action := by
  cases action with
  | flows action =>
      cases action with
      | navigation action => exact displayed_follow kept (follow_flows kept taken)
      | popViewController =>
          obtain ⟨flows, popped, _⟩ := Option.map_eq_some_iff.mp taken
          simp only [FlowCoordinators.step, kept.flows.unused] at popped
          cases popped
  | didSelectItemAt tab recipe =>
      obtain ⟨_, taken⟩ := Option.ite_none_right_eq_some.mp taken
      rw [didSelectItemAt_eq kept] at taken
      exact edited_step kept (fun _ _ intact shown => edited_showDetail intact shown) taken
  | popViewController tab =>
      exact edited_step kept (fun _ _ intact popped => edited_popViewController intact popped) taken
  | popToRootViewController tab =>
      exact edited_step kept
        (fun _ _ intact popped => edited_popToRootViewController intact popped) taken
  | didShow bar tab fromViewController =>
      obtain ⟨departed, taken⟩ := Option.ite_none_right_eq_some.mp taken
      rw [didShow_tabBars kept departed] at taken
      cases taken
      exact ⟨kept, rfl⟩

/-- In every run each tab bar that was ever started has the coordinators of its four tabs and
the roots at the bottom of its stacks, and the root screen and the details over the roots are
those of the machine in which every callback acts and every tap opens. -/
theorem tabs_refine (hasSeenOnboarding : Bool) (defaults : UserDefaults)
    (actions : List Action) (reached : Tabbed)
    (arrived : run step (.launch hasSeenOnboarding defaults) actions = some reached) :
    reached.displayed = actions.foldl Displayed.act (.launch hasSeenOnboarding defaults) ∧
      ∀ tabBar ∈ reached.tabBars,
        tabBar.childCoordinators = [.home, .search, .favorites, .profile] ∧
        ∀ tab, (tabBar.viewControllers tab).getLast? = some (.root tab) := by
  have related := run_refines (fun tabbed displayed => Kept tabbed ∧ tabbed.displayed = displayed)
    (fun tabbed displayed action next ⟨kept, shows⟩ _ taken =>
      shows ▸ refines_step kept taken)
    (@eachStep_of_forall _ _ _ (fun _ _ => True) (fun _ _ => trivial) _ actions)
    ⟨kept_launch hasSeenOnboarding defaults, rfl⟩ arrived
  refine ⟨related.2, ?_⟩
  intro tabBar member
  have intact := related.1.intact tabBar member
  refine ⟨intact.children, fun tab => ?_⟩
  obtain ⟨details, stack⟩ := intact.layered tab
  rw [stack, stackOf, List.getLast?_concat]

def plov : Recipe := { Recipe.titled 1 "Plov" with imageUrl := some "plov.png" }

def signedOutOver : List Action :=
  [.flows (.navigation .start), .didSelectItemAt .home plov, .popViewController .home,
   .didSelectItemAt .search plov, .flows (.navigation .signOut),
   .flows (.navigation (.logIn "access" "refresh")),
   .didShow 1 .home (some (.detail 0 plov))]

theorem tabs_refine_signedOutOver :
    ∃ reached, run step (.launch true ⟨some "token", none, none⟩) signedOutOver = some reached ∧
      (reached.displayed =
          signedOutOver.foldl Displayed.act (.launch true ⟨some "token", none, none⟩) ∧
        ∀ tabBar ∈ reached.tabBars,
          tabBar.childCoordinators = [.home, .search, .favorites, .profile] ∧
          ∀ tab, (tabBar.viewControllers tab).getLast? = some (.root tab)) ∧
      reached.tabBars.map (fun tabBar => detailsOf tabBar .search) = [[], [plov]] := by
  obtain ⟨reached, arrived, details⟩ :
      ∃ reached, run step (.launch true ⟨some "token", none, none⟩) signedOutOver = some reached ∧
        reached.tabBars.map (fun tabBar => detailsOf tabBar .search) = [[], [plov]] :=
    ⟨_, rfl, rfl⟩
  exact ⟨reached, arrived, tabs_refine _ _ signedOutOver reached arrived, details⟩

end SmartMeal.TabNavigation
