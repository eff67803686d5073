/-
What the two list screens display, and what a tap on them opens.

A cell is configured once for its row and keeps what it displays until the queued
`reloadData` block runs, while a tap asks the view models of the moment.  A tap opens the
recipe that its cell displays throughout a run exactly when every list that arrives has
the displayed recipes at their rows.
-/

import SmartMeal.ListScreens
import SmartMeal.PayloadSafety
import SmartMeal.FavoritesMirror

namespace SmartMeal.ListControllers

open PartialStep ObjectHeap Screens ListScreens

/-- `displayed` holds the recipe that the cell of a row was configured for, `isHidden` is
that of the label of an empty list of favorites, and `opened` is history. -/
structure Controllers where
  lists : Lists
  displayed : Screen → Nat → Option Recipe
  isHidden : Bool
  opened : List (Screen × Recipe)

namespace Controllers

def launch (defaults : UserDefaults) : Controllers :=
  { lists := .launch defaults, displayed := fun _ _ => none, isHidden := true, opened := [] }

def viewModelAt (controllers : Controllers) (screen : Screen) (row : Nat) :
    Option CollectionCellViewModel :=
  (controllers.lists.getCollectionCellViewModel screen row).bind fun ref =>
    controllers.lists.screens.viewModels[ref]?

/-- The block of a reload discards the cells, and that of the favorites screen shows or
hides the label as well. -/
def follow (controllers : Controllers) (lists : Lists) : ListScreens.Action → Controllers
  | .reloadData .favorites =>
      { controllers with
        lists := lists
        displayed := Function.update controllers.displayed .favorites fun _ => none
        isHidden := (lists.collectionCellViewModels .favorites).length != 0 }
  | .reloadData .search =>
      { controllers with
        lists := lists
        displayed := Function.update controllers.displayed .search fun _ => none }
  | _ => { controllers with lists := lists }

/-- `collectionView(_:cellForItemAt:)`; absent when the index or the cell traps. -/
def cellForItemAt (controllers : Controllers) (screen : Screen) (row : Nat) :
    Option Controllers := do
  let viewModel ← controllers.viewModelAt screen row
  let _content ← RecipeCellContent.configure viewModel
  pure
    { controllers with
      displayed := Function.update controllers.displayed screen
        (Function.update (controllers.displayed screen) row (some viewModel.recipe)) }

/-- `collectionView(_:didSelectItemAt:)`, `showDetail(for:)` and the `updateUI` of the
screen that is pushed; absent when one of them traps. -/
def didSelectItemAt (controllers : Controllers) (screen : Screen) (row : Nat) :
    Option Controllers := do
  let viewModel ← controllers.viewModelAt screen row
  let _content ← DetailContent.updateUI viewModel.recipe
  pure { controllers with opened := controllers.opened ++ [(screen, viewModel.recipe)] }

end Controllers

inductive Action where
  | list (action : ListScreens.Action)
  | cellForItemAt (screen : Screen) (row : Nat)
  | didSelectItemAt (screen : Screen) (row : Nat)

def admits (lists : Lists) : ListScreens.Action → Bool
  | .update (.searchLoaded _) => (lists.views .search).loaded
  | .update (.updateSearchController _) => (lists.views .search).loaded
  | _ => true

def step (text : TextSearch) : Transition Controllers Action
  | controllers, .list action =>
      if admits controllers.lists action then
        (ListScreens.step text controllers.lists action).map fun lists =>
          controllers.follow lists action
      else none
  | controllers, .cellForItemAt screen row =>
      if row < (controllers.lists.views screen).numberOfItems then
        controllers.cellForItemAt screen row
      else none
  | controllers, .didSelectItemAt screen row =>
      if (controllers.displayed screen row).isSome then controllers.didSelectItemAt screen row
      else none

variable (text : TextSearch)

def OpensDisplayed (controllers : Controllers) : Prop :=
  ∀ screen row recipe, controllers.displayed screen row = some recipe →
    step text controllers (.didSelectItemAt screen row) =
      some { controllers with opened := controllers.opened ++ [(screen, recipe)] }

/-- A list that arrives has the displayed recipes at their rows. -/
def KeepsDisplayed (controllers : Controllers) : Action → Prop
  | .list (.update action) => ∀ screen recipes,
      delivered text controllers.lists.screens screen action = some recipes →
        ∀ row recipe, controllers.displayed screen row = some recipe → recipes[row]? = some recipe
  | _ => True

/-! ### What the rows stand for -/

def recipeAt (lists : Lists) (screen : Screen) (row : Nat) : Option Recipe :=
  (lists.getCollectionCellViewModel screen row).bind fun ref =>
    (lists.screens.viewModels[ref]?).map CollectionCellViewModel.recipe

variable {text} {lists after : Lists} {controllers next : Controllers}

theorem map_viewModelAt (controllers : Controllers) (screen : Screen) (row : Nat) :
    (controllers.viewModelAt screen row).map CollectionCellViewModel.recipe =
      recipeAt controllers.lists screen row :=
  Option.map_bind

private theorem recipeAt_of_shows {screen : Screen} {recipes : List Recipe}
    (shows : lists.screens.Shows (lists.collectionCellViewModels screen) recipes) (row : Nat) :
    recipeAt lists screen row = recipes[row]? :=
  shows.read_at row

theorem shows_delivered {action : Screens.Action} {screen : Screen} {recipes : List Recipe}
    (taken : ListScreens.step text lists (.update action) = some after)
    (arrives : delivered text lists.screens screen action = some recipes) :
    after.screens.Shows (after.collectionCellViewModels screen) recipes := by
  obtain ⟨screens, stepped, rfl⟩ := Option.map_eq_some_iff.mp taken
  cases action with
  | toggleFavorite ref =>
      obtain ⟨viewModel, found, rfl⟩ := step_toggleFavorite stepped
      rw [toggleFavorite_eq found]
      cases screen with
      | favorites =>
          cases arrives
          have notified := (FavoritesMirror.mirrors_notified lists.screens
            (lists.screens.changedDefaults (.toggleFavorite ref))).shown
          exact notified.kept (fieldKept_toggled found _ _)
      | search =>
          cases arrives
          exact (SearchResults.shows_notified lists.screens _).kept (fieldKept_toggled found _ _)
  | synced answer =>
      rw [step_synced stepped]
      cases screen with
      | favorites =>
          cases arrives
          exact (FavoritesMirror.mirrors_notified lists.screens _).shown
      | search =>
          cases arrives
          exact SearchResults.shows_notified lists.screens _
  | loadFavorites =>
      cases stepped
      cases screen with
      | favorites =>
          cases arrives
          exact reads_created lists.screens _
      | search => cases arrives
  | searchLoaded loaded =>
      cases stepped
      cases screen with
      | favorites => cases arrives
      | search =>
          cases arrives
          exact reads_created lists.screens _
  | updateSearchController searchBarText =>
      cases stepped
      cases screen with
      | favorites => cases arrives
      | search =>
          cases arrives
          unfold updateSearchController typedRecipes
          simp only
          split
          · exact reads_created lists.screens _
          · exact reads_created lists.screens _
  | _ => cases screen <;> cases arrives

theorem collectionCellViewModels_of_undelivered {action : Screens.Action} {screen : Screen}
    (taken : ListScreens.step text lists (.update action) = some after)
    (nothing : delivered text lists.screens screen action = none) :
    after.collectionCellViewModels screen = lists.collectionCellViewModels screen := by
  obtain ⟨screens, stepped, rfl⟩ := Option.map_eq_some_iff.mp taken
  cases action with
  | toggleFavorite ref => cases screen <;> cases nothing
  | synced answer => cases screen <;> cases nothing
  | loadFavorites =>
      cases stepped
      cases screen with
      | favorites => cases nothing
      | search => rfl
  | searchLoaded recipes =>
      cases stepped
      cases screen with
      | favorites => rfl
      | search => cases nothing
  | updateSearchController searchBarText =>
      cases stepped
      cases screen with
      | favorites =>
          obtain ⟨search, recipes, same⟩ :=
            updateSearchController_eq text searchBarText lists.screens
          rw [same]
          rfl
      | search => cases nothing
  | configure reused atSection => cases reused <;> cases stepped <;> cases screen <;> rfl
  | _ => cases stepped; cases screen <;> rfl

theorem recipeAt_of_undelivered {action : Screens.Action} {screen : Screen} {row : Nat}
    {recipe : Recipe} (taken : ListScreens.step text lists (.update action) = some after)
    (nothing : delivered text lists.screens screen action = none)
    (stands : recipeAt lists screen row = some recipe) :
    recipeAt after screen row = some recipe := by
  have same := collectionCellViewModels_of_undelivered taken nothing
  obtain ⟨screens, stepped, rfl⟩ := Option.map_eq_some_iff.mp taken
  obtain ⟨ref, at_row, found⟩ := Option.bind_eq_some_iff.mp stands
  apply Option.bind_eq_some_iff.mpr
  refine ⟨ref, ?_, fieldKept_step stepped ref recipe found⟩
  unfold Lists.getCollectionCellViewModel at at_row ⊢
  rw [same]
  exact at_row

/-! ### What the cells display -/

structure Displays (controllers : Controllers) : Prop where
  unread : Unread controllers.lists
  within : ∀ screen row recipe, controllers.displayed screen row = some recipe →
    row < (controllers.lists.views screen).numberOfItems
  pictured : ∀ screen row recipe, controllers.displayed screen row = some recipe →
    recipe.imageUrl.isSome = true

/-- The cells display the recipes that their rows stand for now. -/
def Agrees (controllers : Controllers) : Prop :=
  ∀ screen row recipe, controllers.displayed screen row = some recipe →
    recipeAt controllers.lists screen row = some recipe

private theorem cellForItemAt_eq_some {screen : Screen} {row : Nat}
    (taken : controllers.cellForItemAt screen row = some next) :
    ∃ viewModel, controllers.viewModelAt screen row = some viewModel ∧
      viewModel.recipe.imageUrl.isSome = true ∧
      next = { controllers with
        displayed := Function.update controllers.displayed screen
          (Function.update (controllers.displayed screen) row (some viewModel.recipe)) } := by
  obtain ⟨viewModel, found, taken⟩ := Option.bind_eq_some_iff.mp taken
  obtain ⟨content, configured, same⟩ := Option.bind_eq_some_iff.mp taken
  obtain ⟨address, unwrapped, _⟩ := Option.bind_eq_some_iff.mp configured
  have pictured : viewModel.recipe.imageUrl.isSome = true :=
    Option.isSome_iff_exists.mpr ⟨address, unwrapped⟩
  exact ⟨viewModel, found, pictured, (Option.some.inj same).symm⟩

private theorem didSelectItemAt_eq_some {screen : Screen} {row : Nat}
    (taken : controllers.didSelectItemAt screen row = some next) :
    ∃ recipe, recipeAt controllers.lists screen row = some recipe ∧
      next = { controllers with opened := controllers.opened ++ [(screen, recipe)] } := by
  obtain ⟨viewModel, found, taken⟩ := Option.bind_eq_some_iff.mp taken
  obtain ⟨content, _, same⟩ := Option.bind_eq_some_iff.mp taken
  refine ⟨viewModel.recipe, ?_, (Option.some.inj same).symm⟩
  rw [← map_viewModelAt, found]
  rfl

private theorem didSelectItemAt_of_recipeAt {screen : Screen} {row : Nat} {recipe : Recipe}
    (stands : recipeAt controllers.lists screen row = some recipe)
    (pictured : recipe.imageUrl.isSome = true) :
    controllers.didSelectItemAt screen row =
      some { controllers with opened := controllers.opened ++ [(screen, recipe)] } := by
  rw [← map_viewModelAt] at stands
  obtain ⟨viewModel, found, rfl⟩ := Option.map_eq_some_iff.mp stands
  obtain ⟨address, unwrapped⟩ := Option.isSome_iff_exists.mp pictured
  unfold Controllers.didSelectItemAt DetailContent.updateUI
  rw [found, Option.bind_eq_bind, Option.bind_some, unwrapped]
  rfl

private theorem opensDisplayed_iff (displays : Displays controllers) :
    OpensDisplayed text controllers ↔ Agrees controllers := by
  constructor
  · intro opens screen row recipe shown
    have taken := opens screen row recipe shown
    have present : (controllers.displayed screen row).isSome = true := by
      rw [shown]
      rfl
    simp only [step, if_pos present] at taken
    obtain ⟨opened, stands, same⟩ := didSelectItemAt_eq_some taken
    have histories := congrArg Controllers.opened same
    obtain ⟨_, last⟩ := List.append_inj' histories rfl
    rw [stands, ← (Prod.mk.inj (List.cons.inj last).1).2]
  · intro agrees screen row recipe shown
    have present : (controllers.displayed screen row).isSome = true := by
      rw [shown]
      rfl
    simp only [step, if_pos present]
    exact didSelectItemAt_of_recipeAt (agrees screen row recipe shown)
      (displays.pictured screen row recipe shown)

/-! ### One step -/

theorem step_list {action : ListScreens.Action}
    (taken : step text controllers (.list action) = some next) :
    ∃ lists, admits controllers.lists action = true ∧
      ListScreens.step text controllers.lists action = some lists ∧
        next = controllers.follow lists action := by
  simp only [step] at taken
  split at taken
  · rename_i admitted
    obtain ⟨lists, stepped, same⟩ := Option.map_eq_some_iff.mp taken
    exact ⟨lists, admitted, stepped, same.symm⟩
  · cases taken

theorem step_cellForItemAt {screen : Screen} {row : Nat}
    (taken : step text controllers (.cellForItemAt screen row) = some next) :
    ∃ recipe, row < (controllers.lists.views screen).numberOfItems ∧
      recipeAt controllers.lists screen row = some recipe ∧ recipe.imageUrl.isSome = true ∧
        next = { controllers with
          displayed := Function.update controllers.displayed screen
            (Function.update (controllers.displayed screen) row (some recipe)) } := by
  simp only [step] at taken
  split at taken
  · rename_i inside
    obtain ⟨viewModel, found, pictured, same⟩ := cellForItemAt_eq_some taken
    refine ⟨viewModel.recipe, inside, ?_, pictured, same⟩
    rw [← map_viewModelAt, found]
    rfl
  · cases taken

theorem step_didSelectItemAt {screen : Screen} {row : Nat}
    (taken : step text controllers (.didSelectItemAt screen row) = some next) :
    ∃ recipe, next = { controllers with opened := controllers.opened ++ [(screen, recipe)] } := by
  simp only [step] at taken
  split at taken
  · obtain ⟨recipe, _, same⟩ := didSelectItemAt_eq_some taken
    exact ⟨recipe, same⟩
  · cases taken

theorem step_viewDidLoad {screen : Screen}
    (taken : ListScreens.step text lists (.viewDidLoad screen) = some after) :
    (lists.views screen).loaded = false ∧ after = lists.viewDidLoad screen := by
  simp only [ListScreens.step] at taken
  split at taken
  · cases taken
  · rename_i unloaded
    exact ⟨Bool.eq_false_iff.mpr unloaded, (Option.some.inj taken).symm⟩

theorem step_reloadData {screen : Screen}
    (taken : ListScreens.step text lists (.reloadData screen) = some after) :
    0 < (lists.views screen).reloads ∧ after = lists.reloadData screen := by
  simp only [ListScreens.step] at taken
  split at taken
  · rename_i queued
    exact ⟨queued, (Option.some.inj taken).symm⟩
  · cases taken

theorem step_query {screen : Screen} {row : Nat}
    (taken : ListScreens.step text lists (.query screen row) = some after) : after = lists := by
  simp only [ListScreens.step] at taken
  split at taken
  · exact (Option.some.inj taken).symm
  · cases taken

@[simp]
theorem lists_follow (controllers : Controllers) (lists : Lists) (action : ListScreens.Action) :
    (controllers.follow lists action).lists = lists := by
  cases action with
  | reloadData screen => cases screen <;> rfl
  | _ => rfl

private theorem displayed_reloadData (controllers : Controllers) (lists : Lists) (screen : Screen) :
    (controllers.follow lists (.reloadData screen)).displayed =
      Function.update controllers.displayed screen fun _ => none := by
  cases screen <;> rfl

theorem displayed_of_reloadData {screen other : Screen} {row : Nat} {recipe : Recipe}
    (shown : (controllers.follow lists (.reloadData screen)).displayed other row = some recipe) :
    other ≠ screen ∧ controllers.displayed other row = some recipe := by
  rw [displayed_reloadData] at shown
  by_cases same : other = screen
  · subst other
    rw [Function.update_self] at shown
    cases shown
  · rw [Function.update_of_ne same] at shown
    exact ⟨same, shown⟩

theorem displayed_of_cellForItemAt {displayed : Screen → Nat → Option Recipe}
    {screen other : Screen} {row otherRow : Nat} {configured recipe : Recipe}
    (shown : Function.update displayed screen
      (Function.update (displayed screen) row (some configured)) other otherRow = some recipe) :
    (other = screen ∧ otherRow = row ∧ configured = recipe) ∨
      displayed other otherRow = some recipe := by
  by_cases same : other = screen
  · subst other
    rw [Function.update_self] at shown
    by_cases here : otherRow = row
    · subst otherRow
      rw [Function.update_self] at shown
      exact Or.inl ⟨rfl, rfl, Option.some.inj shown⟩
    · rw [Function.update_of_ne here] at shown
      exact Or.inr shown
  · rw [Function.update_of_ne same] at shown
    exact Or.inr shown

private theorem numberOfItems_viewDidLoad (lists : Lists) (screen other : Screen) :
    ((lists.viewDidLoad screen).views other).numberOfItems =
      (lists.views other).numberOfItems := by
  cases screen <;> cases other <;> rfl

private theorem displays_list {action : ListScreens.Action} (displays : Displays controllers)
    (taken : ListScreens.step text controllers.lists action = some after) :
    Displays (controllers.follow after action) := by
  have unread := unread_step displays.unread taken
  cases action with
  | viewDidLoad screen =>
      obtain ⟨_, rfl⟩ := step_viewDidLoad taken
      refine ⟨unread, ?_, displays.pictured⟩
      intro other row recipe shown
      change row < ((controllers.lists.viewDidLoad screen).views other).numberOfItems
      rw [numberOfItems_viewDidLoad]
      exact displays.within other row recipe shown
  | update action =>
      obtain ⟨screens, _, rfl⟩ := Option.map_eq_some_iff.mp taken
      refine ⟨unread, ?_, displays.pictured⟩
      intro other row recipe shown
      change row < ((controllers.lists.views other).queue _).numberOfItems
      rw [CollectionView.numberOfItems_queue]
      exact displays.within other row recipe shown
  | reloadData screen =>
      obtain ⟨_, rfl⟩ := step_reloadData taken
      constructor
      · rw [lists_follow]
        exact unread
      · intro other row recipe shown
        obtain ⟨different, before⟩ := displayed_of_reloadData shown
        rw [lists_follow]
        unfold Lists.reloadData
        rw [views_setView_of_ne _ _ different]
        exact displays.within other row recipe before
      · intro other row recipe shown
        exact displays.pictured other row recipe (displayed_of_reloadData shown).2
  | query screen row =>
      rw [step_query taken]
      exact displays

theorem displays_step {action : Action} (displays : Displays controllers)
    (taken : step text controllers action = some next) : Displays next := by
  cases action with
  | list action =>
      obtain ⟨lists, _, stepped, rfl⟩ := step_list taken
      exact displays_list displays stepped
  | cellForItemAt screen row =>
      obtain ⟨configured, inside, _, pictured, rfl⟩ := step_cellForItemAt taken
      refine ⟨displays.unread, ?_, ?_⟩
      · intro other otherRow recipe shown
        rcases displayed_of_cellForItemAt shown with ⟨rfl, rfl, _⟩ | before
        · exact inside
        · exact displays.within other otherRow recipe before
      · intro other otherRow recipe shown
        rcases displayed_of_cellForItemAt shown with ⟨_, _, rfl⟩ | before
        · exact pictured
        · exact displays.pictured other otherRow recipe before
  | didSelectItemAt screen row =>
      obtain ⟨recipe, rfl⟩ := step_didSelectItemAt taken
      exact ⟨displays.unread, displays.within, displays.pictured⟩

/-- The lists that arrive are all that may part the rows from what is displayed. -/
private theorem agrees_update_iff {action : Screens.Action} (agrees : Agrees controllers)
    (taken : ListScreens.step text controllers.lists (.update action) = some after) :
    Agrees { controllers with lists := after } ↔
      KeepsDisplayed text controllers (.list (.update action)) := by
  constructor
  · intro later screen recipes arrives row recipe shown
    rw [← recipeAt_of_shows (shows_delivered taken arrives) row]
    exact later screen row recipe shown
  · intro keeps screen row recipe shown
    change recipeAt after screen row = some recipe
    cases arrives : delivered text controllers.lists.screens screen action with
    | none => exact recipeAt_of_undelivered taken arrives (agrees screen row recipe shown)
    | some recipes =>
        rw [recipeAt_of_shows (shows_delivered taken arrives) row]
        exact keeps screen recipes arrives row recipe shown

private theorem agrees_viewDidLoad {screen : Screen} (displays : Displays controllers)
    (agrees : Agrees controllers) (unloaded : (controllers.lists.views screen).loaded = false) :
    Agrees { controllers with lists := controllers.lists.viewDidLoad screen } := by
  intro other row recipe shown
  have inside := displays.within other row recipe shown
  have stands := agrees other row recipe shown
  cases screen with
  | search => cases other <;> exact stands
  | favorites =>
      cases other with
      | favorites =>
          rw [displays.unread .favorites unloaded] at inside
          exact absurd inside (Nat.not_lt_zero row)
      | search =>
          obtain ⟨ref, at_row, found⟩ := Option.bind_eq_some_iff.mp stands
          exact Option.bind_eq_some_iff.mpr
            ⟨ref, at_row, fieldKept_append _ _ ref recipe found⟩

private theorem agrees_step {action : Action} (displays : Displays controllers)
    (agrees : Agrees controllers) (taken : step text controllers action = some next) :
    Agrees next ↔ KeepsDisplayed text controllers action := by
  cases action with
  | list action =>
      obtain ⟨lists, _, stepped, rfl⟩ := step_list taken
      cases action with
      | viewDidLoad screen =>
          obtain ⟨unloaded, rfl⟩ := step_viewDidLoad stepped
          exact iff_of_true (agrees_viewDidLoad displays agrees unloaded) trivial
      | update action => exact agrees_update_iff agrees stepped
      | reloadData screen =>
          obtain ⟨_, rfl⟩ := step_reloadData stepped
          refine iff_of_true ?_ trivial
          intro other row recipe shown
          rw [lists_follow]
          exact agrees other row recipe (displayed_of_reloadData shown).2
      | query screen row =>
          rw [step_query stepped]
          exact iff_of_true agrees trivial
  | cellForItemAt screen row =>
      obtain ⟨configured, _, stands, _, rfl⟩ := step_cellForItemAt taken
      refine iff_of_true ?_ trivial
      intro other otherRow recipe shown
      rcases displayed_of_cellForItemAt shown with ⟨rfl, rfl, rfl⟩ | before
      · exact stands
      · exact agrees other otherRow recipe before
  | didSelectItemAt screen row =>
      obtain ⟨recipe, rfl⟩ := step_didSelectItemAt taken
      exact iff_of_true agrees trivial

theorem displays_launch (defaults : UserDefaults) : Displays (.launch defaults) where
  unread := fun _ _ => rfl
  within := by intro screen row recipe impossible; cases impossible
  pictured := by intro screen row recipe impossible; cases impossible

/-- From a launch with any stored favorites, every tap on a displayed cell opens the recipe
that the cell displays, throughout a run, exactly when each list that arrives has every
recipe that is displayed on its screen at the row where it is displayed. -/
theorem opensDisplayed_throughout_iff (text : TextSearch) (defaults : UserDefaults)
    (actions : List Action) :
    Throughout (step text) (OpensDisplayed text) (.launch defaults) actions ↔
      EachStep (step text) (KeepsDisplayed text) (.launch defaults) actions := by
  refine throughout_iff_eachStep Displays ?_ ?_ (eachStep_of_forall (fun _ _ => trivial) _ actions)
    (displays_launch defaults) ?_
  · intro controllers action next displays taken
    exact displays_step displays taken
  · intro controllers action next displays opens _ taken
    rw [opensDisplayed_iff (displays_step displays taken)]
    exact agrees_step displays ((opensDisplayed_iff displays).mp opens) taken
  · rw [opensDisplayed_iff (displays_launch defaults)]
    intro screen row recipe impossible
    cases impossible

end SmartMeal.ListControllers
