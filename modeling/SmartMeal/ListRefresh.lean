/-
That the list screens catch up with their lists.

What a screen displays lags behind its view models only while a reload is queued.  From
any state that can be reached, once the queued blocks of a loaded screen have run it is
up to date: its rows, its number of items, and on the favorites screen the stored
favorites and the label that stands for an empty list.
-/

import SmartMeal.ListControllers

namespace SmartMeal.ListRefresh

open PartialStep ObjectHeap ListControllers
open Screens hiding step Action launch
open ListScreens hiding step Action

/-- The view has read all its items, its cells display the recipes of their rows, and the
favorites are those stored, with the label there only when there are none. -/
structure UpToDate (controllers : Controllers) (screen : Screen) : Prop where
  counted : (controllers.lists.views screen).numberOfItems =
    (controllers.lists.collectionCellViewModels screen).length
  displays : ∀ row recipe, controllers.displayed screen row = some recipe →
    (controllers.viewModelAt screen row).map CollectionCellViewModel.recipe = some recipe
  favorites : screen = .favorites →
    controllers.lists.screens.Shows (controllers.lists.collectionCellViewModels .favorites)
        (getFavorites controllers.lists.screens.defaults) ∧
      controllers.isHidden = !(getFavorites controllers.lists.screens.defaults).isEmpty

variable {text : TextSearch} {lists after : Lists} {controllers next : Controllers}

/-! ### Once no reload is queued -/

structure Caught (controllers : Controllers) (screen : Screen) : Prop where
  counted : (controllers.lists.views screen).numberOfItems =
    (controllers.lists.collectionCellViewModels screen).length
  agrees : ∀ row recipe, controllers.displayed screen row = some recipe →
    recipeAt controllers.lists screen row = some recipe
  labelled : screen = .favorites →
    controllers.isHidden = ((controllers.lists.collectionCellViewModels .favorites).length != 0)

structure Current (controllers : Controllers) : Prop where
  displays : Displays controllers
  bare : (controllers.lists.views .search).loaded = false →
    controllers.lists.screens.search = ⟨[], [], []⟩
  stored : (controllers.lists.views .favorites).loaded = true →
    controllers.lists.screens.Shows (controllers.lists.collectionCellViewModels .favorites)
      (getFavorites controllers.lists.screens.defaults)
  caught : ∀ screen, (controllers.lists.views screen).loaded = true →
    (controllers.lists.views screen).reloads = 0 → Caught controllers screen

private theorem assignments_pos {screens : Screens} {action : Screens.Action} {screen : Screen}
    {recipes : List Recipe} (arrives : delivered text screens screen action = some recipes) :
    0 < assignments screen action := by
  cases screen with
  | favorites =>
      cases action with
      | loadFavorites => exact Nat.one_pos
      | toggleFavorite ref => exact Nat.one_pos
      | synced answer => exact Nat.one_pos
      | _ => cases arrives
  | search =>
      cases action with
      | searchLoaded recipes => exact Nat.one_pos
      | updateSearchController searchBarText => exact Nat.one_pos
      | toggleFavorite ref => exact Nat.one_pos
      | synced answer => exact Nat.one_pos
      | _ => cases arrives

private theorem delivered_favorites {screens : Screens} {action : Screens.Action}
    {recipes : List Recipe}
    (arrives : delivered text screens .favorites action = some recipes) :
    recipes = getFavorites (screens.changedDefaults action) := by
  cases action with
  | loadFavorites => exact (Option.some.inj arrives).symm
  | toggleFavorite ref => exact (Option.some.inj arrives).symm
  | synced answer => exact (Option.some.inj arrives).symm
  | _ => cases arrives

private theorem changedDefaults_of_undelivered {screens : Screens} {action : Screens.Action}
    (nothing : delivered text screens .favorites action = none) :
    screens.changedDefaults action = screens.defaults := by
  cases action with
  | toggleFavorite ref => cases nothing
  | synced answer => cases nothing
  | _ => rfl

private theorem undelivered_of_idle {action : Screens.Action} {screen : Screen}
    (taken : ListScreens.step text lists (.update action) = some after)
    (loaded : (after.views screen).loaded = true) (idle : (after.views screen).reloads = 0) :
    delivered text lists.screens screen action = none ∧
      after.views screen = lists.views screen := by
  obtain ⟨screens, _, rfl⟩ := Option.map_eq_some_iff.mp taken
  simp only [CollectionView.loaded_queue] at loaded
  simp only [CollectionView.queue, if_pos loaded] at idle ⊢
  constructor
  · cases arrives : delivered text lists.screens screen action with
    | none => rfl
    | some recipes =>
        have queued := assignments_pos arrives
        omega
  · have none_queued : assignments screen action + notifications screen action = 0 := by omega
    rw [none_queued, Nat.add_zero]

private theorem caught_update {action : Screens.Action} {screen : Screen}
    (current : Current controllers)
    (taken : ListScreens.step text controllers.lists (.update action) = some after)
    (loaded : (after.views screen).loaded = true) (idle : (after.views screen).reloads = 0) :
    Caught { controllers with lists := after } screen := by
  obtain ⟨nothing, same⟩ := undelivered_of_idle taken loaded idle
  have kept := collectionCellViewModels_of_undelivered taken nothing
  rw [same] at loaded idle
  obtain ⟨counted, agrees, labelled⟩ := current.caught screen loaded idle
  constructor
  · change (after.views screen).numberOfItems = (after.collectionCellViewModels screen).length
    rw [same, kept]
    exact counted
  · intro row recipe shown
    exact recipeAt_of_undelivered taken nothing (agrees row recipe shown)
  · intro favorites
    subst favorites
    change controllers.isHidden = ((after.collectionCellViewModels .favorites).length != 0)
    rw [kept]
    exact labelled rfl

private theorem stored_update {action : Screens.Action} (current : Current controllers)
    (taken : ListScreens.step text controllers.lists (.update action) = some after)
    (loaded : (after.views .favorites).loaded = true) :
    after.screens.Shows (after.collectionCellViewModels .favorites)
      (getFavorites after.screens.defaults) := by
  have defaults : after.screens.defaults = controllers.lists.screens.changedDefaults action := by
    obtain ⟨screens, stepped, rfl⟩ := Option.map_eq_some_iff.mp taken
    exact step_defaults stepped
  rw [defaults]
  cases arrives : delivered text controllers.lists.screens .favorites action with
  | some recipes =>
      rw [← delivered_favorites arrives]
      exact shows_delivered taken arrives
  | none =>
      rw [changedDefaults_of_undelivered arrives,
        collectionCellViewModels_of_undelivered taken arrives]
      obtain ⟨screens, stepped, rfl⟩ := Option.map_eq_some_iff.mp taken
      have before : (controllers.lists.views .favorites).loaded = true := by
        simpa using loaded
      exact (current.stored before).kept (fieldKept_step stepped)

private theorem search_update {action : Screens.Action}
    (admitted : admits lists (.update action) = true)
    (unloaded : (lists.views .search).loaded = false)
    (bare : lists.screens.search = ⟨[], [], []⟩)
    (taken : ListScreens.step text lists (.update action) = some after) :
    after.screens.search = ⟨[], [], []⟩ := by
  obtain ⟨screens, stepped, rfl⟩ := Option.map_eq_some_iff.mp taken
  have notified : ∀ defaults, (lists.screens.notified defaults).search = ⟨[], [], []⟩ := by
    intro defaults
    simp only [notified, loadFavorites, searchUpdateFavorites, updateCollectionViewModels,
      cellsUpdateFavorites, created, bare]
    rfl
  cases action with
  | toggleFavorite ref =>
      obtain ⟨viewModel, found, rfl⟩ := step_toggleFavorite stepped
      rw [toggleFavorite_eq found]
      exact notified _
  | synced answer =>
      rw [step_synced stepped]
      exact notified _
  | searchLoaded recipes =>
      change (lists.views .search).loaded = true at admitted
      rw [unloaded] at admitted
      cases admitted
  | updateSearchController searchBarText =>
      change (lists.views .search).loaded = true at admitted
      rw [unloaded] at admitted
      cases admitted
  | configure reused atSection => cases reused <;> cases stepped <;> exact bare
  | _ => cases stepped; exact bare

private theorem current_viewDidLoad {screen : Screen} (current : Current controllers)
    (unloaded : (controllers.lists.views screen).loaded = false)
    (displays : Displays { controllers with lists := controllers.lists.viewDidLoad screen }) :
    Current { controllers with lists := controllers.lists.viewDidLoad screen } := by
  cases screen with
  | favorites =>
      refine ⟨displays, current.bare, ?_, ?_⟩
      · intro _
        exact reads_created controllers.lists.screens _
      · intro other loaded idle
        cases other with
        | favorites => cases idle
        | search =>
            obtain ⟨counted, agrees, _⟩ := current.caught .search loaded idle
            refine ⟨counted, ?_, fun impossible => by cases impossible⟩
            intro row recipe shown
            obtain ⟨ref, at_row, found⟩ := Option.bind_eq_some_iff.mp (agrees row recipe shown)
            exact Option.bind_eq_some_iff.mpr
              ⟨ref, at_row, fieldKept_append _ _ ref recipe found⟩
  | search =>
      refine ⟨displays, (fun impossible => by cases impossible), current.stored, ?_⟩
      intro other loaded idle
      cases other with
      | favorites =>
          obtain ⟨counted, agrees, labelled⟩ := current.caught .favorites loaded idle
          exact ⟨counted, agrees, labelled⟩
      | search =>
          have nothing : controllers.lists.screens.search = ⟨[], [], []⟩ := current.bare unloaded
          have unseen := current.displays.unread .search unloaded
          refine ⟨?_, ?_, fun impossible => by cases impossible⟩
          · change (controllers.lists.views .search).numberOfItems =
              controllers.lists.screens.search.collectionCellViewModels.length
            rw [unseen, nothing]
            rfl
          · intro row recipe shown
            have inside := current.displays.within .search row recipe shown
            rw [unseen] at inside
            exact absurd inside (Nat.not_lt_zero row)

private theorem caught_reloadData {screen : Screen} (controllers : Controllers) :
    Caught (controllers.follow (controllers.lists.reloadData screen) (.reloadData screen))
      screen := by
  constructor
  · rw [lists_follow]
    unfold Lists.reloadData
    rw [views_setView_self]
    rfl
  · intro row recipe shown
    exact absurd rfl (displayed_of_reloadData shown).1
  · intro favorites
    subst favorites
    rfl

private theorem current_reloadData {screen : Screen} (current : Current controllers)
    (displays : Displays
      (controllers.follow (controllers.lists.reloadData screen) (.reloadData screen))) :
    Current (controllers.follow (controllers.lists.reloadData screen) (.reloadData screen)) := by
  have loaded_same : ∀ other, ((controllers.lists.reloadData screen).views other).loaded =
      (controllers.lists.views other).loaded := by
    intro other
    unfold Lists.reloadData
    by_cases same : other = screen
    · subst same
      rw [views_setView_self]
    · rw [views_setView_of_ne _ _ same]
  refine ⟨displays, ?_, ?_, ?_⟩
  · rw [lists_follow, loaded_same]
    exact current.bare
  · rw [lists_follow, loaded_same]
    exact current.stored
  · intro other loaded idle
    by_cases same : other = screen
    · subst same
      exact caught_reloadData controllers
    · rw [lists_follow] at loaded idle
      rw [loaded_same] at loaded
      unfold Lists.reloadData at idle
      rw [views_setView_of_ne _ _ same] at idle
      obtain ⟨counted, agrees, labelled⟩ := current.caught other loaded idle
      constructor
      · rw [lists_follow]
        unfold Lists.reloadData
        rw [views_setView_of_ne _ _ same]
        exact counted
      · intro row recipe shown
        rw [lists_follow]
        exact agrees row recipe (displayed_of_reloadData shown).2
      · intro favorites
        subst favorites
        cases screen with
        | favorites => exact absurd rfl same
        | search => exact labelled rfl

private theorem current_step {action : Action} (current : Current controllers)
    (taken : step text controllers action = some next) : Current next := by
  have displays := displays_step current.displays taken
  cases action with
  | list action =>
      obtain ⟨lists, admitted, stepped, rfl⟩ := step_list taken
      cases action with
      | viewDidLoad screen =>
          obtain ⟨unloaded, rfl⟩ := step_viewDidLoad stepped
          exact current_viewDidLoad current unloaded displays
      | update action =>
          have loaded_same : ∀ screen, (lists.views screen).loaded =
              (controllers.lists.views screen).loaded := by
            obtain ⟨screens, _, rfl⟩ := Option.map_eq_some_iff.mp stepped
            intro screen
            exact CollectionView.loaded_queue _ _
          refine ⟨displays, ?_, stored_update current stepped, ?_⟩
          · intro unloaded
            rw [lists_follow, loaded_same] at unloaded
            exact search_update admitted unloaded (current.bare unloaded) stepped
          · intro screen loaded idle
            exact caught_update current stepped loaded idle
      | reloadData screen =>
          obtain ⟨_, rfl⟩ := step_reloadData stepped
          exact current_reloadData current displays
      | query screen row =>
          rw [step_query stepped]
          exact current
  | cellForItemAt screen row =>
      obtain ⟨configured, _, stands, _, rfl⟩ := step_cellForItemAt taken
      refine ⟨displays, current.bare, current.stored, ?_⟩
      intro other loaded idle
      obtain ⟨counted, agrees, labelled⟩ := current.caught other loaded idle
      refine ⟨counted, ?_, labelled⟩
      intro otherRow recipe shown
      rcases displayed_of_cellForItemAt shown with ⟨rfl, rfl, rfl⟩ | before
      · exact stands
      · exact agrees otherRow recipe before
  | didSelectItemAt screen row =>
      obtain ⟨recipe, rfl⟩ := step_didSelectItemAt taken
      refine ⟨displays, current.bare, current.stored, ?_⟩
      intro other loaded idle
      obtain ⟨counted, agrees, labelled⟩ := current.caught other loaded idle
      exact ⟨counted, agrees, labelled⟩

private theorem current_launch (defaults : UserDefaults) : Current (.launch defaults) where
  displays := displays_launch defaults
  bare := fun _ => rfl
  stored := by intro impossible; cases impossible
  caught := by intro screen impossible; cases impossible

private theorem upToDate_of_current {screen : Screen} (current : Current controllers)
    (loaded : (controllers.lists.views screen).loaded = true)
    (idle : (controllers.lists.views screen).reloads = 0) : UpToDate controllers screen := by
  obtain ⟨counted, agrees, labelled⟩ := current.caught screen loaded idle
  refine ⟨counted, ?_, ?_⟩
  · intro row recipe shown
    rw [map_viewModelAt]
    exact agrees row recipe shown
  · intro favorites
    subst favorites
    have stored := current.stored loaded
    refine ⟨stored, ?_⟩
    rw [labelled rfl, stored.length_eq]
    cases getFavorites controllers.lists.screens.defaults <;> rfl

/-- The queued blocks of a screen can all run, and change nothing but its view. -/
private theorem exists_drained (text : TextSearch) (screen : Screen) (controllers : Controllers) :
    ∃ drained, run (step text) controllers
        (List.replicate (controllers.lists.views screen).reloads (.list (.reloadData screen))) =
          some drained ∧
      drained.lists.screens = controllers.lists.screens ∧
      (drained.lists.views screen).loaded = (controllers.lists.views screen).loaded ∧
      (drained.lists.views screen).reloads = 0 := by
  induction queued : (controllers.lists.views screen).reloads generalizing controllers with
  | zero => exact ⟨controllers, rfl, rfl, rfl, queued⟩
  | succ blocks ih =>
      have enabled : 0 < (controllers.lists.views screen).reloads := by omega
      let read := controllers.follow (controllers.lists.reloadData screen) (.reloadData screen)
      have taken : step text controllers (.list (.reloadData screen)) = some read := by
        simp only [step, admits, ListScreens.step, if_pos enabled]
        rfl
      have view : read.lists.views screen =
          { controllers.lists.views screen with
            numberOfItems := (controllers.lists.collectionCellViewModels screen).length
            reloads := (controllers.lists.views screen).reloads - 1 } := by
        change ((controllers.follow _ _).lists.views screen) = _
        rw [lists_follow]
        exact views_setView_self _ _ _
      have left : (read.lists.views screen).reloads = blocks := by
        rw [view]
        change (controllers.lists.views screen).reloads - 1 = blocks
        omega
      obtain ⟨drained, arrived, screens, loaded, idle⟩ := ih read left
      refine ⟨drained, ?_, ?_, ?_, idle⟩
      · rw [List.replicate_succ, run_cons_of_step _ taken]
        exact arrived
      · rw [screens, lists_follow]
        rfl
      · rw [loaded, view]

/-- From a launch with any stored favorites, once the reloads that are queued for a loaded
screen have run, without anything in between, the screen is up to date. -/
theorem upToDate_after_reloads (text : TextSearch) (defaults : UserDefaults)
    (actions : List Action) (reached : Controllers)
    (arrived : run (step text) (.launch defaults) actions = some reached) (screen : Screen)
    (loaded : (reached.lists.views screen).loaded = true) :
    ∃ drained, run (step text) reached
        (List.replicate (reached.lists.views screen).reloads (.list (.reloadData screen))) =
          some drained ∧
      drained.lists.screens = reached.lists.screens ∧ UpToDate drained screen := by
  have kept : ∀ (controllers : Controllers) (action : Action) (next : Controllers),
      Current controllers → step text controllers action = some next → Current next :=
    fun _ _ _ current taken => current_step current taken
  have current := run_invariant Current kept (current_launch defaults) arrived
  obtain ⟨drained, ran, screens, same, idle⟩ := exists_drained text screen reached
  rw [loaded] at same
  exact ⟨drained, ran, screens,
    upToDate_of_current (run_invariant Current kept current ran) same idle⟩

def pictured (id : Int64) (title : String) : Recipe :=
  { Recipe.titled id title with imageUrl := some "dish.png" }

def typedSearch : List Action :=
  [.list (.viewDidLoad .search),
    .list (.update (.searchLoaded [pictured 1 "Plov", pictured 2 "Laghman"])),
    .list (.reloadData .search), .cellForItemAt .search 0, .cellForItemAt .search 1,
    .list (.update (.updateSearchController (some "plov")))]

theorem upToDate_after_reloads_typed_search :
    ∃ reached drained, run (step SearchResults.plainText) (.launch ⟨none, none, none⟩)
        typedSearch = some reached ∧
      run (step SearchResults.plainText) reached
        (List.replicate (reached.lists.views .search).reloads (.list (.reloadData .search))) =
          some drained ∧
      drained.lists.screens = reached.lists.screens ∧ UpToDate drained .search := by
  obtain ⟨reached, arrived, loaded⟩ : ∃ reached,
      run (step SearchResults.plainText) (.launch ⟨none, none, none⟩) typedSearch = some reached ∧
        (reached.lists.views .search).loaded = true := ⟨_, rfl, rfl⟩
  obtain ⟨drained, rest⟩ :=
    upToDate_after_reloads SearchResults.plainText _ typedSearch reached arrived .search loaded
  exact ⟨reached, drained, arrived, rest⟩

end SmartMeal.ListRefresh
