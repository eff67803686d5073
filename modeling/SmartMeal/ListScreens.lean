/-
Whether the two list screens index past their models.

A collection view goes by the number of items it read last, and reads it again only
when a queued `reloadData` block runs, while the view models it asks for are replaced
at once.  Every row it may ask for is there throughout a run exactly when no
replacement delivers fewer view models than the view has last read.
-/

import SmartMeal.SearchResults

namespace SmartMeal.ListScreens

open PartialStep Screens

inductive Screen where
  | favorites
  | search
  deriving DecidableEq

/-- `loaded` once the controller has bound its listener; `reloads` counts the queued
blocks. -/
structure CollectionView where
  loaded : Bool
  numberOfItems : Nat
  reloads : Nat

namespace CollectionView

def queue (blocks : Nat) (view : CollectionView) : CollectionView :=
  if view.loaded then { view with reloads := view.reloads + blocks } else view

@[simp]
theorem numberOfItems_queue (blocks : Nat) (view : CollectionView) :
    (view.queue blocks).numberOfItems = view.numberOfItems := by
  unfold queue
  split <;> rfl

@[simp]
theorem loaded_queue (blocks : Nat) (view : CollectionView) :
    (view.queue blocks).loaded = view.loaded := by
  unfold queue
  split <;> rfl

end CollectionView

structure Lists where
  screens : Screens
  views : Screen → CollectionView

namespace Lists

def launch (defaults : UserDefaults) : Lists :=
  { screens := .launch defaults, views := fun _ => ⟨false, 0, 0⟩ }

def collectionCellViewModels (lists : Lists) : Screen → List ObjectHeap.Ref
  | .favorites => lists.screens.favorites.collectionCellViewModels
  | .search => lists.screens.search.collectionCellViewModels

/-- An unchecked index into the array; absent when it traps. -/
def getCollectionCellViewModel (lists : Lists) (screen : Screen) (row : Nat) :
    Option ObjectHeap.Ref :=
  (lists.collectionCellViewModels screen)[row]?

def setView (lists : Lists) (screen : Screen) (view : CollectionView) : Lists :=
  { lists with views := Function.update lists.views screen view }

/-- Both controllers bind a listener that reloads; only the favorites are loaded at once. -/
def viewDidLoad (lists : Lists) : Screen → Lists
  | .favorites =>
      { lists with screens := lists.screens.loadFavorites }.setView .favorites
        { lists.views .favorites with loaded := true, reloads := 1 }
  | .search => lists.setView .search { lists.views .search with loaded := true }

def reloadData (lists : Lists) (screen : Screen) : Lists :=
  lists.setView screen
    { lists.views screen with
      numberOfItems := (lists.collectionCellViewModels screen).length
      reloads := (lists.views screen).reloads - 1 }

end Lists

/-- How often an action assigns the view models of a screen, each time calling the
listener of the controller. -/
def assignments : Screen → Screens.Action → Nat
  | .favorites, .loadFavorites => 1
  | .favorites, .toggleFavorite _ => 1
  | .favorites, .synced _ => 1
  | .search, .searchLoaded _ => 1
  | .search, .updateSearchController _ => 1
  | .search, .toggleFavorite _ => 1
  | .search, .synced _ => 1
  | _, _ => 0

def notifications : Screen → Screens.Action → Nat
  | .search, .toggleFavorite _ => 1
  | .search, .synced _ => 1
  | _, _ => 0

/-- A query is `cellForItemAt` or `didSelectItemAt` for a row. -/
inductive Action where
  | viewDidLoad (screen : Screen)
  | update (action : Screens.Action)
  | reloadData (screen : Screen)
  | query (screen : Screen) (row : Nat)

def step (text : TextSearch) : Transition Lists Action
  | lists, .viewDidLoad screen =>
      if (lists.views screen).loaded then none else some (lists.viewDidLoad screen)
  | lists, .update action =>
      (Screens.step text lists.screens action).map fun screens =>
        { screens := screens
          views := fun screen =>
            (lists.views screen).queue (assignments screen action + notifications screen action) }
  | lists, .reloadData screen =>
      if 0 < (lists.views screen).reloads then some (lists.reloadData screen) else none
  | lists, .query screen row =>
      if row < (lists.views screen).numberOfItems then some lists else none

variable (text : TextSearch)

/-- Every row that the collection views may ask for now has a view model. -/
def QueriesInRange (lists : Lists) : Prop :=
  ∀ screen row, (step text lists (.query screen row)).isSome →
    (lists.getCollectionCellViewModel screen row).isSome

def typedRecipes (searchBarText : Option String) (popularRecipes : List Recipe) : List Recipe :=
  let searchText := (searchBarText.map text.lowercased).getD ""
  if searchText.isEmpty then popularRecipes
  else popularRecipes.filter fun recipe =>
    text.contains (text.lowercased recipe.title) searchText

def delivered (screens : Screens) : Screen → Screens.Action → Option (List Recipe)
  | .favorites, .loadFavorites => some (getFavorites screens.defaults)
  | .favorites, .toggleFavorite ref =>
      some (getFavorites (screens.changedDefaults (.toggleFavorite ref)))
  | .favorites, .synced answer => some (getFavorites (screens.changedDefaults (.synced answer)))
  | .search, .searchLoaded recipes => some recipes
  | .search, .updateSearchController searchBarText =>
      some (typedRecipes text searchBarText screens.search.popularRecipes)
  | .search, .toggleFavorite _ => some (SearchResults.currentRecipes screens.search)
  | .search, .synced _ => some (SearchResults.currentRecipes screens.search)
  | _, _ => none

/-- No list is replaced by one that is shorter than its view has last read. -/
def KeepsItems (lists : Lists) : Action → Prop
  | .update action => ∀ screen recipes, delivered text lists.screens screen action = some recipes →
      (lists.views screen).numberOfItems ≤ recipes.length
  | _ => True

/-! ### The lengths -/

variable {text} {lists next : Lists}

private theorem queriesInRange_iff :
    QueriesInRange text lists ↔
      ∀ screen, (lists.views screen).numberOfItems ≤ (lists.collectionCellViewModels screen).length := by
  have asked : ∀ screen row, (step text lists (.query screen row)).isSome ↔
      row < (lists.views screen).numberOfItems := by
    intro screen row
    simp only [step]
    split <;> simp [*]
  have present : ∀ screen row, (lists.getCollectionCellViewModel screen row).isSome ↔
      row < (lists.collectionCellViewModels screen).length := by
    intro screen row
    simp [Lists.getCollectionCellViewModel]
  constructor
  · intro inRange screen
    by_contra beyond
    have row := inRange screen (lists.collectionCellViewModels screen).length
    rw [asked, present] at row
    omega
  · intro bounded screen row
    rw [asked, present]
    have bound := bounded screen
    omega

private theorem length_created (screens : Screens) (recipes : List Recipe) :
    (screens.created recipes).length = recipes.length :=
  List.length_range'

private theorem length_updateSearchController (screens : Screens) (searchBarText : Option String) :
    (screens.updateSearchController text searchBarText).search.collectionCellViewModels.length =
      (typedRecipes text searchBarText screens.search.popularRecipes).length := by
  unfold updateSearchController typedRecipes
  simp only
  split <;> exact length_created _ _

private theorem length_update {action : Screens.Action} (screen : Screen)
    (taken : step text lists (.update action) = some next) :
    (next.collectionCellViewModels screen).length =
      ((delivered text lists.screens screen action).map List.length).getD
        (lists.collectionCellViewModels screen).length := by
  obtain ⟨screens, stepped, rfl⟩ := Option.map_eq_some_iff.mp taken
  cases action with
  | toggleFavorite ref =>
      obtain ⟨viewModel, found, rfl⟩ := step_toggleFavorite stepped
      rw [toggleFavorite_eq found]
      cases screen <;> exact length_created _ _
  | synced answer =>
      rw [step_synced stepped]
      cases screen <;> exact length_created _ _
  | loadFavorites =>
      cases stepped
      cases screen with
      | favorites => exact length_created _ _
      | search => rfl
  | searchLoaded recipes =>
      cases stepped
      cases screen with
      | favorites => rfl
      | search => exact length_created _ _
  | updateSearchController searchBarText =>
      cases stepped
      cases screen with
      | favorites =>
          obtain ⟨search, recipes, same⟩ :=
            updateSearchController_eq text searchBarText lists.screens
          rw [same]
          rfl
      | search => exact length_updateSearchController lists.screens searchBarText
  | configure reused atSection => cases reused <;> cases stepped <;> cases screen <;> rfl
  | _ => cases stepped; cases screen <;> rfl

/-! ### The counts -/

def Unread (lists : Lists) : Prop :=
  ∀ screen, (lists.views screen).loaded = false → lists.views screen = ⟨false, 0, 0⟩

theorem views_setView_self (lists : Lists) (screen : Screen) (view : CollectionView) :
    (lists.setView screen view).views screen = view := Function.update_self _ _ _

theorem views_setView_of_ne (lists : Lists) {screen other : Screen} (view : CollectionView)
    (different : other ≠ screen) : (lists.setView screen view).views other = lists.views other :=
  Function.update_of_ne different _ _

private theorem unread_setView {screen : Screen} {view : CollectionView} (unread : Unread lists)
    (loaded : view.loaded = true) : Unread (lists.setView screen view) := by
  intro other unloaded
  by_cases same : other = screen
  · subst same
    rw [views_setView_self, loaded] at unloaded
    cases unloaded
  · rw [views_setView_of_ne lists view same] at unloaded ⊢
    exact unread other unloaded

theorem unread_step {action : Action} (unread : Unread lists)
    (taken : step text lists action = some next) : Unread next := by
  cases action with
  | viewDidLoad screen =>
      simp only [step] at taken
      split at taken
      · cases taken
      · cases taken
        cases screen with
        | favorites =>
            have kept : Unread { lists with screens := lists.screens.loadFavorites } := unread
            exact unread_setView kept rfl
        | search => exact unread_setView unread rfl
  | update action =>
      obtain ⟨screens, _, rfl⟩ := Option.map_eq_some_iff.mp taken
      intro screen unloaded
      rw [CollectionView.loaded_queue] at unloaded
      change (lists.views screen).queue _ = _
      rw [unread screen unloaded]
      rfl
  | reloadData screen =>
      simp only [step] at taken
      split at taken
      · rename_i queued
        cases taken
        apply unread_setView unread
        change (lists.views screen).loaded = true
        by_contra unloaded
        rw [unread screen (Bool.eq_false_iff.mpr unloaded)] at queued
        cases queued
      · cases taken
  | query screen row =>
      simp only [step] at taken
      split at taken
      · cases taken
        exact unread
      · cases taken

def Bounded (lists : Lists) (screen : Screen) : Prop :=
  (lists.views screen).numberOfItems ≤ (lists.collectionCellViewModels screen).length

private theorem bounded_viewDidLoad {screen other : Screen} (unread : Unread lists)
    (bounded : Bounded lists other) (unloaded : (lists.views screen).loaded = false) :
    Bounded (lists.viewDidLoad screen) other := by
  have unseen := unread screen unloaded
  cases screen with
  | favorites =>
      cases other with
      | favorites =>
          change (lists.views .favorites).numberOfItems ≤ _
          rw [unseen]
          exact Nat.zero_le _
      | search => exact bounded
  | search =>
      cases other with
      | favorites => exact bounded
      | search => exact bounded

private theorem bounded_reloadData {screen other : Screen} (bounded : Bounded lists other) :
    Bounded (lists.reloadData screen) other := by
  unfold Bounded Lists.reloadData
  by_cases same : other = screen
  · subst same
    rw [views_setView_self]
    exact Nat.le_refl _
  · rw [views_setView_of_ne _ _ same]
    exact bounded

private theorem bounded_update {action : Screens.Action} (bounded : ∀ screen, Bounded lists screen)
    (taken : step text lists (.update action) = some next) :
    (∀ screen, Bounded next screen) ↔ KeepsItems text lists (.update action) := by
  have counted : ∀ screen, (next.views screen).numberOfItems =
      (lists.views screen).numberOfItems := by
    obtain ⟨screens, _, rfl⟩ := Option.map_eq_some_iff.mp taken
    intro screen
    exact CollectionView.numberOfItems_queue _ _
  have each : ∀ screen, Bounded next screen ↔ ∀ recipes,
      delivered text lists.screens screen action = some recipes →
        (lists.views screen).numberOfItems ≤ recipes.length := by
    intro screen
    unfold Bounded
    rw [counted, length_update screen taken]
    cases delivered text lists.screens screen action with
    | none =>
        apply iff_of_true (bounded screen)
        intro recipes impossible
        cases impossible
    | some recipes => simp
  exact forall_congr' each

private theorem queriesInRange_step {action : Action} (unread : Unread lists)
    (inRange : QueriesInRange text lists) (taken : step text lists action = some next) :
    QueriesInRange text next ↔ KeepsItems text lists action := by
  rw [queriesInRange_iff] at inRange ⊢
  cases action with
  | viewDidLoad screen =>
      simp only [step] at taken
      split at taken
      · cases taken
      · rename_i unloaded
        cases taken
        refine iff_of_true (fun other => ?_) trivial
        exact bounded_viewDidLoad unread (inRange other) (Bool.eq_false_iff.mpr unloaded)
  | update action => exact bounded_update inRange taken
  | reloadData screen =>
      simp only [step] at taken
      split at taken
      · cases taken
        exact iff_of_true (fun other => bounded_reloadData (inRange other)) trivial
      · cases taken
  | query screen row =>
      simp only [step] at taken
      split at taken
      · cases taken
        exact iff_of_true inRange trivial
      · cases taken

/-! ### Whole runs -/

/-- From a launch with any stored favorites, every row that a collection view may ask for
is there throughout exactly when no replacement delivers fewer view models than the view
of that screen has last read. -/
theorem queriesInRange_throughout_iff (text : TextSearch) (defaults : UserDefaults)
    (actions : List Action) :
    Throughout (step text) (QueriesInRange text) (.launch defaults) actions ↔
      EachStep (step text) (KeepsItems text) (.launch defaults) actions := by
  refine throughout_iff_eachStep Unread ?_ ?_ (eachStep_of_forall (fun _ _ => trivial) _ actions)
    (fun _ _ => rfl) ?_
  · intro lists action next unread taken
    exact unread_step unread taken
  · intro lists action next unread inRange _ taken
    exact queriesInRange_step unread inRange taken
  · rw [queriesInRange_iff]
    intro screen
    exact Nat.zero_le _

def loadedSearch : List Action :=
  [.viewDidLoad .search, .update (.searchLoaded [.titled 1 "Plov", .titled 2 "Laghman"]),
    .reloadData .search]

/-- Typing "plov" leaves one of two recipes, and the second row is asked for before the
queued block runs. -/
theorem not_queriesInRange_typed_search :
    ¬ ∀ (text : TextSearch) (defaults : UserDefaults) (actions : List Action),
      Throughout (step text) (QueriesInRange text) (.launch defaults) actions := by
  intro always
  have inRange := (throughout_iff_prefixes _ _).mp
    (always SearchResults.plainText ⟨none, none, none⟩
      (loadedSearch ++ [.update (.updateSearchController (some "plov"))]))
    _ (List.prefix_refl _) _ rfl
  have second := inRange .search 1 rfl
  exact absurd second (by decide)

end SmartMeal.ListScreens
