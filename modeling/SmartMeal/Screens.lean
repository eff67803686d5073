/-
The three screens that show recipes, and the store they show.

A view model of a recipe caches whether the recipe is a favorite.  It is shared: a
row of the home screen and the table cell that displays the row hold the same
objects, so objects live in a heap and are held by reference.  An edit of the
favorites is delivered at once to the table cells and to the search screen, and
then to the favorites screen; home rows that no table cell holds are told nothing.

How the search matches a text is left to two parameters, the lowercasing of a
string and the test for a substring.
-/

import SmartMeal.FavoritesProcess
import SmartMeal.Library.HeapReads

namespace SmartMeal

open PartialStep ObjectHeap

/-! ### The view models -/

structure CollectionCellViewModel where
  recipe : Recipe
  isFavorite : Bool

def CollectionCellViewModel.init (defaults : UserDefaults) (recipe : Recipe) :
    CollectionCellViewModel :=
  ⟨recipe, SmartMeal.isFavorite defaults recipe⟩

def CollectionCellViewModel.Agrees (defaults : UserDefaults)
    (viewModel : CollectionCellViewModel) : Prop :=
  viewModel.isFavorite = SmartMeal.isFavorite defaults viewModel.recipe

structure TableCellViewModel where
  recipes : List Recipe
  collecionViewCellModels : List Ref

structure SearchViewModel where
  collectionCellViewModels : List Ref
  popularRecipes : List Recipe
  filteredRecipes : List Recipe

structure FavoritesViewModel where
  collectionCellViewModels : List Ref
  favoriteRecipes : List Recipe

/-- `cells` holds the `recipesViewModels` of each live `RecipeTableViewCell`. -/
structure Screens where
  defaults : UserDefaults
  viewModels : List CollectionCellViewModel
  tableViewCellModels : List TableCellViewModel
  cells : List (List Ref)
  search : SearchViewModel
  favorites : FavoritesViewModel

namespace Screens

def launch (defaults : UserDefaults) : Screens :=
  { defaults := defaults, viewModels := [], tableViewCellModels := [], cells := [],
    search := ⟨[], [], []⟩, favorites := ⟨[], []⟩ }

def create (screens : Screens) (recipes : List Recipe) : List CollectionCellViewModel :=
  screens.viewModels ++ recipes.map (CollectionCellViewModel.init screens.defaults)

def created (screens : Screens) (recipes : List Recipe) : List Ref :=
  List.range' screens.viewModels.length recipes.length

/-! ### The observers -/

/-- `RecipeTableViewCell.updateFavorites` over the view models a cell holds, from
the given index on; the second result lists the items to reload. -/
def cellUpdateFavorites (defaults : UserDefaults) (index : Nat) (recipesViewModels : List Ref)
    (viewModels : List CollectionCellViewModel) : List CollectionCellViewModel × List Nat :=
  match recipesViewModels with
  | [] => (viewModels, [])
  | ref :: rest =>
      match viewModels[ref]? with
      | none => cellUpdateFavorites defaults (index + 1) rest viewModels
      | some viewModel =>
          let newValue := isFavorite defaults viewModel.recipe
          if viewModel.isFavorite != newValue then
            let updated := viewModels.set ref { viewModel with isFavorite := newValue }
            let (final, indexPathsToReload) :=
              cellUpdateFavorites defaults (index + 1) rest updated
            (final, index :: indexPathsToReload)
          else cellUpdateFavorites defaults (index + 1) rest viewModels

def cellsUpdateFavorites (screens : Screens) : Screens :=
  { screens with
    viewModels := screens.cells.foldl
      (fun viewModels held => (cellUpdateFavorites screens.defaults 0 held viewModels).1)
      screens.viewModels }

def updateCollectionViewModels (recipes : List Recipe) (screens : Screens) : Screens :=
  { screens with
    viewModels := screens.create recipes
    search := { screens.search with collectionCellViewModels := screens.created recipes } }

/-- `SearchViewModel.updateFavorites`. -/
def searchUpdateFavorites (screens : Screens) : Screens :=
  let currentRecipes :=
    if screens.search.filteredRecipes.isEmpty then screens.search.popularRecipes
    else screens.search.filteredRecipes
  screens.updateCollectionViewModels currentRecipes

def loadFavorites (screens : Screens) : Screens :=
  let favoriteRecipes := getFavorites screens.defaults
  { screens with
    viewModels := screens.create favoriteRecipes
    favorites :=
      { favoriteRecipes := favoriteRecipes
        collectionCellViewModels := screens.created favoriteRecipes } }

def perform (screens : Screens) : FavoritesEffect → Screens
  | .task _ => screens
  | .favoritesUpdated => screens.cellsUpdateFavorites.searchUpdateFavorites
  | .onFavoritesUpdated => screens.loadFavorites

def deliver (screens : Screens) (edited : UserDefaults × List FavoritesEffect) : Screens :=
  edited.2.foldl perform { screens with defaults := edited.1 }

/-! ### The steps -/

def toggleFavorite (screens : Screens) (ref : Ref) (viewModel : CollectionCellViewModel) :
    Screens :=
  let edited :=
    if viewModel.isFavorite then removeFromFavorites viewModel.recipe screens.defaults
    else addToFavorites viewModel.recipe screens.defaults
  let delivered := screens.deliver edited
  { delivered with
    viewModels := delivered.viewModels.set ref
      { viewModel with isFavorite := isFavorite delivered.defaults viewModel.recipe } }

/-- `HomeViewModel.getTableCellModel(at:)`: past the last row, a row without recipes. -/
def getTableCellModel (screens : Screens) (atSection : Nat) : TableCellViewModel :=
  (screens.tableViewCellModels[atSection]?).getD ⟨[], []⟩

/-- `String.lowercased()` and `String.contains(_:)`. -/
structure TextSearch where
  lowercased : String → String
  contains : String → String → Bool

def updateSearchController (text : TextSearch) (searchBarText : Option String)
    (screens : Screens) : Screens :=
  let searchText := (searchBarText.map text.lowercased).getD ""
  if searchText.isEmpty then
    { screens with search := { screens.search with filteredRecipes := [] } }
      |>.updateCollectionViewModels screens.search.popularRecipes
  else
    let filteredRecipes := screens.search.popularRecipes.filter fun recipe =>
      text.contains (text.lowercased recipe.title) searchText
    { screens with search := { screens.search with filteredRecipes := filteredRecipes } }
      |>.updateCollectionViewModels filteredRecipes

/-- A cell is configured anew, or taken from the reuse pool by its index. -/
inductive Action where
  | create (recipe : Recipe)
  | homeLoaded (recipes : List Recipe)
  | configure (reused : Option Nat) (atSection : Nat)
  | releaseCell (cell : Nat)
  | searchLoaded (recipes : List Recipe)
  | updateSearchController (searchBarText : Option String)
  | loadFavorites
  | toggleFavorite (ref : Ref)
  | synced (answer : Option Data)

def step (text : TextSearch) : Transition Screens Action
  | screens, .create recipe => some { screens with viewModels := screens.create [recipe] }
  | screens, .homeLoaded recipes =>
      some { screens with
        viewModels := screens.create recipes
        tableViewCellModels :=
          screens.tableViewCellModels ++ [⟨recipes, screens.created recipes⟩] }
  | screens, .configure reused atSection =>
      let recipesViewModels := (screens.getTableCellModel atSection).collecionViewCellModels
      match reused with
      | none => some { screens with cells := screens.cells ++ [recipesViewModels] }
      | some cell => some { screens with cells := screens.cells.set cell recipesViewModels }
  | screens, .releaseCell cell => some { screens with cells := screens.cells.eraseIdx cell }
  | screens, .searchLoaded recipes =>
      some ({ screens with search := { screens.search with popularRecipes := recipes } }
        |>.updateCollectionViewModels recipes)
  | screens, .updateSearchController searchBarText =>
      some (screens.updateSearchController text searchBarText)
  | screens, .loadFavorites => some screens.loadFavorites
  | screens, .toggleFavorite ref =>
      (screens.viewModels[ref]?).map fun viewModel => screens.toggleFavorite ref viewModel
  | screens, .synced answer =>
      (syncFavoritesAnswered answer screens.defaults).map fun defaults =>
        screens.deliver (defaults, [.favoritesUpdated, .onFavoritesUpdated])

/-! ### Notifications -/

def notified (screens : Screens) (defaults : UserDefaults) : Screens :=
  { screens with defaults := defaults }.cellsUpdateFavorites.searchUpdateFavorites.loadFavorites

def HeldByCell (screens : Screens) (ref : Ref) : Prop := ∃ held ∈ screens.cells, ref ∈ held

private theorem refreshed_cellUpdateFavorites (defaults : UserDefaults) (index : Nat)
    (recipesViewModels : List Ref) (viewModels : List CollectionCellViewModel) :
    Refreshed (CollectionCellViewModel.Agrees defaults) (fun ref => ref ∈ recipesViewModels)
      viewModels (cellUpdateFavorites defaults index recipesViewModels viewModels).1 := by
  induction recipesViewModels generalizing index viewModels with
  | nil => exact (Refreshed.refl _ viewModels).congr fun ref => by simp
  | cons ref rest ih =>
      have joined : ∀ other : Ref, (other = ref ∨ other ∈ rest) ↔ other ∈ ref :: rest :=
        fun other => List.mem_cons.symm
      unfold cellUpdateFavorites
      cases found : viewModels[ref]? with
      | none =>
          have absent : ∀ viewModel, viewModels[ref]? = some viewModel →
              viewModel.Agrees defaults := by
            intro viewModel impossible
            rw [found] at impossible
            cases impossible
          exact ((refreshed_of_current absent).trans (ih (index + 1) viewModels)).congr joined
      | some viewModel =>
          simp only
          split
          · have agrees : CollectionCellViewModel.Agrees defaults
                { viewModel with isFavorite := isFavorite defaults viewModel.recipe } := rfl
            exact ((refreshed_set _ ref viewModels agrees).trans (ih (index + 1) _)).congr joined
          · rename_i unchanged
            have agrees : ∀ other, viewModels[ref]? = some other → other.Agrees defaults := by
              intro other foundOther
              rw [found] at foundOther
              cases foundOther
              change viewModel.isFavorite = isFavorite defaults viewModel.recipe
              simpa using unchanged
            exact ((refreshed_of_current agrees).trans (ih (index + 1) viewModels)).congr joined

theorem refreshed_cellsUpdateFavorites (screens : Screens) :
    Refreshed (CollectionCellViewModel.Agrees screens.defaults) screens.HeldByCell
      screens.viewModels screens.cellsUpdateFavorites.viewModels := by
  have each : ∀ (cells : List (List Ref)) (viewModels : List CollectionCellViewModel),
      Refreshed (CollectionCellViewModel.Agrees screens.defaults)
        (fun ref => ∃ held ∈ cells, ref ∈ held) viewModels
        (cells.foldl (fun viewModels held =>
          (cellUpdateFavorites screens.defaults 0 held viewModels).1) viewModels) := by
    intro cells
    induction cells with
    | nil => exact fun viewModels => (Refreshed.refl _ viewModels).congr fun ref => by simp
    | cons held rest ih =>
        intro viewModels
        refine ((refreshed_cellUpdateFavorites screens.defaults 0 held viewModels).trans
          (ih _)).congr fun ref => ?_
        simp
  exact each screens.cells screens.viewModels

theorem refreshed_create (screens : Screens) (recipes : List Recipe) :
    Refreshed (CollectionCellViewModel.Agrees screens.defaults) (fun _ => False)
      screens.viewModels (screens.create recipes) := by
  apply refreshed_append
  intro viewModel member
  obtain ⟨recipe, _, rfl⟩ := List.mem_map.mp member
  rfl

theorem length_le_of_mem_created {screens : Screens} {recipes : List Recipe} {ref : Ref}
    (member : ref ∈ screens.created recipes) : screens.viewModels.length ≤ ref :=
  (List.mem_range'_1.mp member).1

theorem refreshed_notified (screens : Screens) (defaults : UserDefaults) :
    Refreshed (CollectionCellViewModel.Agrees defaults) screens.HeldByCell screens.viewModels
      (screens.notified defaults).viewModels := by
  let stored : Screens := { screens with defaults := defaults }
  have cells := refreshed_cellsUpdateFavorites stored
  have search := refreshed_create stored.cellsUpdateFavorites
    (if stored.search.filteredRecipes.isEmpty then stored.search.popularRecipes
      else stored.search.filteredRecipes)
  have loaded := refreshed_create stored.cellsUpdateFavorites.searchUpdateFavorites
    (getFavorites defaults)
  exact ((cells.trans search).trans loaded).congr fun ref => by simp [HeldByCell, stored]

theorem search_notified (screens : Screens) (defaults : UserDefaults) :
    ∀ ref ∈ (screens.notified defaults).search.collectionCellViewModels, ∀ viewModel,
      (screens.notified defaults).viewModels[ref]? = some viewModel →
        viewModel.Agrees defaults := by
  intro ref member
  let stored : Screens := { screens with defaults := defaults }
  have created := refreshed_create stored.cellsUpdateFavorites
    (if stored.search.filteredRecipes.isEmpty then stored.search.popularRecipes
      else stored.search.filteredRecipes)
  have loaded := refreshed_create stored.cellsUpdateFavorites.searchUpdateFavorites
    (getFavorites defaults)
  exact loaded.current_at (created.current_of_fresh (length_le_of_mem_created member))

theorem favorites_notified (screens : Screens) (defaults : UserDefaults) :
    ∀ ref ∈ (screens.notified defaults).favorites.collectionCellViewModels, ∀ viewModel,
      (screens.notified defaults).viewModels[ref]? = some viewModel →
        viewModel.Agrees defaults := by
  intro ref member
  let stored : Screens := { screens with defaults := defaults }
  have loaded := refreshed_create stored.cellsUpdateFavorites.searchUpdateFavorites
    (getFavorites defaults)
  exact loaded.current_of_fresh (length_le_of_mem_created member)

/-! ### What a step does to the store -/

inductive StoreChange where
  | append (recipe : Recipe)
  | remove (recipe : Recipe)
  | replace (recipes : List Recipe)

def StoreChange.apply : StoreChange → UserDefaults → UserDefaults
  | .append recipe, defaults => (addToFavorites recipe defaults).1
  | .remove recipe, defaults => (removeFromFavorites recipe defaults).1
  | .replace recipes, defaults => saveFavorites recipes defaults

def storeChange (screens : Screens) : Action → Option StoreChange
  | .toggleFavorite ref =>
      (screens.viewModels[ref]?).map fun viewModel =>
        if viewModel.isFavorite then .remove viewModel.recipe else .append viewModel.recipe
  | .synced answer => (FavoritesProcess.loaded answer).map .replace
  | _ => none

def changedDefaults (screens : Screens) (action : Action) : UserDefaults :=
  match screens.storeChange action with
  | some change => change.apply screens.defaults
  | none => screens.defaults

variable {screens next : Screens} {text : TextSearch}

theorem changedDefaults_toggleFavorite {ref : Ref} {viewModel : CollectionCellViewModel}
    (found : screens.viewModels[ref]? = some viewModel) :
    screens.changedDefaults (.toggleFavorite ref) =
      if viewModel.isFavorite then (removeFromFavorites viewModel.recipe screens.defaults).1
      else (addToFavorites viewModel.recipe screens.defaults).1 := by
  simp only [changedDefaults, storeChange, found, Option.map_some]
  cases viewModel.isFavorite <;> rfl

theorem changedDefaults_synced (answer : Option Data) :
    screens.changedDefaults (.synced answer) =
      match FavoritesProcess.loaded answer with
      | some recipes => saveFavorites recipes screens.defaults
      | none => screens.defaults := by
  simp only [changedDefaults, storeChange]
  cases FavoritesProcess.loaded answer <;> rfl

theorem toggleFavorite_eq {ref : Ref} {viewModel : CollectionCellViewModel}
    (found : screens.viewModels[ref]? = some viewModel) :
    screens.toggleFavorite ref viewModel =
      let notified := screens.notified (screens.changedDefaults (.toggleFavorite ref))
      { notified with
        viewModels := notified.viewModels.set ref
          { viewModel with isFavorite := isFavorite notified.defaults viewModel.recipe } } := by
  rw [changedDefaults_toggleFavorite found]
  unfold toggleFavorite
  cases viewModel.isFavorite <;> rfl

theorem step_toggleFavorite {ref : Ref}
    (taken : step text screens (.toggleFavorite ref) = some next) :
    ∃ viewModel, screens.viewModels[ref]? = some viewModel ∧
      next = screens.toggleFavorite ref viewModel := by
  obtain ⟨viewModel, found, same⟩ := Option.map_eq_some_iff.mp taken
  exact ⟨viewModel, found, same.symm⟩

theorem step_synced {answer : Option Data}
    (taken : step text screens (.synced answer) = some next) :
    next = screens.notified (screens.changedDefaults (.synced answer)) := by
  obtain ⟨defaults, handled, rfl⟩ := Option.map_eq_some_iff.mp taken
  have result := FavoritesProcess.syncFavoritesAnswered_eq screens.defaults
    (FavoritesProcess.not_traps_of_handled handled)
  rw [handled] at result
  have same : defaults = screens.changedDefaults (.synced answer) := by
    rw [changedDefaults_synced]
    exact Option.some.inj result
  rw [← same]
  rfl

theorem updateSearchController_eq (text : TextSearch) (searchBarText : Option String)
    (screens : Screens) :
    ∃ search recipes, screens.updateSearchController text searchBarText =
      { screens with search := search }.updateCollectionViewModels recipes := by
  unfold updateSearchController
  simp only
  split <;> exact ⟨_, _, rfl⟩

theorem step_defaults {action : Action} (taken : step text screens action = some next) :
    next.defaults = screens.changedDefaults action := by
  cases action with
  | toggleFavorite ref =>
      obtain ⟨viewModel, found, rfl⟩ := step_toggleFavorite taken
      rw [toggleFavorite_eq found]
      rfl
  | synced answer =>
      rw [step_synced taken]
      rfl
  | configure reused atSection => cases reused <;> cases taken <;> rfl
  | updateSearchController searchBarText =>
      cases taken
      obtain ⟨search, recipes, same⟩ := updateSearchController_eq text searchBarText screens
      rw [same]
      rfl
  | _ => cases taken; rfl

/-! ### What a step does to the view models -/

/-- The view models that an action brings up to date: those held by a table cell when
the store changes, and the tapped one. -/
def Touches (screens : Screens) : Action → Ref → Prop
  | .toggleFavorite tapped, ref => screens.HeldByCell ref ∨ ref = tapped
  | .synced _, ref => screens.HeldByCell ref
  | _, _ => False

theorem refreshed_step {action : Action} (taken : step text screens action = some next) :
    Refreshed (CollectionCellViewModel.Agrees next.defaults) (Touches screens action)
      screens.viewModels next.viewModels := by
  cases action with
  | toggleFavorite ref =>
      obtain ⟨viewModel, found, rfl⟩ := step_toggleFavorite taken
      rw [toggleFavorite_eq found]
      exact (refreshed_notified screens _).trans (refreshed_set _ ref _ rfl)
  | synced answer =>
      rw [step_synced taken]
      exact refreshed_notified screens _
  | create recipe => cases taken; exact refreshed_create screens [recipe]
  | homeLoaded recipes => cases taken; exact refreshed_create screens recipes
  | searchLoaded recipes => cases taken; exact refreshed_create screens recipes
  | loadFavorites => cases taken; exact refreshed_create screens _
  | updateSearchController searchBarText =>
      cases taken
      obtain ⟨search, recipes, same⟩ := updateSearchController_eq text searchBarText screens
      rw [same]
      exact refreshed_create screens recipes
  | configure reused atSection =>
      cases reused <;> cases taken <;> exact Refreshed.refl _ screens.viewModels
  | releaseCell cell => cases taken; exact Refreshed.refl _ screens.viewModels

/-! ### No reference dangles -/

structure Allocated (screens : Screens) : Prop where
  home : ∀ row ∈ screens.tableViewCellModels, ∀ ref ∈ row.collecionViewCellModels,
    ref < screens.viewModels.length
  cells : ∀ ref, screens.HeldByCell ref → ref < screens.viewModels.length
  search : ∀ ref ∈ screens.search.collectionCellViewModels, ref < screens.viewModels.length
  favorites : ∀ ref ∈ screens.favorites.collectionCellViewModels,
    ref < screens.viewModels.length

private theorem Allocated.grow {viewModels : List CollectionCellViewModel}
    (allocated : Allocated screens) (grows : screens.viewModels.length ≤ viewModels.length) :
    Allocated { screens with viewModels := viewModels } where
  home := fun row member ref shown => Nat.lt_of_lt_of_le (allocated.home row member ref shown) grows
  cells := fun ref held => Nat.lt_of_lt_of_le (allocated.cells ref held) grows
  search := fun ref shown => Nat.lt_of_lt_of_le (allocated.search ref shown) grows
  favorites := fun ref shown => Nat.lt_of_lt_of_le (allocated.favorites ref shown) grows

private theorem lt_of_mem_created {recipes : List Recipe} {ref : Ref}
    (member : ref ∈ screens.created recipes) : ref < (screens.create recipes).length := by
  have bound := (List.mem_range'_1.mp member).2
  simpa [create] using bound

private theorem Allocated.create (allocated : Allocated screens) (recipes : List Recipe) :
    Allocated { screens with viewModels := screens.create recipes } :=
  allocated.grow (refreshed_create screens recipes).grows

private theorem Allocated.updateCollectionViewModels (allocated : Allocated screens)
    (search : SearchViewModel) (recipes : List Recipe) :
    Allocated ({ screens with search := search }.updateCollectionViewModels recipes) :=
  { allocated.create recipes with search := fun _ member => lt_of_mem_created member }

private theorem Allocated.loadFavorites (allocated : Allocated screens) :
    Allocated screens.loadFavorites :=
  { allocated.create _ with favorites := fun _ member => lt_of_mem_created member }

private theorem Allocated.notified (allocated : Allocated screens) (defaults : UserDefaults) :
    Allocated (screens.notified defaults) := by
  have stored : Allocated { screens with defaults := defaults } := { allocated with }
  have cells := stored.grow (refreshed_cellsUpdateFavorites _).grows
  exact (cells.updateCollectionViewModels _ _).loadFavorites

private theorem Allocated.getTableCellModel (allocated : Allocated screens) {atSection : Nat}
    {ref : Ref}
    (shown : ref ∈ (screens.getTableCellModel atSection).collecionViewCellModels) :
    ref < screens.viewModels.length := by
  unfold Screens.getTableCellModel at shown
  cases found : screens.tableViewCellModels[atSection]? with
  | none => rw [found] at shown; cases shown
  | some row =>
      rw [found] at shown
      exact allocated.home row (List.mem_of_getElem? found) ref shown

private theorem allocated_step {action : Action} (allocated : Allocated screens)
    (taken : step text screens action = some next) : Allocated next := by
  cases action with
  | toggleFavorite ref =>
      obtain ⟨viewModel, found, rfl⟩ := step_toggleFavorite taken
      rw [toggleFavorite_eq found]
      exact (allocated.notified _).grow (Nat.le_of_eq List.length_set.symm)
  | synced answer =>
      rw [step_synced taken]
      exact allocated.notified _
  | create recipe => cases taken; exact allocated.create [recipe]
  | homeLoaded recipes =>
      cases taken
      refine { allocated.create recipes with home := ?_ }
      intro row member ref shown
      rcases List.mem_append.mp member with old | new
      · exact (allocated.create recipes).home row old ref shown
      · rw [List.mem_singleton.mp new] at shown
        exact lt_of_mem_created shown
  | searchLoaded recipes =>
      cases taken
      exact allocated.updateCollectionViewModels _ recipes
  | updateSearchController searchBarText =>
      cases taken
      obtain ⟨search, recipes, same⟩ := updateSearchController_eq text searchBarText screens
      rw [same]
      exact allocated.updateCollectionViewModels search recipes
  | loadFavorites => cases taken; exact allocated.loadFavorites
  | configure reused atSection =>
      cases reused with
      | none =>
          cases taken
          refine { allocated with cells := ?_ }
          rintro ref ⟨held, member, shown⟩
          rcases List.mem_append.mp member with old | new
          · exact allocated.cells ref ⟨held, old, shown⟩
          · rw [List.mem_singleton.mp new] at shown
            exact allocated.getTableCellModel shown
      | some cell =>
          cases taken
          refine { allocated with cells := ?_ }
          rintro ref ⟨held, member, shown⟩
          rcases List.mem_or_eq_of_mem_set member with old | rfl
          · exact allocated.cells ref ⟨held, old, shown⟩
          · exact allocated.getTableCellModel shown
  | releaseCell cell =>
      cases taken
      refine { allocated with cells := ?_ }
      rintro ref ⟨held, member, shown⟩
      exact allocated.cells ref ⟨held, List.mem_of_mem_eraseIdx member, shown⟩

theorem allocated_run {defaults : UserDefaults} {actions : List Action} {reached : Screens}
    (arrived : run (step text) (launch defaults) actions = some reached) : Allocated reached := by
  refine run_invariant Allocated (fun _ _ _ => allocated_step) ?_ arrived
  constructor
  · intro row impossible
    cases impossible
  · rintro ref ⟨held, impossible, _⟩
    cases impossible
  · intro ref impossible
    cases impossible
  · intro ref impossible
    cases impossible

/-! ### What a list of references shows -/

abbrev Shows (screens : Screens) (refs : List Ref) (recipes : List Recipe) : Prop :=
  Reads CollectionCellViewModel.recipe screens.viewModels refs recipes

theorem reads_created (screens : Screens) (recipes : List Recipe) :
    Reads CollectionCellViewModel.recipe (screens.create recipes) (screens.created recipes)
      recipes := by
  have reads : Reads CollectionCellViewModel.recipe (screens.create recipes) _ _ :=
    reads_append screens.viewModels (recipes.map (CollectionCellViewModel.init screens.defaults))
  rw [List.length_map, List.map_map] at reads
  have same : recipes.map
      (CollectionCellViewModel.recipe ∘ CollectionCellViewModel.init screens.defaults) = recipes :=
    List.map_id recipes
  rw [same] at reads
  exact reads

private theorem fieldKept_cellUpdateFavorites (defaults : UserDefaults) (index : Nat)
    (recipesViewModels : List Ref) (viewModels : List CollectionCellViewModel) :
    FieldKept CollectionCellViewModel.recipe viewModels
      (cellUpdateFavorites defaults index recipesViewModels viewModels).1 := by
  induction recipesViewModels generalizing index viewModels with
  | nil => exact FieldKept.refl _ viewModels
  | cons ref rest ih =>
      unfold cellUpdateFavorites
      cases found : viewModels[ref]? with
      | none => exact ih (index + 1) viewModels
      | some viewModel =>
          simp only
          split
          · have written : FieldKept CollectionCellViewModel.recipe viewModels
                (viewModels.set ref
                  { viewModel with isFavorite := isFavorite defaults viewModel.recipe }) :=
              fieldKept_set found rfl
            exact written.trans (ih (index + 1) _)
          · exact ih (index + 1) viewModels

private theorem fieldKept_cellsUpdateFavorites (screens : Screens) :
    FieldKept CollectionCellViewModel.recipe screens.viewModels
      screens.cellsUpdateFavorites.viewModels := by
  have each : ∀ (cells : List (List Ref)) (viewModels : List CollectionCellViewModel),
      FieldKept CollectionCellViewModel.recipe viewModels
        (cells.foldl (fun viewModels held =>
          (cellUpdateFavorites screens.defaults 0 held viewModels).1) viewModels) := by
    intro cells
    induction cells with
    | nil => exact fun viewModels => FieldKept.refl _ viewModels
    | cons held rest ih =>
        intro viewModels
        exact (fieldKept_cellUpdateFavorites screens.defaults 0 held viewModels).trans (ih _)
  exact each screens.cells screens.viewModels

theorem fieldKept_notified (screens : Screens) (defaults : UserDefaults) :
    FieldKept CollectionCellViewModel.recipe screens.viewModels
      (screens.notified defaults).viewModels := by
  have cells := fieldKept_cellsUpdateFavorites { screens with defaults := defaults }
  exact (cells.trans (fieldKept_append _ _)).trans (fieldKept_append _ _)

theorem fieldKept_toggled {ref : Ref} {viewModel : CollectionCellViewModel}
    (found : screens.viewModels[ref]? = some viewModel) (defaults : UserDefaults)
    (isFavorite : Bool) :
    FieldKept CollectionCellViewModel.recipe (screens.notified defaults).viewModels
      ((screens.notified defaults).viewModels.set ref
        { viewModel with isFavorite := isFavorite }) := by
  have kept := fieldKept_notified screens defaults ref viewModel.recipe (by rw [found]; rfl)
  obtain ⟨current, foundNow, same⟩ := Option.map_eq_some_iff.mp kept
  exact fieldKept_set foundNow same.symm

theorem fieldKept_step {action : Action} (taken : step text screens action = some next) :
    FieldKept CollectionCellViewModel.recipe screens.viewModels next.viewModels := by
  cases action with
  | toggleFavorite ref =>
      obtain ⟨viewModel, found, rfl⟩ := step_toggleFavorite taken
      rw [toggleFavorite_eq found]
      exact (fieldKept_notified screens _).trans (fieldKept_toggled found _ _)
  | synced answer =>
      rw [step_synced taken]
      exact fieldKept_notified screens _
  | create recipe => cases taken; exact fieldKept_append _ _
  | homeLoaded recipes => cases taken; exact fieldKept_append _ _
  | searchLoaded recipes => cases taken; exact fieldKept_append _ _
  | loadFavorites => cases taken; exact fieldKept_append _ _
  | updateSearchController searchBarText =>
      cases taken
      obtain ⟨search, recipes, same⟩ := updateSearchController_eq text searchBarText screens
      rw [same]
      exact fieldKept_append _ _
  | configure reused atSection =>
      cases reused <;> cases taken <;> exact FieldKept.refl _ screens.viewModels
  | releaseCell cell => cases taken; exact FieldKept.refl _ screens.viewModels

end Screens

end SmartMeal
