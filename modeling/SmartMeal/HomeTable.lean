/-
What the table of the home screen displays, and what a tap on it opens.

Rows are only ever appended, and the titles are set when all of them are there.  The table
therefore never asks for a section without a row, a cell shows the row of its section for as
long as it is displayed, and a tap opens the recipe that its cell displays, whatever happens
on the other screens meanwhile.
-/

import SmartMeal.HomeLoading
import SmartMeal.PayloadSafety
import Mathlib.Data.List.InsertIdx

namespace SmartMeal.HomeTable

open PartialStep ObjectHeap
open Screens hiding step Action
open HomeLoading hiding step Action Accounted accounted_step accounted_run

/-- `displayed` holds the recipes that the collection view of the cell displays. -/
structure RecipeTableViewCell where
  atSection : Nat
  recipesViewModels : List Ref
  displayed : Nat → Option Recipe

/-- `reloaded` counts the blocks of `bind` that have run, and `opened` is history. -/
structure HomeViewController where
  home : Home
  loaded : Bool
  numberOfSections : Nat
  reloaded : Nat
  cells : List RecipeTableViewCell
  headers : Nat → Option String
  opened : List Recipe

namespace HomeViewController

def viewDidLoad (screens : Screens) : HomeViewController :=
  { home := callFuncToGetData { screens with cells := [] }
    loaded := false
    numberOfSections := 0
    reloaded := 0
    cells := []
    headers := fun _ => none
    opened := [] }

/-- The table view reads its number of sections, and gives up what it displays. -/
def readData (controller : HomeViewController) : HomeViewController :=
  { controller with
    loaded := true
    numberOfSections := (controller.home.categories.map List.length).getD 0
    cells := controller.cells.map fun cell => { cell with displayed := fun _ => none }
    headers := fun _ => none }

def withScreens (controller : HomeViewController) (screens : Screens) : HomeViewController :=
  { controller with home := { controller.home with screens := screens } }

/-- `tableView(_:viewForHeaderInSection:)`; absent when the index traps. -/
def viewForHeader (controller : HomeViewController) (atSection : Nat) :
    Option HomeViewController :=
  match controller.home.categories with
  | none => some { controller with headers := Function.update controller.headers atSection none }
  | some categories =>
      (categories[atSection]?).map fun label =>
        { controller with headers := Function.update controller.headers atSection (some label) }

def cellForRow (controller : HomeViewController) (reused : Option Nat) (atSection : Nat) :
    Option (List RecipeTableViewCell) :=
  let viewModel := controller.home.screens.getTableCellModel atSection
  let configured : RecipeTableViewCell :=
    { atSection := atSection
      recipesViewModels := viewModel.collecionViewCellModels
      displayed := fun _ => none }
  match reused with
  | none => some (controller.cells ++ [configured])
  | some cell =>
      if cell < controller.cells.length then some (controller.cells.set cell configured) else none

/-- `RecipeTableViewCell.recipeViewModel(at:)`; absent when the index traps. -/
def recipeViewModel (controller : HomeViewController) (cell : RecipeTableViewCell) (item : Nat) :
    Option CollectionCellViewModel :=
  (cell.recipesViewModels[item]?).bind fun ref => controller.home.screens.viewModels[ref]?

/-- `collectionView(_:cellForItemAt:)` of a table cell. -/
def cellForItem (controller : HomeViewController) (index item : Nat) :
    Option HomeViewController := do
  let cell ← controller.cells[index]?
  let viewModel ← controller.recipeViewModel cell item
  let _content ← RecipeCellContent.configure viewModel
  pure { controller with
    cells := controller.cells.set index
      { cell with displayed := Function.update cell.displayed item (some viewModel.recipe) } }

/-- `collectionView(_:didSelectItemAt:)` of a table cell, `didSelectRecipe` of its delegate,
and the `updateUI` of the screen that is pushed.  Only a displayed item is tapped. -/
def didSelectItem (controller : HomeViewController) (index item : Nat) :
    Option HomeViewController := do
  let cell ← controller.cells[index]?
  let _displayed ← cell.displayed item
  let viewModel ← controller.recipeViewModel cell item
  let _content ← DetailContent.updateUI viewModel.recipe
  pure { controller with opened := controller.opened ++ [viewModel.recipe] }

end HomeViewController

/-- `firstLayout` reads the data before any reload does; `elsewhere` is an action on another
screen, or an edit. -/
inductive Action where
  | loading (action : HomeLoading.Action)
  | elsewhere (action : Screens.Action)
  | firstLayout
  | reloadData
  | viewForHeader (atSection : Nat)
  | cellForRow (reused : Option Nat) (atSection : Nat)
  | releaseCell (index : Nat)
  | cellForItem (index item : Nat)
  | didSelectItem (index item : Nat)

def isElsewhere : Screens.Action → Bool
  | .homeLoaded _ => false
  | .configure _ _ => false
  | .releaseCell _ => false
  | _ => true

def step (text : TextSearch) (lists : Request → List Recipe) :
    Transition HomeViewController Action
  | controller, .loading action =>
      (HomeLoading.step lists controller.home action).map fun home =>
        { controller with home := home }
  | controller, .elsewhere action =>
      if isElsewhere action then
        (Screens.step text controller.home.screens action).map controller.withScreens
      else none
  | controller, .firstLayout => if controller.loaded then none else some controller.readData
  | controller, .reloadData =>
      if controller.reloaded < controller.home.bound then
        some { controller.readData with reloaded := controller.reloaded + 1 }
      else none
  | controller, .viewForHeader atSection =>
      if atSection < controller.numberOfSections then controller.viewForHeader atSection else none
  | controller, .cellForRow reused atSection =>
      if atSection < controller.numberOfSections then
        (controller.cellForRow reused atSection).bind fun cells =>
          (Screens.step text controller.home.screens (.configure reused atSection)).map
            fun screens => { controller.withScreens screens with cells := cells }
      else none
  | controller, .releaseCell index =>
      (Screens.step text controller.home.screens (.releaseCell index)).map fun screens =>
        { controller.withScreens screens with cells := controller.cells.eraseIdx index }
  | controller, .cellForItem index item => controller.cellForItem index item
  | controller, .didSelectItem index item => controller.didSelectItem index item

variable {text : TextSearch} {lists : Request → List Recipe}
variable {controller next : HomeViewController}

/-- The cell holds the row of its section, the list of the request that completed in that
place, and displays items of it. -/
def ShowsRow (lists : Request → List Recipe) (home : Home) (cell : RecipeTableViewCell) : Prop :=
  ∃ request, home.finished[cell.atSection]? = some request ∧
    home.screens.Shows cell.recipesViewModels (lists request) ∧
    ∀ item recipe, cell.displayed item = some recipe →
      (lists request)[item]? = some recipe ∧ recipe.imageUrl.isSome = true

def sections (home : Home) : Nat := (home.categories.map List.length).getD 0

structure Sound (lists : Request → List Recipe) (controller : HomeViewController) : Prop where
  accounted : HomeLoading.Accounted lists controller.home
  within : controller.numberOfSections ≤ sections controller.home
  aligned : controller.home.screens.cells =
    controller.cells.map RecipeTableViewCell.recipesViewModels
  rows : ∀ cell ∈ controller.cells, ShowsRow lists controller.home cell
  headers : ∀ atSection label, controller.headers atSection = some label →
    titles[atSection]? = some label
  bound : controller.home.categories = none ↔ controller.home.bound = 0
  read : 0 < controller.reloaded → controller.numberOfSections = titles.length

/-! ### What the rows and the other screens keep -/

structure KeepsRows (before after : Home) : Prop where
  finished : before.finished <+: after.finished
  recipes : FieldKept CollectionCellViewModel.recipe before.screens.viewModels
    after.screens.viewModels
  cells : after.screens.cells = before.screens.cells

private theorem ShowsRow.kept {before after : Home} {cell : RecipeTableViewCell}
    (shows : ShowsRow lists before cell) (finished : before.finished <+: after.finished)
    (recipes : FieldKept CollectionCellViewModel.recipe before.screens.viewModels
      after.screens.viewModels) :
    ShowsRow lists after cell := by
  obtain ⟨request, done, held, displayed⟩ := shows
  obtain ⟨more, grown⟩ := finished
  refine ⟨request, ?_, held.kept recipes, displayed⟩
  have inside := (List.getElem?_eq_some_iff.mp done).1
  rw [← grown, List.getElem?_append_left inside]
  exact done

private theorem keepsRows_loading {home after : Home} {action : HomeLoading.Action}
    (taken : HomeLoading.step lists home action = some after) : KeepsRows home after := by
  cases action with
  | issue =>
      obtain ⟨request, rest, _, rfl⟩ := step_issue taken
      exact ⟨List.prefix_refl _, FieldKept.refl _ _, rfl⟩
  | register =>
      obtain ⟨_, _, rfl⟩ := step_register taken
      exact ⟨List.prefix_refl _, FieldKept.refl _ _, rfl⟩
  | completed request =>
      obtain ⟨_, rfl⟩ := step_completed taken
      exact ⟨List.prefix_append _ _, fieldKept_append _ _, rfl⟩
  | notify =>
      obtain ⟨_, _, rfl⟩ := step_notify taken
      exact ⟨List.prefix_refl _, FieldKept.refl _ _, rfl⟩

private theorem kept_elsewhere {screens after : Screens} {action : Screens.Action}
    (other : isElsewhere action = true) (taken : Screens.step text screens action = some after) :
    after.tableViewCellModels = screens.tableViewCellModels ∧ after.cells = screens.cells := by
  cases action with
  | homeLoaded recipes => cases other
  | configure reused atSection => cases other
  | releaseCell cell => cases other
  | toggleFavorite ref =>
      obtain ⟨viewModel, found, rfl⟩ := step_toggleFavorite taken
      rw [toggleFavorite_eq found]
      exact ⟨rfl, rfl⟩
  | synced answer =>
      rw [step_synced taken]
      exact ⟨rfl, rfl⟩
  | updateSearchController searchBarText =>
      cases taken
      obtain ⟨search, recipes, same⟩ := updateSearchController_eq text searchBarText screens
      rw [same]
      exact ⟨rfl, rfl⟩
  | _ => cases taken; exact ⟨rfl, rfl⟩

private theorem accounted_withScreens {home : Home} {after : Screens}
    (accounted : HomeLoading.Accounted lists home)
    (rows : after.tableViewCellModels = home.screens.tableViewCellModels)
    (recipes : FieldKept CollectionCellViewModel.recipe home.screens.viewModels
      after.viewModels) :
    HomeLoading.Accounted lists { home with screens := after } where
  requests := accounted.requests
  rows := by
    change List.Forall₂ _ after.tableViewCellModels home.finished
    rw [rows]
    exact accounted.rows.imp fun _ _ holds => ⟨holds.built, holds.shown.kept recipes⟩
  balanced := accounted.balanced
  registered := accounted.registered
  titled := accounted.titled

/-- A section that the table view knows of has a row, of a request that completed. -/
private theorem row_of_section (sound : Sound lists controller) {atSection : Nat}
    (inside : atSection < controller.numberOfSections) :
    controller.home.categories = some titles ∧ ∃ request,
      controller.home.finished[atSection]? = some request ∧
        controller.home.screens.Shows
          (controller.home.screens.getTableCellModel atSection).collecionViewCellModels
          (lists request) := by
  have within := Nat.lt_of_lt_of_le inside sound.within
  unfold sections at within
  cases present : controller.home.categories with
  | none =>
      rw [present] at within
      exact absurd within (Nat.not_lt_zero atSection)
  | some categories =>
      obtain ⟨rfl, _⟩ := sound.accounted.titled categories present
      rw [present] at within
      have finished : atSection < controller.home.finished.length := by
        rw [length_of_notified sound.accounted present]
        exact within
      have done := List.getElem?_eq_getElem finished
      exact ⟨rfl, _, done, (row_of_finished sound.accounted done).shown⟩

/-! ### One step -/

private theorem step_cellForRow {reused : Option Nat} {atSection : Nat}
    (taken : step text lists controller (.cellForRow reused atSection) = some next) :
    ∃ cells screens, atSection < controller.numberOfSections ∧
      controller.cellForRow reused atSection = some cells ∧
      Screens.step text controller.home.screens (.configure reused atSection) = some screens ∧
      next = { controller.withScreens screens with cells := cells } := by
  simp only [step] at taken
  split at taken
  · rename_i inside
    obtain ⟨cells, configured, taken⟩ := Option.bind_eq_some_iff.mp taken
    obtain ⟨screens, stepped, same⟩ := Option.map_eq_some_iff.mp taken
    exact ⟨cells, screens, inside, configured, stepped, same.symm⟩
  · cases taken

private theorem step_cellForItem {index item : Nat}
    (taken : step text lists controller (.cellForItem index item) = some next) :
    ∃ cell viewModel, controller.cells[index]? = some cell ∧
      controller.recipeViewModel cell item = some viewModel ∧
      viewModel.recipe.imageUrl.isSome = true ∧
      next = { controller with
        cells := controller.cells.set index
          { cell with displayed :=
              Function.update cell.displayed item (some viewModel.recipe) } } := by
  obtain ⟨cell, found, taken⟩ := Option.bind_eq_some_iff.mp taken
  obtain ⟨viewModel, read, taken⟩ := Option.bind_eq_some_iff.mp taken
  obtain ⟨content, configured, same⟩ := Option.bind_eq_some_iff.mp taken
  obtain ⟨address, unwrapped, _⟩ := Option.bind_eq_some_iff.mp configured
  have pictured : viewModel.recipe.imageUrl.isSome = true :=
    Option.isSome_iff_exists.mpr ⟨address, unwrapped⟩
  exact ⟨cell, viewModel, found, read, pictured, (Option.some.inj same).symm⟩

private theorem step_didSelectItem {index item : Nat}
    (taken : step text lists controller (.didSelectItem index item) = some next) :
    ∃ recipe, next = { controller with opened := controller.opened ++ [recipe] } := by
  obtain ⟨cell, _, taken⟩ := Option.bind_eq_some_iff.mp taken
  obtain ⟨_, _, taken⟩ := Option.bind_eq_some_iff.mp taken
  obtain ⟨viewModel, _, taken⟩ := Option.bind_eq_some_iff.mp taken
  obtain ⟨_, _, same⟩ := Option.bind_eq_some_iff.mp taken
  exact ⟨viewModel.recipe, (Option.some.inj same).symm⟩

theorem recipeViewModel_of_shows {cell : RecipeTableViewCell} {request : Request}
    (held : controller.home.screens.Shows cell.recipesViewModels (lists request)) (item : Nat) :
    (controller.recipeViewModel cell item).map CollectionCellViewModel.recipe =
      (lists request)[item]? := by
  unfold HomeViewController.recipeViewModel
  rw [Option.map_bind]
  exact held.read_at item

private theorem cells_cellForRow {reused : Option Nat} {atSection : Nat}
    {cells : List RecipeTableViewCell}
    (configured : controller.cellForRow reused atSection = some cells) :
    cells.map RecipeTableViewCell.recipesViewModels =
        (match reused with
        | none => controller.cells.map RecipeTableViewCell.recipesViewModels ++
            [(controller.home.screens.getTableCellModel atSection).collecionViewCellModels]
        | some cell => (controller.cells.map RecipeTableViewCell.recipesViewModels).set cell
            (controller.home.screens.getTableCellModel atSection).collecionViewCellModels) ∧
      ∀ cell ∈ cells, cell ∈ controller.cells ∨
        cell = ⟨atSection,
          (controller.home.screens.getTableCellModel atSection).collecionViewCellModels,
          fun _ => none⟩ := by
  cases reused with
  | none =>
      cases configured
      refine ⟨List.map_append, ?_⟩
      intro cell member
      rcases List.mem_append.mp member with old | new
      · exact Or.inl old
      · exact Or.inr (List.mem_singleton.mp new)
  | some index =>
      simp only [HomeViewController.cellForRow] at configured
      split at configured
      · cases configured
        exact ⟨List.map_set, fun cell member => List.mem_or_eq_of_mem_set member⟩
      · cases configured

private theorem sound_loading {action : HomeLoading.Action} (sound : Sound lists controller)
    (taken : step text lists controller (.loading action) = some next) : Sound lists next := by
  obtain ⟨home, stepped, rfl⟩ := Option.map_eq_some_iff.mp taken
  have keeps := keepsRows_loading stepped
  have accounted := HomeLoading.accounted_step sound.accounted stepped
  have within := sound.within
  have bound := sound.bound
  constructor
  · exact accounted
  · cases action with
    | notify =>
        obtain ⟨_, _, rfl⟩ := step_notify stepped
        change controller.numberOfSections ≤ titles.length
        unfold sections at within
        cases present : controller.home.categories with
        | none =>
            rw [present] at within
            exact within.trans (Nat.zero_le _)
        | some categories =>
            obtain ⟨rfl, _⟩ := sound.accounted.titled categories present
            rw [present] at within
            exact within
    | issue =>
        obtain ⟨_, _, _, rfl⟩ := step_issue stepped
        exact within
    | register =>
        obtain ⟨_, _, rfl⟩ := step_register stepped
        exact within
    | completed request =>
        obtain ⟨_, rfl⟩ := step_completed stepped
        exact within
  · rw [keeps.cells]
    exact sound.aligned
  · intro cell member
    exact (sound.rows cell member).kept keeps.finished keeps.recipes
  · exact sound.headers
  · cases action with
    | notify =>
        obtain ⟨_, _, rfl⟩ := step_notify stepped
        exact iff_of_false (Option.some_ne_none titles) (Nat.succ_ne_zero _)
    | issue =>
        obtain ⟨_, _, _, rfl⟩ := step_issue stepped
        exact bound
    | register =>
        obtain ⟨_, _, rfl⟩ := step_register stepped
        exact bound
    | completed request =>
        obtain ⟨_, rfl⟩ := step_completed stepped
        exact bound
  · exact sound.read

/-- The screens have changed, and with them perhaps the cells, but no row. -/
private theorem sound_withScreens {screens : Screens} {cells : List RecipeTableViewCell}
    (sound : Sound lists controller)
    (rows : screens.tableViewCellModels = controller.home.screens.tableViewCellModels)
    (recipes : FieldKept CollectionCellViewModel.recipe controller.home.screens.viewModels
      screens.viewModels)
    (aligned : screens.cells = cells.map RecipeTableViewCell.recipesViewModels)
    (shows : ∀ cell ∈ cells, ShowsRow lists { controller.home with screens := screens } cell) :
    Sound lists { controller.withScreens screens with cells := cells } where
  accounted := accounted_withScreens sound.accounted rows recipes
  within := sound.within
  aligned := aligned
  rows := shows
  headers := sound.headers
  bound := sound.bound
  read := sound.read

private theorem sound_readData (sound : Sound lists controller) :
    Sound lists controller.readData where
  accounted := sound.accounted
  within := le_refl _
  aligned := by
    change _ = (controller.cells.map _).map _
    rw [List.map_map]
    exact sound.aligned
  rows := by
    intro cell member
    obtain ⟨old, before, rfl⟩ := List.mem_map.mp member
    obtain ⟨request, done, held, _⟩ := sound.rows old before
    refine ⟨request, done, held, ?_⟩
    intro item recipe impossible
    cases impossible
  headers := by
    intro atSection label impossible
    cases impossible
  bound := sound.bound
  read := by
    intro positive
    have shown := sound.read positive
    have within := sound.within
    rw [shown] at within
    change sections controller.home = titles.length
    unfold sections at within ⊢
    cases present : controller.home.categories with
    | none =>
        rw [present] at within
        exact absurd within (by decide)
    | some categories =>
        obtain ⟨rfl, _⟩ := sound.accounted.titled categories present
        rfl

private theorem sound_cellForRow {reused : Option Nat} {atSection : Nat}
    (sound : Sound lists controller)
    (taken : step text lists controller (.cellForRow reused atSection) = some next) :
    Sound lists next := by
  obtain ⟨cells, screens, inside, configured, stepped, rfl⟩ := step_cellForRow taken
  obtain ⟨held, members⟩ := cells_cellForRow configured
  obtain ⟨_, request, done, shows⟩ := row_of_section sound inside
  have rows : ∀ cell ∈ cells, ShowsRow lists controller.home cell := by
    intro cell member
    rcases members cell member with old | rfl
    · exact sound.rows cell old
    · refine ⟨request, done, shows, ?_⟩
      intro item recipe impossible
      cases impossible
  have aligned := sound.aligned
  cases reused with
  | none =>
      cases stepped
      refine sound_withScreens sound rfl (FieldKept.refl _ _) ?_ rows
      rw [held, ← aligned]
  | some index =>
      cases stepped
      refine sound_withScreens sound rfl (FieldKept.refl _ _) ?_ rows
      rw [held, ← aligned]

private theorem sound_cellForItem {index item : Nat} (sound : Sound lists controller)
    (taken : step text lists controller (.cellForItem index item) = some next) :
    Sound lists next := by
  obtain ⟨cell, viewModel, found, read, pictured, rfl⟩ := step_cellForItem taken
  have own := sound.rows cell (List.mem_of_getElem? found)
  refine { sound with aligned := ?_, rows := ?_ }
  · change controller.home.screens.cells = (controller.cells.set index _).map _
    obtain ⟨inside, same⟩ := List.getElem?_eq_some_iff.mp found
    have inMapped : index < (controller.cells.map
        RecipeTableViewCell.recipesViewModels).length := by
      rw [List.length_map]
      exact inside
    have own : (controller.cells.map RecipeTableViewCell.recipesViewModels)[index] =
        cell.recipesViewModels := by rw [List.getElem_map, same]
    rw [List.map_set, sound.aligned]
    change _ = List.set _ index cell.recipesViewModels
    rw [← own, List.set_getElem_self]
  · intro other member
    rcases List.mem_or_eq_of_mem_set member with old | rfl
    · exact sound.rows other old
    · obtain ⟨request, done, held, displayed⟩ := own
      refine ⟨request, done, held, ?_⟩
      intro place recipe shown
      by_cases here : place = item
      · subst place
        change Function.update cell.displayed item _ item = some recipe at shown
        rw [Function.update_self] at shown
        cases shown
        refine ⟨?_, pictured⟩
        rw [← recipeViewModel_of_shows held, read]
        rfl
      · change Function.update cell.displayed item _ place = some recipe at shown
        rw [Function.update_of_ne here] at shown
        exact displayed place recipe shown

theorem viewForHeader_eq (sound : Sound lists controller) {atSection : Nat}
    (inside : atSection < controller.numberOfSections) :
    ∃ label, titles[atSection]? = some label ∧
      step text lists controller (.viewForHeader atSection) =
        some { controller with
          headers := Function.update controller.headers atSection (some label) } := by
  obtain ⟨present, _⟩ := row_of_section sound inside
  have within := Nat.lt_of_lt_of_le inside sound.within
  unfold sections at within
  rw [present] at within
  have named := List.getElem?_eq_getElem within
  refine ⟨_, named, ?_⟩
  simp only [step, if_pos inside, HomeViewController.viewForHeader, present]
  exact congrArg (Option.map _) named

private theorem sound_elsewhere {action : Screens.Action} (sound : Sound lists controller)
    (taken : step text lists controller (.elsewhere action) = some next) : Sound lists next := by
  simp only [step] at taken
  split at taken
  · rename_i other
    obtain ⟨screens, stepped, rfl⟩ := Option.map_eq_some_iff.mp taken
    obtain ⟨rows, cells⟩ := kept_elsewhere other stepped
    have recipes := fieldKept_step stepped
    refine sound_withScreens sound rows recipes (cells.trans sound.aligned) ?_
    intro cell member
    exact (sound.rows cell member).kept (List.prefix_refl _) recipes
  · cases taken

private theorem sound_reloadData (sound : Sound lists controller)
    (taken : step text lists controller .reloadData = some next) : Sound lists next := by
  simp only [step] at taken
  split at taken
  · rename_i queued
    cases taken
    refine { sound_readData sound with read := fun _ => ?_ }
    change sections controller.home = titles.length
    cases present : controller.home.categories with
    | none =>
        have unbound := sound.bound.mp present
        omega
    | some categories =>
        obtain ⟨rfl, _⟩ := sound.accounted.titled categories present
        unfold sections
        rw [present]
        rfl
  · cases taken

private theorem sound_viewForHeader {atSection : Nat} (sound : Sound lists controller)
    (taken : step text lists controller (.viewForHeader atSection) = some next) :
    Sound lists next := by
  have inside : atSection < controller.numberOfSections := by
    by_contra outside
    simp only [step, if_neg outside] at taken
    cases taken
  obtain ⟨label, named, shown⟩ := @viewForHeader_eq text _ _ sound _ inside
  rw [shown] at taken
  cases taken
  refine { sound with headers := ?_ }
  intro other text header
  by_cases here : other = atSection
  · subst other
    change Function.update controller.headers atSection (some label) atSection = _ at header
    rw [Function.update_self] at header
    rw [named, header]
  · change Function.update controller.headers atSection (some label) other = _ at header
    rw [Function.update_of_ne here] at header
    exact sound.headers other text header

theorem sound_step {action : Action} (sound : Sound lists controller)
    (taken : step text lists controller action = some next) : Sound lists next := by
  cases action with
  | loading action => exact sound_loading sound taken
  | elsewhere action => exact sound_elsewhere sound taken
  | firstLayout =>
      simp only [step] at taken
      split at taken
      · cases taken
      · cases taken
        exact sound_readData sound
  | reloadData => exact sound_reloadData sound taken
  | viewForHeader atSection => exact sound_viewForHeader sound taken
  | cellForRow reused atSection => exact sound_cellForRow sound taken
  | releaseCell index =>
      cases taken
      refine sound_withScreens sound rfl (FieldKept.refl _ _) ?_ ?_
      · rw [← List.eraseIdx_map, ← sound.aligned]
      · intro cell member
        exact sound.rows cell (List.mem_of_mem_eraseIdx member)
  | cellForItem index item => exact sound_cellForItem sound taken
  | didSelectItem index item =>
      obtain ⟨recipe, rfl⟩ := step_didSelectItem taken
      exact { sound with }

/-! ### Whole runs -/

theorem sound_run {screens : Screens} {actions : List Action} {reached : HomeViewController}
    (arrived : run (step text lists) (.viewDidLoad screens) actions = some reached) :
    Sound lists reached := by
  refine run_invariant (Sound lists) (fun _ _ _ => sound_step) ?_ arrived
  constructor
  · exact HomeLoading.accounted_start lists _
  · exact le_refl 0
  · rfl
  · intro cell impossible
    cases impossible
  · intro atSection label impossible
    cases impossible
  · exact iff_of_true rfl rfl
  · intro impossible
    cases impossible

theorem didSelectItem_eq (sound : Sound lists controller) {index item : Nat}
    {cell : RecipeTableViewCell} {recipe : Recipe} (found : controller.cells[index]? = some cell)
    (shown : cell.displayed item = some recipe) :
    step text lists controller (.didSelectItem index item) =
      some { controller with opened := controller.opened ++ [recipe] } := by
  obtain ⟨request, _, held, displayed⟩ := sound.rows cell (List.mem_of_getElem? found)
  obtain ⟨listed, pictured⟩ := displayed item recipe shown
  rw [← recipeViewModel_of_shows held] at listed
  obtain ⟨viewModel, read, rfl⟩ := Option.map_eq_some_iff.mp listed
  obtain ⟨address, unwrapped⟩ := Option.isSome_iff_exists.mp pictured
  simp only [step, HomeViewController.didSelectItem, DetailContent.updateUI, found, shown, read,
    unwrapped, Option.bind_eq_bind, Option.bind_some]
  rfl

/-- In every run, with the four requests answered in any order, edits and the other screens
in between, cells configured, reused and released: the cells that are told of an edit are the
live ones; a cell shows the row of its section, which some request has filled; no section that
the table asks for lacks its title; a tap opens the recipe that is displayed; and once the
group has notified and its reload has run, all titles are there. -/
theorem home_displays (text : TextSearch) (lists : Request → List Recipe) (screens : Screens)
    (actions : List Action) (reached : HomeViewController)
    (arrived : run (step text lists) (.viewDidLoad screens) actions = some reached) :
    reached.home.screens.cells = reached.cells.map RecipeTableViewCell.recipesViewModels ∧
      (∀ cell ∈ reached.cells, ∃ request, reached.home.finished[cell.atSection]? = some request ∧
        reached.home.screens.Shows cell.recipesViewModels (lists request) ∧
        ∀ item recipe, cell.displayed item = some recipe →
          (lists request)[item]? = some recipe) ∧
      (∀ atSection, atSection < reached.numberOfSections → ∃ label,
        titles[atSection]? = some label ∧
          step text lists reached (.viewForHeader atSection) = some { reached with
            headers := Function.update reached.headers atSection (some label) }) ∧
      (∀ index cell item recipe, reached.cells[index]? = some cell →
        cell.displayed item = some recipe →
          step text lists reached (.didSelectItem index item) =
            some { reached with opened := reached.opened ++ [recipe] }) ∧
      (reached.home.categories ≠ none → reached.reloaded = reached.home.bound →
        reached.numberOfSections = titles.length) := by
  have sound := sound_run arrived
  refine ⟨sound.aligned, ?_, ?_, ?_, ?_⟩
  · intro cell member
    obtain ⟨request, done, held, displayed⟩ := sound.rows cell member
    exact ⟨request, done, held, fun item recipe shown => (displayed item recipe shown).1⟩
  · intro atSection inside
    exact viewForHeader_eq sound inside
  · intro index cell item recipe found shown
    exact didSelectItem_eq sound found shown
  · intro notified caughtUp
    have bound : reached.home.bound ≠ 0 := fun unbound => notified (sound.bound.mpr unbound)
    exact sound.read (by omega)

def pictured : Request → List Recipe :=
  fun _ => [{ Recipe.titled 1 "Plov" with imageUrl := some "plov.png" }]

def loadedAndTapped : List Action :=
  .firstLayout :: (loading requests).map .loading ++
    [.reloadData, .viewForHeader 0, .cellForRow none 0, .cellForItem 0 0, .didSelectItem 0 0]

theorem home_displays_tapped :
    ∃ reached, run (step ⟨id, fun _ _ => true⟩ pictured)
        (.viewDidLoad (.launch ⟨none, none, none⟩)) loadedAndTapped = some reached ∧
      reached.opened.map Recipe.title = ["Plov"] ∧ reached.numberOfSections = titles.length := by
  obtain ⟨reached, arrived, notified, caughtUp, tapped⟩ : ∃ reached,
      run (step ⟨id, fun _ _ => true⟩ pictured) (.viewDidLoad (.launch ⟨none, none, none⟩))
        loadedAndTapped = some reached ∧ reached.home.categories ≠ none ∧
      reached.reloaded = reached.home.bound ∧ reached.opened.map Recipe.title = ["Plov"] :=
    ⟨_, rfl, Option.some_ne_none _, rfl, rfl⟩
  have displays := home_displays ⟨id, fun _ _ => true⟩ pictured (.launch ⟨none, none, none⟩)
    loadedAndTapped reached arrived
  exact ⟨reached, arrived, tapped, displays.2.2.2.2 notified caughtUp⟩

end SmartMeal.HomeTable
