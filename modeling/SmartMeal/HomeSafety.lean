/-
What the home screen asks for without a trap.

The table view asks for headers and cells of the sections it knows of, a cell for items of
its row, and the user taps items that are displayed.  From the answers on, an ingredient
that cannot be parsed traps in the completion of its request, and a recipe without an image
address once its item is asked for; nothing else does.
-/

import SmartMeal.HomeTable
import SmartMeal.HomeCompletion

namespace SmartMeal.HomeSafety

open PartialStep ObjectHeap PayloadSafety
open HomeTable hiding step
open HomeLoading (Request answeredStep loading)
open Screens (TextSearch)

variable {text : TextSearch} {answers : Request → TaskResult}
variable {controller : HomeViewController}

abbrev answered (answers : Request → TaskResult) (request : Request) : List Recipe :=
  (answers request).recipes

def step (text : TextSearch) (answers : Request → TaskResult) :
    Transition HomeViewController Action := fun controller action =>
  match action with
  | .loading action =>
      (answeredStep answers controller.home action).map fun home =>
        { controller with home := home }
  | action => HomeTable.step text (answered answers) controller action

/-- The calls that are made: a request is completed while it waits, a cell is reused from
those there are, an item is asked for within the row that its cell holds, and
`RecipeCell.favoriteTapped` is called for such an item. -/
inductive Asked (controller : HomeViewController) : Action → Prop where
  | completed (request : Request) (waits : request ∈ controller.home.waiting) :
      Asked controller (.loading (.completed request))
  | viewForHeader (atSection : Nat) (known : atSection < controller.numberOfSections) :
      Asked controller (.viewForHeader atSection)
  | cellForRow (reused : Option Nat) (atSection : Nat)
      (known : atSection < controller.numberOfSections)
      (there : ∀ cell, reused = some cell → cell < controller.cells.length) :
      Asked controller (.cellForRow reused atSection)
  | cellForItem (index item : Nat) (cell : RecipeTableViewCell)
      (found : controller.cells[index]? = some cell)
      (held : item < cell.recipesViewModels.length) :
      Asked controller (.cellForItem index item)
  | didSelectItem (index item : Nat) (cell : RecipeTableViewCell) (recipe : Recipe)
      (found : controller.cells[index]? = some cell)
      (shown : cell.displayed item = some recipe) :
      Asked controller (.didSelectItem index item)
  | favoriteTapped (ref : Ref) (cell : RecipeTableViewCell) (there : cell ∈ controller.cells)
      (held : ref ∈ cell.recipesViewModels) :
      Asked controller (.elsewhere (.toggleFavorite ref))

def NeverTraps (text : TextSearch) (answers : Request → TaskResult)
    (controller : HomeViewController) : Prop :=
  ∀ action, Asked controller action → (step text answers controller action).isSome

def Displayable (result : TaskResult) : Prop :=
  result.error = none → ∀ data, result.data = some data →
    ∀ element ∈ resultElements data, Unwraps element

def Pictured (recipes : List Recipe) : Prop := ∀ recipe ∈ recipes, recipe.imageUrl.isSome = true

/-! ### The answers -/

private theorem recipes_of_decoded {result : TaskResult} {data : Data} {recipes : List Recipe}
    (received : result.error = none) (body : result.data = some data)
    (decoded : decodeRecipes data = some recipes) : result.recipes = recipes := by
  unfold TaskResult.recipes fetchRecipesAnswered
  simp only [received, body, decoded, Option.map_some, Option.getD_some]

private theorem recipes_of_nothing {result : TaskResult}
    (nothing : result.error = none → result.data = none) : result.recipes = [] := by
  unfold TaskResult.recipes fetchRecipesAnswered
  cases failed : result.error with
  | some error => rfl
  | none =>
      rw [nothing failed]
      rfl

private theorem parses_of_answered {Caller : Type} {completion : List Recipe → Caller → Caller}
    {result : TaskResult} {caller : Caller}
    (handled : (fetchRecipesAnswered completion result caller).isSome) : result.Parses := by
  intro received data body element member
  rw [← not_trapped_iff, ← decodedRecipe_eq_none_iff fetchedSteps]
  intro trapped
  have nothing : decodeRecipes data = none := by
    rw [decodeRecipes_eq]
    exact Traversal.mapM_eq_none_iff.mpr ⟨element, member, trapped⟩
  simp [fetchRecipesAnswered, received, body, nothing] at handled

private theorem displayable_iff (result : TaskResult) :
    Displayable result ↔ result.Parses ∧ Pictured result.recipes := by
  have shown (data : Data) : (∀ element ∈ resultElements data, Unwraps element) ↔
      ∃ recipes, decodeRecipes data = some recipes ∧ Pictured recipes := by
    rw [← decoded_show_iff fetchedSteps, decodeRecipes_eq]
    simp only [shows_iff, Pictured]
    rfl
  constructor
  · intro displayable
    constructor
    · intro received data body element member
      exact (displayable received data body element member).1
    · by_cases nothing : result.error = none → result.data = none
      · rw [recipes_of_nothing nothing]
        intro recipe impossible
        cases impossible
      · obtain ⟨received, present⟩ := Classical.not_imp.mp nothing
        obtain ⟨data, body⟩ := Option.ne_none_iff_exists'.mp present
        obtain ⟨recipes, decoded, pictured⟩ := (shown data).mp (displayable received data body)
        rw [recipes_of_decoded received body decoded]
        exact pictured
  · rintro ⟨parses, pictured⟩ received data body
    obtain ⟨recipes, decoded⟩ := Option.ne_none_iff_exists'.mp
      (decodeRecipes_ne_none (parses received data body))
    rw [recipes_of_decoded received body decoded] at pictured
    exact (shown data).mpr ⟨recipes, decoded, pictured⟩

private theorem step_eq (parses : ∀ request, (answers request).Parses)
    (controller : HomeViewController)
    (action : Action) :
    step text answers controller action =
      HomeTable.step text (answered answers) controller action := by
  cases action with
  | loading action =>
      change (answeredStep answers controller.home action).map _ = _
      rw [HomeLoading.answeredStep_eq parses]
      rfl
  | _ => rfl

/-! ### What does not trap -/

variable {lists : Request → List Recipe}

private theorem length_of_shows {cell : RecipeTableViewCell} {request : Request}
    (held : controller.home.screens.Shows cell.recipesViewModels (lists request)) :
    cell.recipesViewModels.length = (lists request).length :=
  held.length_eq

private theorem cellForRow_isSome {reused : Option Nat} {atSection : Nat}
    (known : atSection < controller.numberOfSections)
    (there : ∀ cell, reused = some cell → cell < controller.cells.length) :
    (HomeTable.step text lists controller (.cellForRow reused atSection)).isSome := by
  simp only [HomeTable.step, if_pos known]
  cases reused with
  | none => rfl
  | some cell =>
      simp only [HomeViewController.cellForRow, if_pos (there cell rfl), Option.bind_some]
      rfl

private theorem cellForItem_isSome_iff (sound : Sound lists controller) {index item : Nat}
    {cell : RecipeTableViewCell} (found : controller.cells[index]? = some cell)
    (held : item < cell.recipesViewModels.length) :
    ∃ request recipe, controller.home.finished[cell.atSection]? = some request ∧
      (lists request)[item]? = some recipe ∧
      ((HomeTable.step text lists controller (.cellForItem index item)).isSome ↔
        recipe.imageUrl.isSome) := by
  obtain ⟨request, done, shows, _⟩ := sound.rows cell (List.mem_of_getElem? found)
  have inside : item < (lists request).length := length_of_shows shows ▸ held
  have listed := List.getElem?_eq_getElem inside
  have read := recipeViewModel_of_shows shows item
  rw [listed] at read
  obtain ⟨viewModel, reads, same⟩ := Option.map_eq_some_iff.mp read
  refine ⟨request, _, done, listed, ?_⟩
  simp only [HomeTable.step, HomeViewController.cellForItem, RecipeCellContent.configure, found,
    reads, Option.bind_eq_bind, Option.bind_some, ← same]
  change (Option.bind (Option.bind viewModel.recipe.imageUrl _) _).isSome ↔ _
  cases viewModel.recipe.imageUrl <;> simp

private theorem favoriteTapped_isSome (sound : Sound lists controller) {ref : Ref}
    {cell : RecipeTableViewCell} (there : cell ∈ controller.cells)
    (held : ref ∈ cell.recipesViewModels) :
    (HomeTable.step text lists controller (.elsewhere (.toggleFavorite ref))).isSome := by
  obtain ⟨request, _, shows, _⟩ := sound.rows cell there
  obtain ⟨item, found⟩ := List.mem_iff_getElem?.mp held
  have inside : item < (lists request).length := by
    rw [← length_of_shows shows]
    exact (List.getElem?_eq_some_iff.mp found).1
  have read := recipeViewModel_of_shows shows item
  rw [List.getElem?_eq_getElem inside] at read
  obtain ⟨viewModel, reads, _⟩ := Option.map_eq_some_iff.mp read
  unfold HomeViewController.recipeViewModel at reads
  rw [found, Option.bind_some] at reads
  change (Option.map _ (Option.map _ (controller.home.screens.viewModels[ref]?))).isSome
  rw [reads]
  rfl

private theorem neverTraps_of_sound (parses : ∀ request, (answers request).Parses)
    (pictured : ∀ request, Pictured (answered answers request))
    (sound : Sound (answered answers) controller) : NeverTraps text answers controller := by
  intro action asked
  rw [step_eq parses]
  cases asked with
  | completed request waits =>
      change (Option.map _ (HomeLoading.step _ controller.home (.completed request))).isSome
      simp only [HomeLoading.step, if_pos waits]
      rfl
  | viewForHeader atSection known =>
      obtain ⟨label, _, shown⟩ := @viewForHeader_eq text _ _ sound _ known
      rw [shown]
      rfl
  | cellForRow reused atSection known there => exact cellForRow_isSome known there
  | cellForItem index item cell found held =>
      obtain ⟨request, recipe, _, listed, displays⟩ := cellForItem_isSome_iff sound found held
      exact displays.mpr (pictured request recipe (List.mem_of_getElem? listed))
  | didSelectItem index item cell recipe found shown =>
      rw [didSelectItem_eq sound found shown]
      rfl
  | favoriteTapped ref cell there held => exact favoriteTapped_isSome sound there held

/-! ### What a trap needs -/

def issued : List Action := [.loading .issue, .loading .issue, .loading .issue, .loading .issue]

/-- The request that completes in the place of the first section, and a cell for that section. -/
def firstRow (request : Request) : List Action :=
  (loading (request :: HomeLoading.requests.erase request)).map .loading ++
    [.reloadData, .cellForRow none 0]

private theorem waiting_issued (screens : Screens) : ∃ reached,
    run (step text answers) (.viewDidLoad screens) issued = some reached ∧
      ∀ request, request ∈ reached.home.waiting := by
  refine ⟨_, rfl, ?_⟩
  intro request
  change request ∈ HomeLoading.requests
  cases request <;> decide

private theorem cell_of_firstRow (lists : Request → List Recipe) (screens : Screens)
    (request : Request) :
    ∃ reached cell, run (HomeTable.step text lists) (.viewDidLoad screens) (firstRow request) =
        some reached ∧ reached.cells[0]? = some cell ∧
      reached.home.finished[cell.atSection]? = some request := by
  cases request <;> exact ⟨_, _, rfl, rfl, rfl⟩

section

variable (always : ∀ screens actions,
  Throughout (step text answers) (NeverTraps text answers) (.viewDidLoad screens) actions)
include always

private theorem neverTraps_reached {screens : Screens} {actions : List Action}
    {reached : HomeViewController}
    (arrived : run (step text answers) (.viewDidLoad screens) actions = some reached) :
    NeverTraps text answers reached :=
  (throughout_iff_prefixes _ _).mp (always screens actions) actions (List.prefix_refl _) reached
    arrived

private theorem parses_of_always (request : Request) : (answers request).Parses := by
  obtain ⟨reached, arrived, waits⟩ :=
    @waiting_issued text answers (.launch ⟨none, none, none⟩)
  have handled := neverTraps_reached always arrived _ (.completed request (waits request))
  change (Option.map _ (answeredStep answers reached.home (.completed request))).isSome at handled
  rw [Option.isSome_map] at handled
  simp only [answeredStep, if_pos (waits request)] at handled
  exact parses_of_answered handled

private theorem pictured_of_always (request : Request) : Pictured (answered answers request) := by
  have parses := parses_of_always always
  have same : step text answers = HomeTable.step text (answered answers) := by
    funext controller action
    exact step_eq parses controller action
  obtain ⟨reached, cell, arrived, found, done⟩ :=
    @cell_of_firstRow text (answered answers) (.launch ⟨none, none, none⟩) request
  have sound := sound_run arrived
  rw [← same] at arrived
  have safe := neverTraps_reached always arrived
  intro recipe member
  obtain ⟨item, listed⟩ := List.mem_iff_getElem?.mp member
  obtain ⟨other, finished, shows, _⟩ := sound.rows cell (List.mem_of_getElem? found)
  rw [done] at finished
  cases finished
  have held : item < cell.recipesViewModels.length := by
    rw [length_of_shows shows]
    exact (List.getElem?_eq_some_iff.mp listed).1
  obtain ⟨again, shown, finished, read, displays⟩ :=
    @cellForItem_isSome_iff text _ _ sound _ item _ found held
  rw [done] at finished
  cases finished
  rw [listed] at read
  cases read
  apply displays.mp
  rw [← step_eq parses]
  exact safe _ (.cellForItem 0 item cell found held)

end

/-- The home screen never traps, in whatever order its requests are answered and whatever the
user and the other screens do, exactly if every element of the four answers can be displayed. -/
theorem home_never_traps_iff (text : TextSearch) (answers : Request → TaskResult) :
    (∀ screens actions,
      Throughout (step text answers) (NeverTraps text answers) (.viewDidLoad screens) actions) ↔
    ∀ request, Displayable (answers request) := by
  constructor
  · intro always request
    exact (displayable_iff _).mpr
      ⟨parses_of_always always request, pictured_of_always always request⟩
  · intro displayable screens actions
    have parses := fun request => ((displayable_iff _).mp (displayable request)).1
    have pictured := fun request => ((displayable_iff _).mp (displayable request)).2
    apply throughout_mono (Sound (answered answers)) fun _ => neverTraps_of_sound parses pictured
    have start : Sound (answered answers) (.viewDidLoad screens) := @sound_run text _ _ [] _ rfl
    refine throughout_of_eachStep _ ?_ start (eachStep_of_forall (fun _ _ => trivial) _ actions)
    intro controller action next sound _ taken
    rw [step_eq parses] at taken
    exact sound_step sound taken

end SmartMeal.HomeSafety
