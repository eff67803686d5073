/-
The favorites screen as a mirror of the store.

Every edit of the favorites calls back into the favorites view model created last, in
the middle of the edit, and `FavoritesViewModel.removeFromFavorites` then edits its own
copy of the list with a condition that holds of every recipe.  Each of these operations
ends with a load, so once it has returned the view model shows the stored list again.
-/

import SmartMeal.Screens

namespace SmartMeal.FavoritesMirror

open PartialStep ObjectHeap Screens

/-- The screens with the favorites view model created last, which has the callback, and
those created before it. -/
structure Mirror where
  screens : Screens
  earlier : List FavoritesViewModel
  loaded : Bool

namespace Mirror

def launch (defaults : UserDefaults) : Mirror :=
  { screens := .launch defaults, earlier := [], loaded := false }

/-- `FavoritesViewModel()`, which takes the callback over. -/
def createFavorites (mirror : Mirror) : Mirror :=
  { screens := { mirror.screens with favorites := ⟨[], []⟩ }
    earlier := mirror.earlier ++ [mirror.screens.favorites]
    loaded := false }

def edit (mirror : Mirror) (edited : UserDefaults × List FavoritesEffect) : Mirror :=
  { mirror with screens := mirror.screens.deliver edited, loaded := true }

end Mirror

/-- The `removeAll` of `FavoritesViewModel.removeFromFavorites`: the parameter of the
closure hides the recipe to be removed, and is compared with itself. -/
def removeAll (favoriteRecipes : List Recipe) : List Recipe :=
  favoriteRecipes.filter fun recipe => !(recipe.title == recipe.title)

/-- `FavoritesViewModel.removeFromFavorites` on the view model that has the callback. -/
def removeOwn (recipe : Recipe) (mirror : Mirror) : Mirror :=
  let edited := mirror.edit (removeFromFavorites recipe mirror.screens.defaults)
  let favorites :=
    { edited.screens.favorites with
      favoriteRecipes := removeAll edited.screens.favorites.favoriteRecipes }
  { edited with screens := { edited.screens with favorites := favorites }.loadFavorites }

/-- The same call on a view model created before; its own lists are loaded anew. -/
def removeEarlier (index : Nat) (recipe : Recipe) (mirror : Mirror) : Mirror :=
  let edited := mirror.edit (removeFromFavorites recipe mirror.screens.defaults)
  let favoriteRecipes := getFavorites edited.screens.defaults
  { edited with
    screens := { edited.screens with viewModels := edited.screens.create favoriteRecipes }
    earlier := edited.earlier.set index
      { favoriteRecipes := favoriteRecipes
        collectionCellViewModels := edited.screens.created favoriteRecipes } }

def loads : Screens.Action → Bool
  | .loadFavorites => true
  | .toggleFavorite _ => true
  | .synced _ => true
  | _ => false

inductive Action where
  | createFavorites
  | addToFavorites (recipe : Recipe)
  | removeFromFavorites (recipe : Recipe)
  | removeOwn (recipe : Recipe)
  | removeEarlier (index : Nat) (recipe : Recipe)
  | screens (action : Screens.Action)

def step (text : TextSearch) : Transition Mirror Action
  | mirror, .createFavorites => some mirror.createFavorites
  | mirror, .addToFavorites recipe =>
      some (mirror.edit (addToFavorites recipe mirror.screens.defaults))
  | mirror, .removeFromFavorites recipe =>
      some (mirror.edit (removeFromFavorites recipe mirror.screens.defaults))
  | mirror, .removeOwn recipe => some (removeOwn recipe mirror)
  | mirror, .removeEarlier index recipe =>
      if index < mirror.earlier.length then some (removeEarlier index recipe mirror) else none
  | mirror, .screens action =>
      (Screens.step text mirror.screens action).map fun screens =>
        { mirror with screens := screens, loaded := mirror.loaded || loads action }

structure Mirrors (screens : Screens) : Prop where
  stored : screens.favorites.favoriteRecipes = getFavorites screens.defaults
  shown : screens.Shows screens.favorites.collectionCellViewModels (getFavorites screens.defaults)
  flags : Reads CollectionCellViewModel.isFavorite screens.viewModels
    screens.favorites.collectionCellViewModels
    ((getFavorites screens.defaults).map fun _ => true)

/-- After the view model has removed a recipe, its list lacks exactly the entries with
the id of the recipe. -/
def RemovesExactly (mirror : Mirror) (action : Action) : Prop :=
  ∀ recipe, action = .removeOwn recipe → mirror.loaded = true →
    (removeOwn recipe mirror).screens.favorites.favoriteRecipes =
      mirror.screens.favorites.favoriteRecipes.filter fun stored => stored.id != recipe.id

/-! ### What keeps the mirror -/

variable {screens : Screens} {text : TextSearch} {mirror next : Mirror}

private theorem mirrors_loadFavorites (screens : Screens) : Mirrors screens.loadFavorites where
  stored := rfl
  shown := reads_created screens (getFavorites screens.defaults)
  flags := by
    have reads : Reads CollectionCellViewModel.isFavorite
        (screens.create (getFavorites screens.defaults)) _ _ :=
      reads_append screens.viewModels
        ((getFavorites screens.defaults).map (CollectionCellViewModel.init screens.defaults))
    rw [List.length_map, List.map_map] at reads
    have set : (getFavorites screens.defaults).map
        (CollectionCellViewModel.isFavorite ∘ CollectionCellViewModel.init screens.defaults) =
          (getFavorites screens.defaults).map fun _ => true :=
      List.map_congr_left fun recipe member => isFavorite_of_mem member
    rw [set] at reads
    exact reads

private theorem Mirrors.append {viewModels : List CollectionCellViewModel} {changed : Screens}
    (mirrors : Mirrors screens) (favorites : changed.favorites = screens.favorites)
    (defaults : changed.defaults = screens.defaults)
    (grown : changed.viewModels = screens.viewModels ++ viewModels) : Mirrors changed where
  stored := by
    rw [favorites, defaults]
    exact mirrors.stored
  shown := by
    unfold Shows
    rw [favorites, defaults, grown]
    exact mirrors.shown.kept (fieldKept_append _ _)
  flags := by
    rw [favorites, defaults, grown]
    exact mirrors.flags.kept (fieldKept_append _ _)

private theorem Mirrors.set {ref : Ref} (mirrors : Mirrors screens)
    (absent : ref ∉ screens.favorites.collectionCellViewModels)
    (viewModel : CollectionCellViewModel) :
    Mirrors { screens with viewModels := screens.viewModels.set ref viewModel } where
  stored := mirrors.stored
  shown := mirrors.shown.set absent viewModel
  flags := mirrors.flags.set absent viewModel

theorem mirrors_notified (screens : Screens) (defaults : UserDefaults) :
    Mirrors (screens.notified defaults) := mirrors_loadFavorites _

/-- The view models loaded on the way are none of those there were before. -/
private theorem not_mem_favorites_notified {ref : Ref} {defaults : UserDefaults}
    (old : ref < screens.viewModels.length) :
    ref ∉ (screens.notified defaults).favorites.collectionCellViewModels := by
  intro member
  let stored : Screens := { screens with defaults := defaults }
  have cells := (refreshed_cellsUpdateFavorites stored).grows
  have search := (refreshed_create stored.cellsUpdateFavorites
    (if stored.search.filteredRecipes.isEmpty then stored.search.popularRecipes
      else stored.search.filteredRecipes)).grows
  have fresh := length_le_of_mem_created member
  exact absurd (Nat.lt_of_lt_of_le old (cells.trans (search.trans fresh))) (Nat.lt_irrefl ref)

private theorem mirrors_edit_add (mirror : Mirror) (recipe : Recipe) :
    Mirrors (mirror.edit (addToFavorites recipe mirror.screens.defaults)).screens :=
  mirrors_loadFavorites _

private theorem mirrors_edit_remove (mirror : Mirror) (recipe : Recipe) :
    Mirrors (mirror.edit (removeFromFavorites recipe mirror.screens.defaults)).screens :=
  mirrors_loadFavorites _

private theorem mirrors_removeEarlier (index : Nat) (recipe : Recipe) (mirror : Mirror) :
    Mirrors (removeEarlier index recipe mirror).screens :=
  (mirrors_edit_remove mirror recipe).append rfl rfl rfl

theorem mirrors_step_screens {action : Screens.Action} {after : Screens}
    (mirrors : loads action = false → Mirrors screens)
    (taken : Screens.step text screens action = some after) : Mirrors after := by
  cases action with
  | toggleFavorite ref =>
      obtain ⟨viewModel, found, rfl⟩ := step_toggleFavorite taken
      rw [toggleFavorite_eq found]
      have old : ref < screens.viewModels.length := (List.getElem?_eq_some_iff.mp found).1
      exact (mirrors_notified screens _).set (not_mem_favorites_notified old) _
  | synced answer =>
      rw [step_synced taken]
      exact mirrors_notified screens _
  | loadFavorites =>
      cases taken
      exact mirrors_loadFavorites screens
  | create recipe =>
      cases taken
      exact (mirrors rfl).append rfl rfl rfl
  | homeLoaded recipes =>
      cases taken
      exact (mirrors rfl).append rfl rfl rfl
  | searchLoaded recipes =>
      cases taken
      exact (mirrors rfl).append rfl rfl rfl
  | updateSearchController searchBarText =>
      cases taken
      obtain ⟨search, recipes, same⟩ := updateSearchController_eq text searchBarText screens
      rw [same]
      exact (mirrors rfl).append rfl rfl rfl
  | configure reused atSection =>
      cases reused <;> cases taken <;>
        exact (mirrors rfl).append rfl rfl (List.append_nil _).symm
  | releaseCell cell =>
      cases taken
      exact (mirrors rfl).append rfl rfl (List.append_nil _).symm

private theorem mirrors_step {action : Action}
    (mirrors : mirror.loaded = true → Mirrors mirror.screens)
    (taken : step text mirror action = some next) :
    next.loaded = true → Mirrors next.screens := by
  intro loaded
  cases action with
  | createFavorites =>
      cases taken
      cases loaded
  | addToFavorites recipe =>
      cases taken
      exact mirrors_edit_add mirror recipe
  | removeFromFavorites recipe =>
      cases taken
      exact mirrors_edit_remove mirror recipe
  | removeOwn recipe =>
      cases taken
      exact mirrors_loadFavorites _
  | removeEarlier index recipe =>
      simp only [step] at taken
      split at taken
      · cases taken
        exact mirrors_removeEarlier index recipe mirror
      · cases taken
  | screens action =>
      obtain ⟨after, stepped, rfl⟩ := Option.map_eq_some_iff.mp taken
      apply mirrors_step_screens ?_ stepped
      intro silent
      apply mirrors
      simpa [silent] using loaded

private theorem removesExactly_of_mirrors (mirrors : mirror.loaded = true → Mirrors mirror.screens)
    (action : Action) : RemovesExactly mirror action := by
  intro recipe _ loaded
  rw [(mirrors loaded).stored]
  exact getFavorites_removeFromFavorites recipe mirror.screens.defaults

/-- In every run, after every call, the favorites view model created last mirrors the
store once it has loaded, and its own removals take exactly the entries with the id of
the recipe out of its list. -/
theorem mirrors_throughout (text : TextSearch) (defaults : UserDefaults)
    (actions : List Action) :
    Throughout (step text) (fun mirror => mirror.loaded = true → Mirrors mirror.screens)
        (.launch defaults) actions ∧
      EachStep (step text) RemovesExactly (.launch defaults) actions := by
  have always : ∀ mirror action next, (mirror.loaded = true → Mirrors mirror.screens) →
      True → step text mirror action = some next → next.loaded = true → Mirrors next.screens :=
    fun mirror action next mirrors _ taken => mirrors_step mirrors taken
  have start : (Mirror.launch defaults).loaded = true → Mirrors (Mirror.launch defaults).screens :=
    fun impossible => by cases impossible
  constructor
  · exact throughout_of_eachStep _ always start (eachStep_of_forall (fun _ _ => trivial) _ actions)
  · refine eachStep_of_eachStep _ always ?_ start (eachStep_of_forall (fun _ _ => trivial) _ actions)
    intro mirror action next mirrors _ _
    exact removesExactly_of_mirrors mirrors action

end SmartMeal.FavoritesMirror
