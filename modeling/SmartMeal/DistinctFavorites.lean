/-
Whether a recipe can be stored twice.

An add appends without looking: it relies on the flag that the tapped view model
has cached, and a flag can be out of date.  From an empty store, with lists of
distinct ids from the server, no id is stored twice exactly when no unset flag is
tapped while its id is stored.
-/

import Mathlib.Data.List.Nodup
import SmartMeal.Screens

namespace SmartMeal.DistinctFavorites

open PartialStep ObjectHeap Screens

def IdsDistinct (screens : Screens) : Prop := (favoriteIds screens.defaults).Nodup

def SyncsDistinct (_ : Screens) (action : Action) : Prop :=
  ∀ answer recipes, action = .synced answer → FavoritesProcess.loaded answer = some recipes →
    (recipes.map Recipe.id).Nodup

/-- A tap on an unset flag finds its id not stored. -/
def AddsNewId (screens : Screens) (action : Action) : Prop :=
  ∀ ref viewModel, action = .toggleFavorite ref →
    screens.viewModels[ref]? = some viewModel → viewModel.isFavorite = false →
      viewModel.recipe.id ∉ favoriteIds screens.defaults

private theorem nodup_favoriteIds_add (recipe : Recipe) {defaults : UserDefaults}
    (distinct : (favoriteIds defaults).Nodup) :
    (favoriteIds (addToFavorites recipe defaults).1).Nodup ↔
      recipe.id ∉ favoriteIds defaults := by
  have appended : favoriteIds (addToFavorites recipe defaults).1 =
      favoriteIds defaults ++ [recipe.id] := by
    unfold favoriteIds
    rw [getFavorites_addToFavorites, List.map_append]
    rfl
  rw [appended, List.nodup_append]
  constructor
  · rintro ⟨_, _, disjoint⟩ member
    exact disjoint recipe.id member recipe.id (List.mem_singleton.mpr rfl) rfl
  · intro absent
    refine ⟨distinct, List.nodup_singleton recipe.id, ?_⟩
    intro id member other here same
    rw [List.mem_singleton.mp here] at same
    exact absent (same ▸ member)

private theorem nodup_favoriteIds_remove (recipe : Recipe) {defaults : UserDefaults}
    (distinct : (favoriteIds defaults).Nodup) :
    (favoriteIds (removeFromFavorites recipe defaults).1).Nodup := by
  unfold favoriteIds at distinct ⊢
  rw [getFavorites_removeFromFavorites]
  exact distinct.sublist (List.filter_sublist.map Recipe.id)

private theorem idsDistinct_step {text : TextSearch} {screens next : Screens} {action : Action}
    (distinct : IdsDistinct screens) (syncs : SyncsDistinct screens action)
    (taken : step text screens action = some next) :
    IdsDistinct next ↔ AddsNewId screens action := by
  unfold IdsDistinct
  rw [step_defaults taken]
  cases action with
  | toggleFavorite ref =>
      obtain ⟨viewModel, found, _⟩ := step_toggleFavorite taken
      rw [changedDefaults_toggleFavorite found]
      cases flag : viewModel.isFavorite with
      | true =>
          apply iff_of_true (nodup_favoriteIds_remove viewModel.recipe distinct)
          intro ref' viewModel' same found' unset
          cases same
          rw [found] at found'
          cases found'
          rw [flag] at unset
          cases unset
      | false =>
          rw [if_neg Bool.false_ne_true, nodup_favoriteIds_add viewModel.recipe distinct]
          constructor
          · intro absent ref' viewModel' same found' _
            cases same
            rw [found] at found'
            cases found'
            exact absent
          · intro adds
            exact adds ref viewModel rfl found flag
  | synced answer =>
      refine iff_of_true ?_ fun _ _ other => (by cases other)
      rw [changedDefaults_synced]
      cases loads : FavoritesProcess.loaded answer with
      | none => exact distinct
      | some recipes =>
          have ids : favoriteIds (saveFavorites recipes screens.defaults) =
              recipes.map Recipe.id := by
            unfold favoriteIds
            rw [getFavorites_saveFavorites]
          simp only [ids]
          exact syncs answer recipes rfl loads
  | _ => exact iff_of_true distinct fun _ _ other => (by cases other)

/-- From an empty store, ids stay distinct throughout exactly when every add is of an
id that is not stored. -/
theorem idsDistinct_throughout_iff (text : TextSearch) (authToken refreshToken : Option String)
    (actions : List Action)
    (syncs : EachStep (step text) SyncsDistinct (launch ⟨authToken, refreshToken, none⟩) actions) :
    Throughout (step text) IdsDistinct (launch ⟨authToken, refreshToken, none⟩) actions ↔
      EachStep (step text) AddsNewId (launch ⟨authToken, refreshToken, none⟩) actions := by
  refine throughout_iff_eachStep (fun _ => True) ?_ ?_ syncs trivial List.nodup_nil
  · intro _ _ _ _ _
    trivial
  · intro screens action next _ distinct syncsHere taken
    exact idsDistinct_step distinct syncsHere taken

def noSearch : TextSearch := ⟨id, fun _ _ => false⟩

theorem idsDistinct_throughout_two_taps :
    Throughout (step noSearch) IdsDistinct (launch ⟨none, none, none⟩)
      [.homeLoaded [.titled 1 "Plov"], .configure none 0, .toggleFavorite 0,
        .toggleFavorite 0] := by
  refine (idsDistinct_throughout_iff noSearch none none _ ?_).mpr ?_
  · apply eachStep_of_actions
    simp [SyncsDistinct]
  · refine (eachStep_cons rfl).mpr ⟨fun _ _ other => (by cases other), ?_⟩
    refine (eachStep_cons rfl).mpr ⟨fun _ _ other => (by cases other), ?_⟩
    refine (eachStep_cons rfl).mpr ⟨?_, ?_⟩
    · intro _ _ same found _
      cases same
      cases found
      decide
    refine (eachStep_cons rfl).mpr ⟨?_, trivial⟩
    intro _ _ same found unset
    cases same
    cases found
    cases unset

/-- A recipe is in two rows of the home screen, the second of them off screen.  The
first tap adds it; scrolling shows the second row with its unset flag, and a tap
there adds it again. -/
theorem not_idsDistinct_row_off_screen :
    ¬ ∀ (text : TextSearch) (authToken refreshToken : Option String) (actions : List Action),
      EachStep (step text) SyncsDistinct (launch ⟨authToken, refreshToken, none⟩) actions →
        Throughout (step text) IdsDistinct (launch ⟨authToken, refreshToken, none⟩) actions := by
  intro always
  have distinct := (throughout_iff_prefixes _ _).mp
    (always noSearch none none
      [.homeLoaded [.titled 1 "Plov"], .homeLoaded [.titled 1 "Plov"], .configure none 0,
        .toggleFavorite 0, .configure (some 0) 1, .toggleFavorite 1] ?_)
    _ (List.prefix_refl _) _ rfl
  · exact absurd distinct (by unfold IdsDistinct; decide)
  · apply eachStep_of_actions
    simp [SyncsDistinct]

end SmartMeal.DistinctFavorites
