/-
What one tap on a bookmark changes.

Membership is decided by title and removal by id.  The two agree on a tap exactly
when no stored recipe has the title of the tapped one under another id; otherwise
the tapped recipe stays a favorite after it was removed.
-/

import SmartMeal.Screens

namespace SmartMeal.ToggleLaw

open PartialStep ObjectHeap

/-- Of the tapped recipe and the stored ones, exactly those with the tapped id change
their status, and the flag of the view model is negated. -/
def ChangesOneStatus (screens : Screens) (ref : Ref) (viewModel : CollectionCellViewModel) :
    Prop :=
  (∀ recipe, recipe = viewModel.recipe ∨ recipe ∈ getFavorites screens.defaults →
    (isFavorite (screens.toggleFavorite ref viewModel).defaults recipe = true ↔
      ¬(isFavorite screens.defaults recipe = true ↔ recipe.id = viewModel.recipe.id))) ∧
  ∃ toggled, (screens.toggleFavorite ref viewModel).viewModels[ref]? = some toggled ∧
    toggled.isFavorite = !viewModel.isFavorite

def TitleNamesId (defaults : UserDefaults) (tapped : Recipe) : Prop :=
  ∀ stored ∈ getFavorites defaults, stored.title = tapped.title → stored.id = tapped.id

theorem toggled_viewModel {screens : Screens} {ref : Ref}
    {viewModel : CollectionCellViewModel} (found : screens.viewModels[ref]? = some viewModel) :
    (screens.toggleFavorite ref viewModel).viewModels[ref]? =
      some { viewModel with
        isFavorite :=
          isFavorite (screens.toggleFavorite ref viewModel).defaults viewModel.recipe } := by
  rw [Screens.toggleFavorite_eq found]
  have allocated : ref < screens.viewModels.length := (List.getElem?_eq_some_iff.mp found).1
  have grown := (Screens.refreshed_notified screens
    (screens.changedDefaults (.toggleFavorite ref))).grows
  exact List.getElem?_set_self (Nat.lt_of_lt_of_le allocated grown)

theorem toggled_defaults {screens : Screens} {ref : Ref} {viewModel : CollectionCellViewModel}
    (found : screens.viewModels[ref]? = some viewModel) :
    (screens.toggleFavorite ref viewModel).defaults =
      if viewModel.isFavorite then (removeFromFavorites viewModel.recipe screens.defaults).1
      else (addToFavorites viewModel.recipe screens.defaults).1 := by
  rw [Screens.toggleFavorite_eq found, ← Screens.changedDefaults_toggleFavorite found]
  rfl

private theorem negated_iff {screens : Screens} {ref : Ref} {viewModel : CollectionCellViewModel}
    (found : screens.viewModels[ref]? = some viewModel) :
    (∃ toggled, (screens.toggleFavorite ref viewModel).viewModels[ref]? = some toggled ∧
        toggled.isFavorite = !viewModel.isFavorite) ↔
      isFavorite (screens.toggleFavorite ref viewModel).defaults viewModel.recipe =
        !viewModel.isFavorite := by
  rw [toggled_viewModel found]
  constructor
  · rintro ⟨toggled, same, negated⟩
    cases same
    exact negated
  · intro negated
    exact ⟨_, rfl, negated⟩

private theorem changesOneStatus_of_unset {screens : Screens} {ref : Ref}
    {viewModel : CollectionCellViewModel} (found : screens.viewModels[ref]? = some viewModel)
    (copied : ∀ stored ∈ getFavorites screens.defaults,
      stored.id = viewModel.recipe.id → stored = viewModel.recipe)
    (cached : viewModel.Agrees screens.defaults) (unset : viewModel.isFavorite = false) :
    ChangesOneStatus screens ref viewModel := by
  have absent : isFavorite screens.defaults viewModel.recipe = false := cached.symm.trans unset
  have store := toggled_defaults found
  rw [unset, if_neg Bool.false_ne_true] at store
  constructor
  · intro recipe present
    rw [store, isFavorite_addToFavorites]
    rcases present with rfl | member
    · simp [absent]
    · have stored := isFavorite_of_mem member
      have otherId : recipe.id ≠ viewModel.recipe.id := by
        intro same
        rw [copied recipe member same, absent] at stored
        cases stored
      simp [stored, otherId]
  · rw [negated_iff found, store, unset]
    exact (isFavorite_addToFavorites _ _ _).mpr (Or.inr rfl)

private theorem changesOneStatus_iff_of_set {screens : Screens} {ref : Ref}
    {viewModel : CollectionCellViewModel} (found : screens.viewModels[ref]? = some viewModel)
    (copied : ∀ stored ∈ getFavorites screens.defaults,
      stored.id = viewModel.recipe.id → stored = viewModel.recipe)
    (cached : viewModel.Agrees screens.defaults) (isSet : viewModel.isFavorite = true) :
    ChangesOneStatus screens ref viewModel ↔
      TitleNamesId screens.defaults viewModel.recipe := by
  have present : isFavorite screens.defaults viewModel.recipe = true := cached.symm.trans isSet
  have store := toggled_defaults found
  rw [isSet, if_pos rfl] at store
  constructor
  · rintro ⟨law, _⟩ stored member sameTitle
    by_contra otherId
    have remains := (isFavorite_removeFromFavorites screens.defaults viewModel.recipe
      viewModel.recipe).mpr ⟨stored, member, sameTitle, otherId⟩
    rw [← store] at remains
    have changes := (law viewModel.recipe (Or.inl rfl)).mp remains
    exact changes (iff_of_true present rfl)
  · intro names
    have gone : isFavorite (removeFromFavorites viewModel.recipe screens.defaults).1
        viewModel.recipe = false := by
      rw [Bool.eq_false_iff]
      intro remains
      obtain ⟨stored, member, sameTitle, otherId⟩ :=
        (isFavorite_removeFromFavorites _ _ _).mp remains
      exact otherId (names stored member sameTitle)
    constructor
    · intro recipe drawn
      rw [store]
      rcases drawn with rfl | member
      · simp [gone, present]
      · have before := isFavorite_of_mem member
        by_cases sameId : recipe.id = viewModel.recipe.id
        · rw [copied recipe member sameId]
          simp [gone, present]
        · have remains := (isFavorite_removeFromFavorites screens.defaults viewModel.recipe
            recipe).mpr ⟨recipe, member, rfl, sameId⟩
          simp [remains, before, sameId]
    · rw [negated_iff found, store, isSet]
      exact gone

/-- A tap on a view model that agrees with the store, for a recipe that equals its
stored copy, obeys the law exactly when the tapped title names the tapped id. -/
theorem changesOneStatus_iff (screens : Screens) (ref : Ref)
    (viewModel : CollectionCellViewModel) (found : screens.viewModels[ref]? = some viewModel)
    (copied : ∀ stored ∈ getFavorites screens.defaults,
      stored.id = viewModel.recipe.id → stored = viewModel.recipe)
    (cached : viewModel.isFavorite = isFavorite screens.defaults viewModel.recipe) :
    ChangesOneStatus screens ref viewModel ↔
      ∀ stored ∈ getFavorites screens.defaults,
        stored.title = viewModel.recipe.title → stored.id = viewModel.recipe.id := by
  cases flag : viewModel.isFavorite with
  | false =>
      apply iff_of_true (changesOneStatus_of_unset found copied cached flag)
      intro stored member sameTitle
      have impossible := (isFavorite_iff screens.defaults viewModel.recipe).mpr
        ⟨stored, member, sameTitle⟩
      rw [← cached, flag] at impossible
      cases impossible
  | true => exact changesOneStatus_iff_of_set found copied cached flag

def oneViewModel (stored : List Recipe) (viewModel : CollectionCellViewModel) : Screens :=
  { Screens.launch (saveFavorites stored ⟨none, none, none⟩) with viewModels := [viewModel] }

theorem changesOneStatus_distinct_titles :
    ChangesOneStatus
      (oneViewModel [.titled 1 "Plov", .titled 2 "Laghman"] ⟨.titled 1 "Plov", true⟩)
      0 ⟨.titled 1 "Plov", true⟩ :=
  (changesOneStatus_iff _ 0 _ rfl (by decide) (by decide)).mpr (by decide)

/-- Two stored recipes share a title: the tapped one is removed, and it is still a
favorite. -/
theorem not_changesOneStatus_shared_title :
    ¬ ∀ (screens : Screens) (ref : Ref) (viewModel : CollectionCellViewModel),
      (favoriteIds screens.defaults).Nodup →
      screens.viewModels[ref]? = some viewModel →
      (∀ stored ∈ getFavorites screens.defaults,
        stored.id = viewModel.recipe.id → stored = viewModel.recipe) →
      viewModel.isFavorite = isFavorite screens.defaults viewModel.recipe →
      ChangesOneStatus screens ref viewModel := by
  intro always
  have law := always
    (oneViewModel [.titled 1 "Plov", .titled 2 "Plov"] ⟨.titled 1 "Plov", true⟩)
    0 ⟨.titled 1 "Plov", true⟩ (by decide) rfl (by decide) (by decide)
  have changes := (law.1 (.titled 1 "Plov") (Or.inl rfl)).mp (by decide)
  exact changes (by decide)

end SmartMeal.ToggleLaw
