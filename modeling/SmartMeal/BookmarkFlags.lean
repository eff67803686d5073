/-
Whether the bookmark flags agree with the store on every screen.

After a change of the store the search and favorites screens are rebuilt, and the
table cells refresh the view models they hold.  A home row that no table cell holds
keeps its flags.  The flags therefore agree throughout a run exactly when no change
of the store changes the status of a recipe in such a row.
-/

import SmartMeal.Screens

namespace SmartMeal.BookmarkFlags

open PartialStep ObjectHeap Screens

def homeRefs (screens : Screens) : List Ref :=
  screens.tableViewCellModels.flatMap TableCellViewModel.collecionViewCellModels

def AllAgree (refs : List Ref) (screens : Screens) : Prop :=
  ∀ ref ∈ refs, ∀ viewModel, screens.viewModels[ref]? = some viewModel →
    viewModel.Agrees screens.defaults

structure FlagsAgree (screens : Screens) : Prop where
  home : AllAgree (homeRefs screens) screens
  search : AllAgree screens.search.collectionCellViewModels screens
  favorites : AllAgree screens.favorites.collectionCellViewModels screens

def ChangesStatus (defaults : UserDefaults) : StoreChange → Recipe → Prop
  | .append added, recipe => isFavorite defaults recipe = false ∧ added.title = recipe.title
  | .remove removed, recipe =>
      isFavorite defaults recipe = true ∧
        ∀ stored ∈ getFavorites defaults, stored.title = recipe.title → stored.id = removed.id
  | .replace recipes, recipe =>
      isFavorite defaults recipe ≠ recipes.any fun loaded => loaded.title == recipe.title

/-- No recipe of a home row changes its status while its view model is neither held by
a table cell nor the tapped one. -/
def SparesUnheldRows (screens : Screens) (action : Action) : Prop :=
  ∀ change, screens.storeChange action = some change →
    ∀ ref ∈ homeRefs screens, ¬ Touches screens action ref →
      ∀ viewModel, screens.viewModels[ref]? = some viewModel →
        ¬ ChangesStatus screens.defaults change viewModel.recipe

private theorem changesStatus_iff (defaults : UserDefaults) (change : StoreChange)
    (recipe : Recipe) :
    ChangesStatus defaults change recipe ↔
      isFavorite (change.apply defaults) recipe ≠ isFavorite defaults recipe := by
  cases change with
  | append added =>
      have after := isFavorite_addToFavorites defaults added recipe
      unfold ChangesStatus StoreChange.apply
      cases before : isFavorite defaults recipe with
      | true => simp [after, before]
      | false => simp [after, before]
  | remove removed =>
      have after := isFavorite_removeFromFavorites defaults removed recipe
      have below : isFavorite (removeFromFavorites removed defaults).1 recipe = true →
          isFavorite defaults recipe = true := by
        intro remains
        obtain ⟨stored, member, same, _⟩ := after.mp remains
        exact (isFavorite_iff defaults recipe).mpr ⟨stored, member, same⟩
      unfold ChangesStatus StoreChange.apply
      constructor
      · rintro ⟨before, only⟩ same
        obtain ⟨stored, member, sameTitle, otherId⟩ := after.mp (same.trans before)
        exact otherId (only stored member sameTitle)
      · intro changed
        cases before : isFavorite defaults recipe with
        | false =>
            rw [before] at changed below
            exact absurd (below (Bool.not_eq_false _ ▸ changed)) Bool.false_ne_true
        | true =>
            refine ⟨before, fun stored member sameTitle => ?_⟩
            by_contra otherId
            rw [before] at changed
            exact changed (after.mpr ⟨stored, member, sameTitle, otherId⟩)
  | replace recipes =>
      have after : isFavorite (saveFavorites recipes defaults) recipe =
          recipes.any fun loaded => loaded.title == recipe.title := by
        unfold isFavorite
        rw [getFavorites_saveFavorites]
      unfold ChangesStatus StoreChange.apply
      rw [after]
      exact ne_comm

/-! ### One step -/

variable {text : TextSearch} {screens next : Screens} {action : Action}

private theorem allAgree_of_same {refs : List Ref} (taken : step text screens action = some next)
    (before : AllAgree refs screens) (same : next.defaults = screens.defaults) :
    AllAgree refs next := by
  intro ref member
  apply (refreshed_step taken).current_at
  rw [same]
  exact before ref member

theorem searchAgrees_step (before : AllAgree screens.search.collectionCellViewModels screens)
    (taken : step text screens action = some next) :
    AllAgree next.search.collectionCellViewModels next := by
  have refreshed := refreshed_step taken
  have kept := allAgree_of_same taken before
  cases action with
  | toggleFavorite ref =>
      obtain ⟨viewModel, found, rfl⟩ := step_toggleFavorite taken
      rw [toggleFavorite_eq found]
      intro other member
      refine Refreshed.current_at (refreshed_set _ ref _ ?_) (search_notified screens _ other member)
      rfl
  | synced answer =>
      rw [step_synced taken]
      exact search_notified screens _
  | searchLoaded recipes =>
      cases taken
      exact fun ref member => refreshed.current_of_fresh (length_le_of_mem_created member)
  | updateSearchController searchBarText =>
      cases taken
      obtain ⟨search, recipes, same⟩ := updateSearchController_eq text searchBarText screens
      rw [same] at refreshed ⊢
      exact fun ref member => refreshed.current_of_fresh (length_le_of_mem_created member)
  | configure reused atSection => cases reused <;> cases taken <;> exact kept rfl
  | _ => cases taken; exact kept rfl

theorem favoritesAgree_step
    (before : AllAgree screens.favorites.collectionCellViewModels screens)
    (taken : step text screens action = some next) :
    AllAgree next.favorites.collectionCellViewModels next := by
  have refreshed := refreshed_step taken
  have kept := allAgree_of_same taken before
  cases action with
  | toggleFavorite ref =>
      obtain ⟨viewModel, found, rfl⟩ := step_toggleFavorite taken
      rw [toggleFavorite_eq found]
      intro other member
      refine Refreshed.current_at (refreshed_set _ ref _ ?_) (favorites_notified screens _ other member)
      rfl
  | synced answer =>
      rw [step_synced taken]
      exact favorites_notified screens _
  | loadFavorites =>
      cases taken
      exact fun ref member => refreshed.current_of_fresh (length_le_of_mem_created member)
  | updateSearchController searchBarText =>
      cases taken
      obtain ⟨search, recipes, same⟩ := updateSearchController_eq text searchBarText screens
      rw [same] at kept ⊢
      exact kept rfl
  | configure reused atSection => cases reused <;> cases taken <;> exact kept rfl
  | _ => cases taken; exact kept rfl

private theorem homeAgrees_of_noChange (before : AllAgree (homeRefs screens) screens)
    (unchanged : screens.storeChange action = none)
    (taken : step text screens action = some next) : AllAgree (homeRefs next) next := by
  have same : next.defaults = screens.defaults := by
    rw [step_defaults taken]
    unfold changedDefaults
    rw [unchanged]
  have kept := allAgree_of_same taken before same
  cases action with
  | toggleFavorite ref =>
      obtain ⟨viewModel, found, _⟩ := step_toggleFavorite taken
      rw [storeChange, found] at unchanged
      cases unchanged
  | synced answer =>
      have rows := congrArg homeRefs (step_synced taken)
      exact rows ▸ kept
  | homeLoaded recipes =>
      have refreshed := refreshed_step taken
      cases taken
      intro ref member
      unfold homeRefs at member
      rw [List.flatMap_append] at member
      rcases List.mem_append.mp member with old | new
      · exact kept ref old
      · rw [List.flatMap_singleton] at new
        exact refreshed.current_of_fresh (length_le_of_mem_created new)
  | updateSearchController searchBarText =>
      cases taken
      obtain ⟨search, recipes, same⟩ := updateSearchController_eq text searchBarText screens
      rw [same] at kept ⊢
      exact kept
  | configure reused atSection => cases reused <;> cases taken <;> exact kept
  | _ => cases taken; exact kept

private theorem homeAgrees_iff_of_change {change : StoreChange}
    (before : AllAgree (homeRefs screens) screens)
    (changes : screens.storeChange action = some change)
    (taken : step text screens action = some next) :
    AllAgree (homeRefs next) next ↔ SparesUnheldRows screens action := by
  have refreshed := refreshed_step taken
  have stored : next.defaults = change.apply screens.defaults := by
    rw [step_defaults taken]
    unfold changedDefaults
    rw [changes]
  have rows : homeRefs next = homeRefs screens := by
    cases action with
    | toggleFavorite ref =>
        obtain ⟨viewModel, found, rfl⟩ := step_toggleFavorite taken
        rw [toggleFavorite_eq found]
        rfl
    | synced answer =>
        rw [step_synced taken]
        rfl
    | _ => cases changes
  unfold AllAgree
  rw [rows]
  constructor
  · intro after change' same ref member untouched viewModel found altered
    cases changes.symm.trans same
    have agreed : viewModel.Agrees screens.defaults := before ref member viewModel found
    have agrees : viewModel.Agrees next.defaults :=
      after ref member viewModel (refreshed.same ref viewModel found untouched)
    rw [stored] at agrees
    exact (changesStatus_iff _ _ _).mp altered (agrees.symm.trans agreed)
  · intro spares ref member viewModel found
    rcases refreshed.current_or_same ref viewModel found with agrees | ⟨foundBefore, untouched⟩
    · exact agrees
    · have agreed : viewModel.Agrees screens.defaults := before ref member viewModel foundBefore
      have spared := spares change changes ref member untouched viewModel foundBefore
      rw [changesStatus_iff, not_ne_iff, ← stored] at spared
      exact agreed.trans spared.symm

theorem flagsAgree_step (agree : FlagsAgree screens)
    (taken : step text screens action = some next) :
    FlagsAgree next ↔ SparesUnheldRows screens action := by
  have search := searchAgrees_step agree.search taken
  have favorites := favoritesAgree_step agree.favorites taken
  cases changes : screens.storeChange action with
  | none =>
      refine iff_of_true ⟨homeAgrees_of_noChange agree.home changes taken, search, favorites⟩ ?_
      intro change same
      rw [changes] at same
      cases same
  | some change =>
      rw [← homeAgrees_iff_of_change agree.home changes taken]
      constructor
      · exact FlagsAgree.home
      · intro home
        exact ⟨home, search, favorites⟩

/-! ### Whole runs -/

/-- From a launch with any stored list, the flags of all three screens agree throughout
exactly when every change of the store spares the rows that no table cell holds. -/
theorem flagsAgree_throughout_iff (text : TextSearch) (defaults : UserDefaults)
    (actions : List Action) :
    Throughout (step text) FlagsAgree (launch defaults) actions ↔
      EachStep (step text) SparesUnheldRows (launch defaults) actions := by
  refine throughout_iff_eachStep (fun _ => True) ?_ ?_
    (eachStep_of_forall (fun _ _ => trivial) _ actions) trivial ?_
  · intro _ _ _ _ _
    trivial
  · intro screens action next _ agree _ taken
    exact flagsAgree_step agree taken
  · constructor <;> intro ref impossible <;> cases impossible

/-- A recipe is in two rows of the home screen, the second of them off screen.  A tap
in the first row leaves the flag of the second one unset. -/
theorem not_flagsAgree_row_off_screen :
    ¬ ∀ (text : TextSearch) (defaults : UserDefaults) (actions : List Action),
      Throughout (step text) FlagsAgree (launch defaults) actions := by
  intro always
  have agree := (throughout_iff_prefixes _ _).mp
    (always ⟨id, fun _ _ => false⟩ ⟨none, none, none⟩
      [.homeLoaded [.titled 1 "Plov"], .homeLoaded [.titled 1 "Plov"], .configure none 0,
        .toggleFavorite 0])
    _ (List.prefix_refl _) _ rfl
  have second := agree.home 1 (by decide) ⟨.titled 1 "Plov", false⟩ rfl
  exact absurd second (by unfold CollectionCellViewModel.Agrees; decide)

end SmartMeal.BookmarkFlags
