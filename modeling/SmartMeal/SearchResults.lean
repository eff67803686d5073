/-
Whether the search screen shows the result of the query.

The query is not stored.  Fresh data are shown unfiltered, and a change of the
favorites shows what matched when the text was given, or everything when nothing did.
The screen is right throughout a run exactly when fresh data arrive without a query or
match it as a whole, and the favorites change without a query or under one whose
matches are still the same.
-/

import SmartMeal.Screens

namespace SmartMeal.SearchResults

open PartialStep ObjectHeap Screens

/-- The screens with the last text given, and the popular recipes of that moment. -/
structure Searching where
  screens : Screens
  lastText : Option String
  searched : List Recipe

namespace Searching

def launch (defaults : UserDefaults) : Searching :=
  { screens := .launch defaults, lastText := none, searched := [] }

def query (searching : Searching) : String := searching.lastText.getD ""

def popularRecipes (searching : Searching) : List Recipe := searching.screens.search.popularRecipes

def record (searching : Searching) (next : Screens) : Action → Searching
  | .updateSearchController searchBarText =>
      { screens := next
        lastText := searchBarText
        searched := searching.popularRecipes }
  | _ => { searching with screens := next }

end Searching

def step (text : TextSearch) : Transition Searching Action
  | searching, action =>
      (Screens.step text searching.screens action).map fun next => searching.record next action

variable (text : TextSearch)

def Matches (query : String) (recipe : Recipe) : Prop :=
  text.contains (text.lowercased recipe.title) (text.lowercased query) = true

def matching (query : String) (recipes : List Recipe) : List Recipe :=
  recipes.filter fun recipe => text.contains (text.lowercased recipe.title) (text.lowercased query)

def result (query : String) (recipes : List Recipe) : List Recipe :=
  if query = "" then recipes else matching text query recipes

def ShowsResult (searching : Searching) : Prop :=
  searching.screens.Shows searching.screens.search.collectionCellViewModels
    (result text searching.query searching.popularRecipes)

/-- Fresh data match the query as a whole.  When the favorites change, the recipes that
matched as the text was given are those that match now, or none did and all do now. -/
def KeepsResult (searching : Searching) : Action → Prop
  | .searchLoaded recipes =>
      searching.query ≠ "" → ∀ recipe ∈ recipes, Matches text searching.query recipe
  | .toggleFavorite _ | .synced _ =>
      searching.query ≠ "" →
        if matching text searching.query searching.searched = [] then
          ∀ recipe ∈ searching.popularRecipes, Matches text searching.query recipe
        else
          matching text searching.query searching.searched =
            matching text searching.query searching.popularRecipes
  | _ => True

/-! ### The filtered recipes -/

def Filtered (searching : Searching) : Prop :=
  searching.screens.search.filteredRecipes =
    if searching.query = "" then [] else matching text searching.query searching.searched

variable {text} {searching next : Searching}

private theorem matching_eq_self_iff (query : String) (recipes : List Recipe) :
    matching text query recipes = recipes ↔ ∀ recipe ∈ recipes, Matches text query recipe :=
  List.filter_eq_self

private theorem eq_result_iff_matches (query : String) (recipes : List Recipe) :
    recipes = result text query recipes ↔
      (query ≠ "" → ∀ recipe ∈ recipes, Matches text query recipe) := by
  unfold result
  by_cases empty : query = ""
  · rw [if_pos empty]
    exact iff_of_true rfl fun nonempty => absurd empty nonempty
  · rw [if_neg empty, ← matching_eq_self_iff, eq_comm]
    simp [empty]

private theorem updateSearchController_eq_result
    (lowercased_isEmpty : ∀ string, (text.lowercased string).isEmpty = string.isEmpty)
    (searchBarText : Option String) (screens : Screens) :
    screens.updateSearchController text searchBarText =
      updateCollectionViewModels (result text (searchBarText.getD "") screens.search.popularRecipes)
        { screens with
          search :=
            { screens.search with
              filteredRecipes :=
                if searchBarText.getD "" = "" then []
                else matching text (searchBarText.getD "") screens.search.popularRecipes } } := by
  unfold updateSearchController result
  cases searchBarText with
  | none => rfl
  | some string =>
      by_cases empty : string = ""
      · subst empty
        have lowered : (text.lowercased "").isEmpty = true := by
          rw [lowercased_isEmpty]
          rfl
        simp only [Option.map_some, Option.getD_some, lowered, if_true]
      · have lowered : (text.lowercased string).isEmpty = false := by
          rw [lowercased_isEmpty]
          simpa using empty
        simp only [Option.map_some, Option.getD_some, lowered, if_neg empty, Bool.false_eq_true,
          if_false]
        rfl

def currentRecipes (search : SearchViewModel) : List Recipe :=
  if search.filteredRecipes.isEmpty then search.popularRecipes else search.filteredRecipes

private theorem currentRecipes_eq_result_iff (filtered : Filtered text searching) :
    currentRecipes searching.screens.search =
        result text searching.query searching.popularRecipes ↔
      (searching.query ≠ "" →
        if matching text searching.query searching.searched = [] then
          ∀ recipe ∈ searching.popularRecipes, Matches text searching.query recipe
        else
          matching text searching.query searching.searched =
            matching text searching.query searching.popularRecipes) := by
  unfold currentRecipes
  rw [filtered]
  by_cases empty : searching.query = ""
  · rw [if_pos empty]
    refine iff_of_true ?_ fun nonempty => absurd empty nonempty
    exact (eq_result_iff_matches _ _).mpr fun nonempty => absurd empty nonempty
  · rw [if_neg empty]
    cases matched : matching text searching.query searching.searched with
    | nil => exact eq_result_iff_matches _ _
    | cons recipe rest =>
        unfold result
        rw [if_neg empty, if_neg (List.cons_ne_nil recipe rest)]
        simp [empty]

/-! ### One step -/

private theorem shows_of_created (screens : Screens) (recipes : List Recipe) :
    (updateCollectionViewModels recipes screens).Shows
      (updateCollectionViewModels recipes screens).search.collectionCellViewModels recipes :=
  reads_created screens recipes

theorem shows_notified (screens : Screens) (defaults : UserDefaults) :
    (screens.notified defaults).Shows (screens.notified defaults).search.collectionCellViewModels
      (currentRecipes screens.search) := by
  have created := reads_created { screens with defaults := defaults }.cellsUpdateFavorites
    (currentRecipes screens.search)
  exact created.kept (fieldKept_append _ _)

private theorem showsResult_iff {recipes : List Recipe}
    (shows : searching.screens.Shows searching.screens.search.collectionCellViewModels recipes) :
    ShowsResult text searching ↔
      recipes = result text searching.query searching.popularRecipes := by
  constructor
  · intro right
    exact shows.unique right
  · intro same
    unfold ShowsResult
    rw [← same]
    exact shows

private theorem filtered_step
    (lowercased_isEmpty : ∀ string, (text.lowercased string).isEmpty = string.isEmpty)
    {action : Action} (filtered : Filtered text searching)
    (taken : step text searching action = some next) : Filtered text next := by
  obtain ⟨screens, stepped, rfl⟩ := Option.map_eq_some_iff.mp taken
  cases action with
  | updateSearchController searchBarText =>
      cases stepped
      rw [updateSearchController_eq_result lowercased_isEmpty]
      rfl
  | toggleFavorite ref =>
      obtain ⟨viewModel, found, rfl⟩ := step_toggleFavorite stepped
      rw [toggleFavorite_eq found]
      exact filtered
  | synced answer =>
      rw [step_synced stepped]
      exact filtered
  | configure reused atSection => cases reused <;> cases stepped <;> exact filtered
  | _ => cases stepped; exact filtered

private theorem showsResult_step
    (lowercased_isEmpty : ∀ string, (text.lowercased string).isEmpty = string.isEmpty)
    {action : Action} (filtered : Filtered text searching) (shows : ShowsResult text searching)
    (taken : step text searching action = some next) :
    ShowsResult text next ↔ KeepsResult text searching action := by
  obtain ⟨screens, stepped, rfl⟩ := Option.map_eq_some_iff.mp taken
  have kept : screens.Shows searching.screens.search.collectionCellViewModels
      (result text searching.query searching.popularRecipes) :=
    shows.kept (fieldKept_step stepped)
  cases action with
  | updateSearchController searchBarText =>
      cases stepped
      rw [updateSearchController_eq_result lowercased_isEmpty]
      exact iff_of_true (shows_of_created _ _) trivial
  | searchLoaded recipes =>
      cases stepped
      rw [showsResult_iff (shows_of_created _ recipes)]
      exact eq_result_iff_matches searching.query recipes
  | toggleFavorite ref =>
      obtain ⟨viewModel, found, rfl⟩ := step_toggleFavorite stepped
      rw [toggleFavorite_eq found]
      have notified := (shows_notified searching.screens
        (searching.screens.changedDefaults (.toggleFavorite ref))).kept
          (fieldKept_toggled found _ (isFavorite (searching.screens.notified
            (searching.screens.changedDefaults (.toggleFavorite ref))).defaults viewModel.recipe))
      rw [showsResult_iff notified]
      exact currentRecipes_eq_result_iff filtered
  | synced answer =>
      rw [step_synced stepped, showsResult_iff (shows_notified searching.screens _)]
      exact currentRecipes_eq_result_iff filtered
  | configure reused atSection => cases reused <;> cases stepped <;> exact iff_of_true kept trivial
  | _ => cases stepped; exact iff_of_true kept trivial

/-! ### Whole runs -/

/-- From a launch with any stored list, the search screen shows the result of the last
text throughout exactly when every step keeps it. -/
theorem showsResult_throughout_iff (text : TextSearch)
    (lowercased_isEmpty : ∀ string, (text.lowercased string).isEmpty = string.isEmpty)
    (defaults : UserDefaults) (actions : List Action) :
    Throughout (step text) (ShowsResult text) (.launch defaults) actions ↔
      EachStep (step text) (KeepsResult text) (.launch defaults) actions := by
  refine throughout_iff_eachStep (Filtered text) ?_ ?_
    (eachStep_of_forall (fun _ _ => trivial) _ actions) rfl ?_
  · intro searching action next filtered taken
    exact filtered_step lowercased_isEmpty filtered taken
  · intro searching action next filtered shows _ taken
    exact showsResult_step lowercased_isEmpty filtered shows taken
  · exact List.Forall₂.nil

def plainText : TextSearch :=
  { lowercased := fun string => String.ofList (string.toList.map Char.toLower)
    contains := fun string part =>
      (List.range (string.length + 1)).any fun start =>
        part.toList.isPrefixOf (string.toList.drop start) }

private theorem plainText_isEmpty (string : String) :
    (plainText.lowercased string).isEmpty = string.isEmpty := by
  rw [Bool.eq_iff_iff, String.isEmpty_iff, String.isEmpty_iff, ← String.toList_eq_nil_iff,
    ← String.toList_eq_nil_iff]
  simp [plainText]

theorem showsResult_throughout_typed_search :
    Throughout (step plainText) (ShowsResult plainText) (.launch ⟨none, none, none⟩)
      [.searchLoaded [.titled 1 "Plov", .titled 2 "Laghman"],
        .updateSearchController (some "plov"), .synced none, .updateSearchController none] := by
  rw [showsResult_throughout_iff plainText plainText_isEmpty]
  refine (eachStep_cons rfl).mpr ⟨fun query => absurd rfl query, ?_⟩
  refine (eachStep_cons rfl).mpr ⟨trivial, ?_⟩
  refine (eachStep_cons rfl).mpr ⟨fun _ => ?_, ?_⟩
  · rw [if_neg (by decide)]
    rfl
  · exact (eachStep_cons rfl).mpr ⟨trivial, trivial⟩

/-- Data that arrive under a query are shown unfiltered. -/
theorem not_showsResult_late_data :
    ¬ ∀ (text : TextSearch),
      (∀ string, (text.lowercased string).isEmpty = string.isEmpty) →
        ∀ (defaults : UserDefaults) (actions : List Action),
          Throughout (step text) (ShowsResult text) (.launch defaults) actions := by
  intro always
  have shows := (throughout_iff_prefixes _ _).mp
    (always plainText plainText_isEmpty ⟨none, none, none⟩
      [.updateSearchController (some "soup"), .searchLoaded [.titled 1 "Plov"]])
    _ (List.prefix_refl _) _ rfl
  have counted := shows.length_eq
  exact absurd counted (by decide)

end SmartMeal.SearchResults
