/-
Force-unwraps between a payload and the screen.

The decoders unwrap the pieces of every ingredient, and the cell and the detail
screen unwrap the address of the image, which the decoders leave optional.  A payload
reaches the screen exactly when each of its recipes has an image address, and no
ingredient that is empty or consists of opening parentheses.
-/

import SmartMeal.RecipeDecoders
import SmartMeal.Screens

namespace SmartMeal

open Traversal

/-! ### The unwrap sites of a decoded recipe -/

namespace CollectionCellViewModel

def name (viewModel : CollectionCellViewModel) : String := viewModel.recipe.title

def calories (viewModel : CollectionCellViewModel) : Int64 := viewModel.recipe.calories

def time (viewModel : CollectionCellViewModel) : String := viewModel.recipe.time

/-- `recipe.imageUrl!`; absent when it traps. -/
def imageUrl (viewModel : CollectionCellViewModel) : Option String := viewModel.recipe.imageUrl

end CollectionCellViewModel

structure RecipeCellContent where
  nameLabel : String
  caloriesTimeLabel : String
  imageAddress : String
  favoriteButton : String

/-- `RecipeCell.configure(with:)`. -/
def RecipeCellContent.configure (viewModel : CollectionCellViewModel) :
    Option RecipeCellContent := do
  let imageAddress ← viewModel.imageUrl
  pure
    { nameLabel := viewModel.name
      caloriesTimeLabel := toString viewModel.calories.toInt ++ " ккал | " ++ viewModel.time
      imageAddress := imageAddress
      favoriteButton := if viewModel.isFavorite then "bookmark.fill" else "bookmark" }

structure DetailContent where
  nameLabel : String
  recipeDescription : String
  imageAddress : String

/-- `DetailViewController.updateUI`, which unwraps the address as well. -/
def DetailContent.updateUI (recipe : Recipe) : Option DetailContent := do
  let imageAddress ← recipe.imageUrl
  pure
    { nameLabel := recipe.title
      recipeDescription := recipe.description
      imageAddress := imageAddress }

namespace PayloadSafety

/-- The cell of the recipe can be displayed, and its detail screen opened. -/
def Shows (recipe : Recipe) : Prop :=
  (∀ defaults,
    (RecipeCellContent.configure (CollectionCellViewModel.init defaults recipe)).isSome) ∧
  (DetailContent.updateUI recipe).isSome

def RecipesReachScreen (body : Data) : Prop :=
  ∃ recipes, decodeRecipes body = some recipes ∧ ∀ recipe ∈ recipes, Shows recipe

def SavedReachesScreen (body : Data) : Prop :=
  decodeSaved body ≠ .trapped ∧
    ∀ recipes, decodeSaved body = .loaded recipes → ∀ recipe ∈ recipes, Shows recipe

/-! ### The payloads -/

def resultElements (body : Data) : List Fields :=
  (((Json.jsonObject body).bind Json.asDictionary).bind
    fun json => Fields.dictionaries? json "results").getD []

def savedElements (body : Data) : List Fields := (bodyDictionaries body).getD []

/-- An image address is there, and every ingredient has a character other than `(`. -/
def Unwraps (element : Fields) : Prop :=
  (∀ text ∈ ingredientTexts element, ∃ character ∈ text.toList, character ≠ '(') ∧
    (Fields.string? element "img_url").isSome

theorem decodeRecipes_eq (body : Data) :
    decodeRecipes body = (resultElements body).mapM fetchedRecipe := by
  unfold decodeRecipes resultElements
  cases (Json.jsonObject body).bind Json.asDictionary with
  | none => rfl
  | some json =>
      simp only [Option.bind_some]
      cases Fields.dictionaries? json "results" <;> rfl

theorem shows_iff (recipe : Recipe) : Shows recipe ↔ recipe.imageUrl.isSome := by
  unfold Shows RecipeCellContent.configure DetailContent.updateUI
  change (∀ defaults, (recipe.imageUrl.bind _).isSome) ∧ (recipe.imageUrl.bind _).isSome ↔ _
  cases recipe.imageUrl with
  | none => simp
  | some imageAddress => simp

theorem not_trapped_iff (element : Fields) :
    (¬ ∃ text ∈ ingredientTexts element, parseIngredient text = none) ↔
      ∀ text ∈ ingredientTexts element, ∃ character ∈ text.toList, character ≠ '(' := by
  simp only [IngredientNotation.parseIngredient_eq_none_iff, not_exists, not_and, not_forall,
    exists_prop, ne_eq]

/-- Elements decode to recipes that can be shown exactly when each of them unwraps. -/
theorem decoded_show_iff (steps : Fields → List Step) (elements : List Fields) :
    (∃ recipes, elements.mapM (decodedRecipe steps) = some recipes ∧
        ∀ recipe ∈ recipes, Shows recipe) ↔ ∀ element ∈ elements, Unwraps element := by
  constructor
  · rintro ⟨recipes, loaded, shown⟩ element member
    cases decoded : decodedRecipe steps element with
    | none =>
        rw [mapM_eq_none_iff.mpr ⟨element, member, decoded⟩] at loaded
        cases loaded
    | some recipe =>
        have untrapped : decodedRecipe steps element ≠ none := by
          rw [decoded]
          exact Option.some_ne_none recipe
        rw [Ne, decodedRecipe_eq_none_iff, not_trapped_iff] at untrapped
        have shows := (forall_mem_iff loaded Shows).mp shown element member recipe decoded
        rw [shows_iff, imageUrl_of_decodedRecipe decoded] at shows
        exact ⟨untrapped, shows⟩
  · intro unwraps
    cases loaded : elements.mapM (decodedRecipe steps) with
    | none =>
        obtain ⟨element, member, trapped⟩ := mapM_eq_none_iff.mp loaded
        rw [decodedRecipe_eq_none_iff] at trapped
        exact absurd trapped ((not_trapped_iff element).mpr (unwraps element member).1)
    | some recipes =>
        refine ⟨recipes, rfl, (forall_mem_iff loaded Shows).mpr ?_⟩
        intro element member recipe decoded
        rw [shows_iff, imageUrl_of_decodedRecipe decoded]
        exact (unwraps element member).2

private theorem savedReachesScreen_iff_decoded (body : Data) :
    SavedReachesScreen body ↔
      ∃ recipes, (savedElements body).mapM syncedRecipe = some recipes ∧
        ∀ recipe ∈ recipes, Shows recipe := by
  unfold SavedReachesScreen savedElements
  cases readable : bodyDictionaries body with
  | none =>
      rw [decodeSaved_of_none readable]
      simp
  | some elements =>
      rw [decodeSaved_of_some readable, Option.getD_some]
      cases elements.mapM syncedRecipe with
      | none => simp
      | some recipes => simp

/-- A body of either response reaches the screen exactly when every element it brings
has an image address and ingredients that can be parsed. -/
theorem reachesScreen_iff (body : Data) :
    (RecipesReachScreen body ↔ ∀ element ∈ resultElements body, Unwraps element) ∧
      (SavedReachesScreen body ↔ ∀ element ∈ savedElements body, Unwraps element) := by
  constructor
  · unfold RecipesReachScreen
    rw [decodeRecipes_eq]
    exact decoded_show_iff fetchedSteps (resultElements body)
  · rw [savedReachesScreen_iff_decoded]
    exact decoded_show_iff (fun _ => []) (savedElements body)

/-- A recipe without an image address decodes, and its cell traps. -/
theorem not_reachesScreen_without_image :
    ¬ ∀ body : Data, RecipesReachScreen body ∧ SavedReachesScreen body := by
  intro always
  obtain ⟨recipes, decoded, shown⟩ :=
    (always ⟨some (.object [("results", .array [.object [("name", .string "Plov")]])])⟩).1
  cases decoded
  have shows := shown (.titled 0 "Plov") List.mem_cons_self
  rw [shows_iff] at shows
  cases shows

end PayloadSafety

end SmartMeal
