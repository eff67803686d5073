/-
The saved list of the server, as the app edits it and reads it.

A write names one id, and the list is answered with one dictionary for each id.
The other fields of a dictionary are the server's own and stay arbitrary; an
ingredient among them can still trap the decoder, but a list that is loaded has
the ids of the server.
-/

import SmartMeal.Client
import SmartMeal.Library.Edits

namespace SmartMeal

open KeyedEdits

/-! ### Writes -/

def editOf : FavoriteTask → Edit Int64
  | .saveFavorite recipe => .insert recipe.id
  | .removeFavorite recipe => .erase recipe.id

def sentRecipeId (request : URLRequest) : Option Int64 :=
  (((request.httpBody.bind Json.jsonObject).bind Json.asDictionary).bind
    fun fields => fields.lookup "recipe_id").bind Json.asInt

/-- What the server does with a write it accepts: a POST inserts the id into the
saved list, and a DELETE removes it. -/
def savedRecipesEdit (request : URLRequest) : Option (Edit Int64) :=
  if request.url = savedRecipesURL ∧ request.httpMethod = "POST" then
    (sentRecipeId request).map Edit.insert
  else if request.url = savedRecipesURL ∧ request.httpMethod = "DELETE" then
    (sentRecipeId request).map Edit.erase
  else none

theorem savedRecipesEdit_authorizedRequest (token : String) (write : Write) :
    savedRecipesEdit (authorizedRequest token write.call) = some (editOf write.task) := by
  have named : sentRecipeId (authorizedRequest token write.call) = some write.task.recipe.id :=
    Codable.decodeInt_encodeInt write.task.recipe.id
  unfold savedRecipesEdit
  rw [named]
  cases hTask : write.task with
  | saveFavorite recipe =>
      rw [if_pos ⟨rfl, by simp [authorizedRequest, Write.call, hTask, FavoriteTask.method]⟩]
      rfl
  | removeFavorite recipe =>
      have removes : (authorizedRequest token write.call).httpMethod = "DELETE" := by
        simp [authorizedRequest, Write.call, hTask, FavoriteTask.method]
      have notPost : (authorizedRequest token write.call).httpMethod ≠ "POST" := by
        rw [removes]
        decide
      rw [if_neg fun both => notPost both.2, if_pos ⟨rfl, removes⟩]
      rfl

def editSaved (saved : List Int64) : Edit Int64 → List Int64
  | .insert id => if id ∈ saved then saved else saved ++ [id]
  | .erase id => saved.filter fun other => other != id

/-! ### The answer to a GET -/

/-- The dictionary of a saved recipe; the catalogue supplies its other fields. -/
def savedFields (catalogue : Int64 → Fields) (id : Int64) : Fields :=
  ("id", Codable.encodeInt id) :: catalogue id

def savedBody (catalogue : Int64 → Fields) (saved : List Int64) : Data :=
  ⟨some (.array (saved.map fun id => .object (savedFields catalogue id)))⟩

private theorem id_of_syncedRecipe {catalogue : Int64 → Fields} {id : Int64} {recipe : Recipe}
    (synced : syncedRecipe (savedFields catalogue id) = some recipe) : recipe.id = id := by
  unfold syncedRecipe at synced
  obtain ⟨ingredients, _, rest⟩ := Option.bind_eq_some_iff.mp synced
  cases rest
  change (((savedFields catalogue id).lookup "id").bind Json.asInt).getD 0 = id
  have found : (savedFields catalogue id).lookup "id" = some (Codable.encodeInt id) := rfl
  have decoded : Json.asInt (Codable.encodeInt id) = some id := Json.exactInt_toInt id
  rw [found, Option.bind_some, decoded]
  rfl

private theorem asDictionaries_savedBody (catalogue : Int64 → Fields) (saved : List Int64) :
    (saved.map fun id => Json.object (savedFields catalogue id)).mapM Json.asDictionary =
      some (saved.map (savedFields catalogue)) := by
  have decodes : ∀ id, Json.asDictionary (.object (savedFields catalogue id)) =
      some (savedFields catalogue id) := fun _ => rfl
  exact Traversal.mapM_map decodes saved

private theorem ids_of_syncedRecipes {catalogue : Int64 → Fields} {saved : List Int64}
    {recipes : List Recipe}
    (synced : (saved.map (savedFields catalogue)).mapM syncedRecipe = some recipes) :
    recipes.map Recipe.id = saved := by
  have each := List.forall₂_map_left_iff.mp (Traversal.mapM_eq_some_iff.mp synced)
  clear synced
  induction each with
  | nil => rfl
  | cons firstSynced _ ih => rw [List.map_cons, id_of_syncedRecipe firstSynced, ih]

private theorem decodeSaved_savedBody (catalogue : Int64 → Fields) (saved : List Int64) :
    decodeSaved (savedBody catalogue saved) = .trapped ∨
      ∃ recipes, decodeSaved (savedBody catalogue saved) = .loaded recipes ∧
        recipes.map Recipe.id = saved := by
  have parsed : Json.jsonObject (savedBody catalogue saved) =
      some (.array (saved.map fun id => .object (savedFields catalogue id))) := rfl
  have elements := asDictionaries_savedBody catalogue saved
  cases synced : (saved.map (savedFields catalogue)).mapM syncedRecipe with
  | none =>
      left
      simp only [decodeSaved, parsed, Json.asDictionaries, elements, synced]
  | some recipes =>
      right
      refine ⟨recipes, ?_, ids_of_syncedRecipes synced⟩
      simp only [decodeSaved, parsed, Json.asDictionaries, elements, synced]

theorem favoriteIds_of_savedBody {catalogue : Int64 → Fields} {saved : List Int64}
    {defaults next : UserDefaults}
    (handled : syncFavoritesAnswered (some (savedBody catalogue saved)) defaults = some next) :
    favoriteIds next = saved := by
  rcases decodeSaved_savedBody catalogue saved with trapped | ⟨recipes, loaded, ids⟩
  · simp only [syncFavoritesAnswered, trapped] at handled
    cases handled
  · simp only [syncFavoritesAnswered, loaded] at handled
    cases handled
    unfold favoriteIds
    rw [getFavorites_saveFavorites, ids]

end SmartMeal
