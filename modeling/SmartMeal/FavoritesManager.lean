/-
The favorites store: the stored list, its two edits, and the synchronization
that replaces it by the list of the server.

The list lives under one key as encoded recipes.  Reading maps every failure to
the empty list.  An edit saves the new list, spawns the task that tells the
server, and then notifies the screens; these effects are returned in the order
in which the source performs them.
-/

import SmartMeal.Network
import SmartMeal.Recipe
import SmartMeal.Library.Graphemes

namespace SmartMeal

open Codable

/-! ### Reading and writing the list -/

def getFavorites (defaults : UserDefaults) : List Recipe :=
  match defaults.favoriteRecipes with
  | none => []
  | some data => ((data.json.bind (decodeList Recipe.decode))).getD []

def saveFavorites (recipes : List Recipe) (defaults : UserDefaults) : UserDefaults :=
  { defaults with favoriteRecipes := some ⟨some (encodeList Recipe.encode recipes)⟩ }

/-- Membership is decided by title. -/
def isFavorite (defaults : UserDefaults) (recipe : Recipe) : Bool :=
  (getFavorites defaults).any fun stored => stored.title == recipe.title

@[simp]
theorem getFavorites_saveFavorites (recipes : List Recipe) (defaults : UserDefaults) :
    getFavorites (saveFavorites recipes defaults) = recipes := by
  have back := decodeList_encodeList Recipe.decode_encode recipes
  simp [getFavorites, saveFavorites, back]

theorem isFavorite_iff (defaults : UserDefaults) (recipe : Recipe) :
    isFavorite defaults recipe = true ↔
      ∃ stored ∈ getFavorites defaults, stored.title = recipe.title := by
  simp [isFavorite]

theorem isFavorite_of_mem {defaults : UserDefaults} {recipe : Recipe}
    (member : recipe ∈ getFavorites defaults) : isFavorite defaults recipe = true :=
  (isFavorite_iff defaults recipe).mpr ⟨recipe, member, rfl⟩

/-! ### The edits of the user -/

inductive FavoriteTask where
  | saveFavorite (recipe : Recipe)
  | removeFavorite (recipe : Recipe)

inductive FavoritesEffect where
  | task (spawned : FavoriteTask)
  | favoritesUpdated
  | onFavoritesUpdated

def addToFavorites (recipe : Recipe) (defaults : UserDefaults) :
    UserDefaults × List FavoritesEffect :=
  (saveFavorites (getFavorites defaults ++ [recipe]) defaults,
    [.task (.saveFavorite recipe), .favoritesUpdated, .onFavoritesUpdated])

def removeFromFavorites (recipe : Recipe) (defaults : UserDefaults) :
    UserDefaults × List FavoritesEffect :=
  (saveFavorites ((getFavorites defaults).filter fun stored => stored.id != recipe.id) defaults,
    [.task (.removeFavorite recipe), .favoritesUpdated, .onFavoritesUpdated])

@[simp]
theorem getFavorites_addToFavorites (recipe : Recipe) (defaults : UserDefaults) :
    getFavorites (addToFavorites recipe defaults).1 = getFavorites defaults ++ [recipe] :=
  getFavorites_saveFavorites _ _

@[simp]
theorem getFavorites_removeFromFavorites (recipe : Recipe) (defaults : UserDefaults) :
    getFavorites (removeFromFavorites recipe defaults).1 =
      (getFavorites defaults).filter fun stored => stored.id != recipe.id :=
  getFavorites_saveFavorites _ _

theorem isFavorite_addToFavorites (defaults : UserDefaults) (added recipe : Recipe) :
    isFavorite (addToFavorites added defaults).1 recipe = true ↔
      isFavorite defaults recipe = true ∨ added.title = recipe.title := by
  rw [isFavorite_iff, isFavorite_iff, getFavorites_addToFavorites]
  constructor
  · rintro ⟨stored, member, same⟩
    rcases List.mem_append.mp member with earlier | here
    · exact Or.inl ⟨stored, earlier, same⟩
    · rw [List.mem_singleton.mp here] at same
      exact Or.inr same
  · rintro (⟨stored, member, same⟩ | same)
    · exact ⟨stored, List.mem_append_left _ member, same⟩
    · exact ⟨added, List.mem_append_right _ (List.mem_singleton.mpr rfl), same⟩

theorem isFavorite_removeFromFavorites (defaults : UserDefaults) (removed recipe : Recipe) :
    isFavorite (removeFromFavorites removed defaults).1 recipe = true ↔
      ∃ stored ∈ getFavorites defaults, stored.title = recipe.title ∧ stored.id ≠ removed.id := by
  rw [isFavorite_iff, getFavorites_removeFromFavorites]
  constructor
  · rintro ⟨stored, member, same⟩
    obtain ⟨present, other⟩ := List.mem_filter.mp member
    exact ⟨stored, present, same, bne_iff_ne.mp other⟩
  · rintro ⟨stored, present, same, other⟩
    exact ⟨stored, List.mem_filter.mpr ⟨present, bne_iff_ne.mpr other⟩, same⟩

def favoriteIds (defaults : UserDefaults) : List Int64 := (getFavorites defaults).map Recipe.id

theorem mem_favoriteIds_add (recipe : Recipe) (defaults : UserDefaults) (id : Int64) :
    id ∈ favoriteIds (addToFavorites recipe defaults).1 ↔
      id = recipe.id ∨ id ∈ favoriteIds defaults := by
  unfold favoriteIds
  rw [getFavorites_addToFavorites, List.map_append, List.mem_append, List.map_singleton,
    List.mem_singleton]
  exact or_comm

theorem mem_favoriteIds_remove (recipe : Recipe) (defaults : UserDefaults) (id : Int64) :
    id ∈ favoriteIds (removeFromFavorites recipe defaults).1 ↔
      id ≠ recipe.id ∧ id ∈ favoriteIds defaults := by
  unfold favoriteIds
  rw [getFavorites_removeFromFavorites, List.mem_map, List.mem_map]
  constructor
  · rintro ⟨stored, kept, same⟩
    obtain ⟨member, other⟩ := List.mem_filter.mp kept
    have different : stored.id ≠ recipe.id := by simpa using other
    exact ⟨same ▸ different, stored, member, same⟩
  · rintro ⟨different, stored, member, same⟩
    refine ⟨stored, List.mem_filter.mpr ⟨member, ?_⟩, same⟩
    rw [← same] at different
    simpa using different

/-! ### Synchronization -/

/-- The characters of a text, each with its scalars, where `joins` says which scalars a
character takes up. -/
def characters (joins : List Char → Char → Bool) (text : String) : List (List Char) :=
  Clusters.clusters joins text.toList

/-- `APIService.parseIngredient`.  Both names are unwrapped by force, so a text
without a piece between its opening parentheses traps. -/
def parseIngredientBy (joins : List Char → Char → Bool) (text : String) : Option Ingredient :=
  let parts := ((characters joins text).splitOn ['(']).filter fun part => !part.isEmpty
  match parts.head?, parts.getLast? with
  | some name, some amount =>
      some ⟨String.ofList name.flatten, String.ofList amount.dropLast.flatten⟩
  | _, _ => none

/-- The parser with the characters of Unicode 15.0. -/
def parseIngredient (text : String) : Option Ingredient := parseIngredientBy Graphemes.joins text

namespace Fields

def string? (fields : Fields) (key : String) : Option String :=
  (fields.lookup key).bind Json.asString

def int? (fields : Fields) (key : String) : Option Int64 :=
  (fields.lookup key).bind Json.asInt

def strings? (fields : Fields) (key : String) : Option (List String) :=
  (fields.lookup key).bind Json.asStrings

end Fields

/-- One element of the saved list.  Every field has a default; the steps are
dropped.  Absent when an ingredient traps. -/
def syncedRecipe (recipe : Fields) : Option Recipe := do
  let parsedIngredients ← ((Fields.strings? recipe "ingredients").getD []).mapM parseIngredient
  pure
    { id := (Fields.int? recipe "id").getD 0
      title := (Fields.string? recipe "name").getD ""
      calories := (Fields.int? recipe "calories").getD 0
      time := (Fields.string? recipe "cooking_time").getD "0"
      description := (Fields.string? recipe "description").getD ""
      imageUrl := Fields.string? recipe "img_url"
      ingridients := parsedIngredients
      dishType := (Fields.string? recipe "dish_type").getD ""
      cuisine := (Fields.string? recipe "cuisine").getD ""
      steps := [] }

inductive SyncBody where
  | failed
  | trapped
  | loaded (recipes : List Recipe)

def decodeSaved (body : Data) : SyncBody :=
  match Json.jsonObject body with
  | none => .failed
  | some json =>
      match json.asDictionaries with
      | none => .failed
      | some elements =>
          match elements.mapM syncedRecipe with
          | none => .trapped
          | some recipes => .loaded recipes

def savedRecipesURL : String := "https://api.smartmeal.kz/v1/auth/saved-recipes/"

/-- The first half of `syncFavorites`, up to its suspension: no token, no request. -/
def syncFavoritesRequest (defaults : UserDefaults) : Option URLRequest :=
  defaults.authToken.map fun token =>
    { url := savedRecipesURL, httpMethod := "GET", bearer := some token, contentType := none,
      httpBody := none }

/-- The second half of `syncFavorites`.  The answer is a thrown error or a body,
whatever its status; the result is absent when decoding traps. -/
def syncFavoritesAnswered (answer : Option Data) (defaults : UserDefaults) :
    Option UserDefaults :=
  match answer with
  | none => some defaults
  | some body =>
      match decodeSaved body with
      | .failed => some defaults
      | .trapped => none
      | .loaded recipes => some (saveFavorites recipes defaults)

end SmartMeal
