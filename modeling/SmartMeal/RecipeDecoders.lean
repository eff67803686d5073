/-
The three decoders of a recipe.

`fetchRecipes`, `fetchRandomRecipes` and `syncFavorites` each write the same tolerant
decoder out: a field that is absent or of another type takes its default.  Only the
first reads the steps.  The completion of a fetch is kept as what it does to the
state of its caller, so that it can be seen to be called on every path.
-/

import SmartMeal.IngredientNotation
import SmartMeal.Library.Traversal

namespace SmartMeal

open Traversal

def Fields.dictionaries? (fields : Fields) (key : String) : Option (List Fields) :=
  (fields.lookup key).bind Json.asDictionaries

def ingredientTexts (recipe : Fields) : List String :=
  (Fields.strings? recipe "ingredients").getD []

/-- The decoder that all three have in common; absent when an ingredient traps. -/
def decodedRecipe (steps : Fields → List Step) (recipe : Fields) : Option Recipe := do
  let parsedIngredients ← (ingredientTexts recipe).mapM parseIngredient
  pure
    { id := (Fields.int? recipe "id").getD 0
      title := (Fields.string? recipe "name").getD ""
      calories := (Fields.int? recipe "calories").getD 0
      time := (Fields.string? recipe "cooking_time").getD "0"
      description := (Fields.string? recipe "description").getD ""
      imageUrl := Fields.string? recipe "img_url"
      ingridients := parsedIngredients
      dishType := (Fields.string? recipe "dish_type").getD ""
      cuisine := (Fields.string? recipe "cuisine").getD ""
      steps := steps recipe }

def fetchedStep (step : Fields) : Step :=
  { text := (Fields.string? step "text").getD ""
    imageURL := (Fields.string? step "image").getD ""
    stepNumber := (Fields.string? step "step_number").getD "" }

def fetchedSteps (recipe : Fields) : List Step :=
  match Fields.dictionaries? recipe "steps" with
  | some jsonSteps => jsonSteps.map fetchedStep
  | none => []

/-- One element of `results` in `fetchRecipes`. -/
def fetchedRecipe : Fields → Option Recipe := decodedRecipe fetchedSteps

/-- One element of the array in `fetchRandomRecipes`. -/
def randomRecipe : Fields → Option Recipe := decodedRecipe fun _ => []

/-! ### The answers -/

/-- The list that `fetchRecipes` completes with; absent when an ingredient traps. -/
def decodeRecipes (body : Data) : Option (List Recipe) :=
  match (Json.jsonObject body).bind Json.asDictionary with
  | none => some []
  | some json =>
      match Fields.dictionaries? json "results" with
      | some results => results.mapM fetchedRecipe
      | none => some []

def bodyDictionaries (body : Data) : Option (List Fields) :=
  (Json.jsonObject body).bind Json.asDictionaries

def decodeRandomRecipes (body : Data) : Option (List Recipe) :=
  match bodyDictionaries body with
  | none => some []
  | some json => json.mapM randomRecipe

section

variable {Caller : Type} (completion : List Recipe → Caller → Caller)

/-- The closure of the data task in `fetchRecipes`. -/
def fetchRecipesAnswered (result : TaskResult) (caller : Caller) : Option Caller :=
  match result.error, result.data with
  | some _, _ => some (completion [] caller)
  | none, none => some (completion [] caller)
  | none, some data =>
      (decodeRecipes data).map fun loadedRecipes => completion loadedRecipes caller

/-- The closure of the data task in `fetchRandomRecipes`. -/
def fetchRandomRecipesAnswered (result : TaskResult) (caller : Caller) : Option Caller :=
  match result.error, result.data with
  | some _, _ => some (completion [] caller)
  | none, none => some (completion [] caller)
  | none, some data =>
      (decodeRandomRecipes data).map fun loadedRecipes => completion loadedRecipes caller

end

/-! ### Which elements decode -/

private theorem syncedRecipe_eq (recipe : Fields) : syncedRecipe recipe = randomRecipe recipe := rfl

theorem decodeSaved_of_none {body : Data} (unreadable : bodyDictionaries body = none) :
    decodeSaved body = .failed := by
  unfold bodyDictionaries at unreadable
  unfold decodeSaved
  cases parsed : Json.jsonObject body with
  | none => rfl
  | some json =>
      rw [parsed, Option.bind_some] at unreadable
      simp only [unreadable]

theorem decodeSaved_of_some {body : Data} {elements : List Fields}
    (readable : bodyDictionaries body = some elements) :
    decodeSaved body = ((elements.mapM syncedRecipe).map SyncBody.loaded).getD .trapped := by
  obtain ⟨json, parsed, cast⟩ := Option.bind_eq_some_iff.mp readable
  simp only [decodeSaved, parsed, cast]
  cases elements.mapM syncedRecipe <;> rfl

theorem decodedRecipe_eq_none_iff (steps : Fields → List Step) (recipe : Fields) :
    decodedRecipe steps recipe = none ↔
      ∃ text ∈ ingredientTexts recipe, parseIngredient text = none := by
  rw [← mapM_eq_none_iff]
  unfold decodedRecipe
  cases (ingredientTexts recipe).mapM parseIngredient with
  | none => exact iff_of_true rfl rfl
  | some ingredients => exact iff_of_false (Option.some_ne_none _) (Option.some_ne_none _)

theorem imageUrl_of_decodedRecipe {steps : Fields → List Step} {fields : Fields}
    {recipe : Recipe} (decoded : decodedRecipe steps fields = some recipe) :
    recipe.imageUrl = Fields.string? fields "img_url" := by
  obtain ⟨ingredients, _, same⟩ := Option.bind_eq_some_iff.mp decoded
  cases same
  rfl

private theorem decodedRecipe_eq_iff {first second : Fields → List Step} {recipe : Fields}
    (decodes : ∀ text ∈ ingredientTexts recipe, parseIngredient text ≠ none) :
    decodedRecipe first recipe = decodedRecipe second recipe ↔ first recipe = second recipe := by
  cases parsed : (ingredientTexts recipe).mapM parseIngredient with
  | none =>
      obtain ⟨text, member, trapped⟩ := mapM_eq_none_iff.mp parsed
      exact absurd trapped (decodes text member)
  | some ingredients =>
      unfold decodedRecipe
      rw [parsed]
      constructor
      · intro same
        exact congrArg Recipe.steps (Option.some.inj same)
      · intro same
        rw [same]

theorem fetchedSteps_eq_nil_iff (recipe : Fields) :
    fetchedSteps recipe = [] ↔
      ∀ steps, Fields.dictionaries? recipe "steps" = some steps → steps = [] := by
  unfold fetchedSteps
  cases Fields.dictionaries? recipe "steps" with
  | none => simp
  | some steps => simp

/-! ### Agreement -/

/-- Where no ingredient traps, the synced copy and the random copy of a recipe are the
fetched one exactly when the recipe has no steps that could be read. -/
theorem syncedRecipe_eq_fetchedRecipe_iff (recipe : Fields)
    (decodes : ∀ text ∈ ingredientTexts recipe, parseIngredient text ≠ none) :
    (syncedRecipe recipe = fetchedRecipe recipe ∧ randomRecipe recipe = fetchedRecipe recipe) ↔
      ∀ steps, Fields.dictionaries? recipe "steps" = some steps → steps = [] := by
  rw [syncedRecipe_eq, and_self, ← fetchedSteps_eq_nil_iff]
  unfold randomRecipe fetchedRecipe
  rw [decodedRecipe_eq_iff decodes]
  exact eq_comm

def plovWithStep : Fields :=
  [("id", .number 1), ("name", .string "Plov"), ("ingredients", .array [.string "Rice(1 kg)"]),
    ("steps", .array [.object [("text", .string "Boil the rice"), ("step_number", .string "1")]])]

theorem syncedRecipe_eq_fetchedRecipe_plov :
    (syncedRecipe plovWithStep = fetchedRecipe plovWithStep ∧
        randomRecipe plovWithStep = fetchedRecipe plovWithStep) ↔
      ∀ steps, Fields.dictionaries? plovWithStep "steps" = some steps → steps = [] :=
  syncedRecipe_eq_fetchedRecipe_iff plovWithStep (by decide)

/-- The synced copy of a recipe with a step has no step. -/
theorem not_syncedRecipe_eq_fetchedRecipe_plov :
    ¬ ∀ recipe : Fields,
      (∀ text ∈ ingredientTexts recipe, parseIngredient text ≠ none) →
        syncedRecipe recipe = fetchedRecipe recipe ∧ randomRecipe recipe = fetchedRecipe recipe := by
  intro always
  have agree : decodedRecipe (fun _ => []) plovWithStep =
      decodedRecipe fetchedSteps plovWithStep := (always plovWithStep (by decide)).1
  rw [decodedRecipe_eq_iff (by decide)] at agree
  exact absurd agree (by decide)

end SmartMeal
