/-
What one ill-typed element of an array costs.

The fields of a recipe are defaulted one by one, but the three arrays of a payload, its
results, the ingredients of a recipe and its steps, are each cast as a whole.  One
element of another type therefore empties the array it stands in, and it does not
reach any further: the other recipes of the payload, and the other fields of the
recipe, are delivered as before.
-/

import SmartMeal.PayloadSafety

namespace SmartMeal

open Traversal

/-! ### Dictionaries with one value replaced -/

namespace Fields

def replacing (key : String) (value : Json) (fields : Fields) : Fields :=
  (key, value) :: fields.filter fun field => field.1 != key

variable {fields : Fields} {key other : String} {value : Json}

private theorem lookup_replacing_self : (replacing key value fields).lookup key = some value := by
  unfold replacing
  rw [List.lookup_cons, beq_self_eq_true]

private theorem lookup_filter (different : other ≠ key) :
    (fields.filter fun field => field.1 != key).lookup other = fields.lookup other := by
  induction fields with
  | nil => rfl
  | cons field rest ih =>
      obtain ⟨name, content⟩ := field
      by_cases same : name = key
      · have dropped : ((name, content).1 != key) = false := by simp [same]
        have unequal : (other == name) = false := by simp [same, different]
        rw [List.filter_cons, dropped, List.lookup_cons, unequal]
        exact ih
      · have kept : ((name, content).1 != key) = true := by simp [same]
        rw [List.filter_cons, kept, if_pos rfl, List.lookup_cons, List.lookup_cons, ih]

private theorem lookup_replacing_of_ne (different : other ≠ key) :
    (replacing key value fields).lookup other = fields.lookup other := by
  have unequal : (other == key) = false := by simp [different]
  unfold replacing
  rw [List.lookup_cons, unequal]
  exact lookup_filter different

private theorem string?_replacing_of_ne (different : other ≠ key) :
    string? (replacing key value fields) other = string? fields other :=
  congrArg (Option.bind · Json.asString) (lookup_replacing_of_ne different)

private theorem int?_replacing_of_ne (different : other ≠ key) :
    int? (replacing key value fields) other = int? fields other :=
  congrArg (Option.bind · Json.asInt) (lookup_replacing_of_ne different)

private theorem strings?_replacing_of_ne (different : other ≠ key) :
    strings? (replacing key value fields) other = strings? fields other :=
  congrArg (Option.bind · Json.asStrings) (lookup_replacing_of_ne different)

private theorem dictionaries?_replacing_of_ne (different : other ≠ key) :
    dictionaries? (replacing key value fields) other = dictionaries? fields other :=
  congrArg (Option.bind · Json.asDictionaries) (lookup_replacing_of_ne different)

end Fields

namespace MalformedElements

/-! ### The replacements -/

/-- One element of the results, or of the ingredients or the steps of one recipe, and
the value that is put in its place. -/
inductive Replacement where
  | result (position : Nat) (value : Json)
  | ingredient (position place : Nat) (value : Json)
  | step (position place : Nat) (value : Json)

def replacedAt (key : String) (place : Nat) (value : Json) (recipe : Fields) : Fields :=
  match recipe.lookup key with
  | some (.array elements) => Fields.replacing key (.array (elements.set place value)) recipe
  | _ => recipe

def onDictionary (change : Fields → Fields) : Json → Json
  | .object fields => .object (change fields)
  | other => other

def HasElement (results : List Json) (position : Nat) (key : String) (place : Nat) : Prop :=
  ∃ recipe elements, results[position]? = some (.object recipe) ∧
    recipe.lookup key = some (.array elements) ∧ place < elements.length

namespace Replacement

def results (elements : List Json) : Replacement → List Json
  | .result position value => elements.set position value
  | .ingredient position place value =>
      elements.modify position (onDictionary (replacedAt "ingredients" place value))
  | .step position place value =>
      elements.modify position (onDictionary (replacedAt "steps" place value))

def Fits (elements : List Json) : Replacement → Prop
  | .result position _ => position < elements.length
  | .ingredient position place _ => HasElement elements position "ingredients" place
  | .step position place _ => HasElement elements position "steps" place

def IllTyped : Replacement → Prop
  | .result _ value => value.asDictionary = none
  | .ingredient _ _ value => value.asString = none
  | .step _ _ value => value.asDictionary = none

/-- The array that the element stands in is lost. -/
def emptied : Replacement → List Recipe → List Recipe
  | .result _ _, _ => []
  | .ingredient position _ _, recipes =>
      recipes.modify position fun recipe => { recipe with ingridients := [] }
  | .step position _ _, recipes =>
      recipes.modify position fun recipe => { recipe with steps := [] }

end Replacement

def payload (json : Fields) (results : List Json) : Data :=
  ⟨some (.object (Fields.replacing "results" (.array results) json))⟩

/-! ### One recipe -/

section

variable {recipe : Fields} {elements : List Json} {place : Nat} {value : Json}

private theorem fetchedSteps_replacing_ingredients :
    fetchedSteps (Fields.replacing "ingredients" value recipe) = fetchedSteps recipe := by
  unfold fetchedSteps
  rw [Fields.dictionaries?_replacing_of_ne (by decide)]

private theorem ingredientTexts_replacing_steps :
    ingredientTexts (Fields.replacing "steps" value recipe) = ingredientTexts recipe := by
  unfold ingredientTexts
  rw [Fields.strings?_replacing_of_ne (by decide)]

private theorem ingredientTexts_of_illTyped (inside : place < elements.length)
    (illTyped : value.asString = none) :
    ingredientTexts (Fields.replacing "ingredients" (.array (elements.set place value)) recipe) =
      [] := by
  unfold ingredientTexts Fields.strings?
  rw [Fields.lookup_replacing_self, Option.bind_some]
  change ((elements.set place value).mapM Json.asString).getD [] = []
  rw [mapM_set_eq_none inside illTyped]
  rfl

private theorem fetchedSteps_of_illTyped (inside : place < elements.length)
    (illTyped : value.asDictionary = none) :
    fetchedSteps (Fields.replacing "steps" (.array (elements.set place value)) recipe) = [] := by
  rw [fetchedSteps_eq_nil_iff]
  intro steps found
  unfold Fields.dictionaries? at found
  rw [Fields.lookup_replacing_self, Option.bind_some] at found
  change (elements.set place value).mapM Json.asDictionary = some steps at found
  rw [mapM_set_eq_none inside illTyped] at found
  cases found

private theorem fetchedRecipe_of_illTyped_ingredient
    (listed : recipe.lookup "ingredients" = some (.array elements))
    (inside : place < elements.length) (illTyped : value.asString = none)
    (decodes : fetchedRecipe recipe ≠ none) :
    fetchedRecipe (replacedAt "ingredients" place value recipe) =
      (fetchedRecipe recipe).map fun recipe => { recipe with ingridients := [] } := by
  unfold fetchedRecipe decodedRecipe at decodes ⊢
  simp only [replacedAt, listed]
  rw [ingredientTexts_of_illTyped inside illTyped, fetchedSteps_replacing_ingredients]
  simp (disch := decide) only [Fields.string?_replacing_of_ne, Fields.int?_replacing_of_ne]
  cases parsed : (ingredientTexts recipe).mapM parseIngredient with
  | none =>
      rw [parsed] at decodes
      exact absurd rfl decodes
  | some ingredients => rfl

private theorem fetchedRecipe_of_illTyped_step
    (listed : recipe.lookup "steps" = some (.array elements))
    (inside : place < elements.length) (illTyped : value.asDictionary = none) :
    fetchedRecipe (replacedAt "steps" place value recipe) =
      (fetchedRecipe recipe).map fun recipe => { recipe with steps := [] } := by
  unfold fetchedRecipe decodedRecipe
  simp only [replacedAt, listed]
  rw [ingredientTexts_replacing_steps, fetchedSteps_of_illTyped inside illTyped]
  simp (disch := decide) only [Fields.string?_replacing_of_ne, Fields.int?_replacing_of_ne]
  cases (ingredientTexts recipe).mapM parseIngredient <;> rfl

end

/-! ### The payload -/

section

variable {json : Fields} {results : List Json} {body : Data}

private theorem resultElements_eq (spelled : body.json = some (.object json))
    (found : json.lookup "results" = some (.array results)) :
    PayloadSafety.resultElements body = (results.mapM Json.asDictionary).getD [] := by
  unfold PayloadSafety.resultElements Json.jsonObject Fields.dictionaries?
  rw [spelled]
  change (((json.lookup "results").bind Json.asDictionaries)).getD [] = _
  rw [found]
  rfl

private theorem decodeRecipes_of_results (spelled : body.json = some (.object json))
    (found : json.lookup "results" = some (.array results)) :
    decodeRecipes body = ((results.mapM Json.asDictionary).getD []).mapM fetchedRecipe := by
  rw [PayloadSafety.decodeRecipes_eq, resultElements_eq spelled found]

private theorem decodeRecipes_payload (json : Fields) (results : List Json) :
    decodeRecipes (payload json results) =
      ((results.mapM Json.asDictionary).getD []).mapM fetchedRecipe :=
  decodeRecipes_of_results rfl Fields.lookup_replacing_self

private theorem decodeRecipes_modify {position : Nat} {change : Fields → Fields}
    {effect : Recipe → Recipe}
    (follows : ∀ recipe, ((results.mapM Json.asDictionary).getD [])[position]? = some recipe →
      fetchedRecipe (change recipe) = (fetchedRecipe recipe).map effect) :
    decodeRecipes (payload json (results.modify position (onDictionary change))) =
      (((results.mapM Json.asDictionary).getD []).mapM fetchedRecipe).map
        fun recipes => recipes.modify position effect := by
  have cast : (results.modify position (onDictionary change)).mapM Json.asDictionary =
      (results.mapM Json.asDictionary).map fun elements => elements.modify position change := by
    apply mapM_modify
    intro result _
    cases result <;> rfl
  rw [decodeRecipes_payload, cast, ← mapM_modify follows]
  cases results.mapM Json.asDictionary with
  | none => simp
  | some elements => rfl

private theorem dictionary_at {position : Nat} {recipe element : Fields}
    (stands : results[position]? = some (.object recipe))
    (cast : ((results.mapM Json.asDictionary).getD [])[position]? = some element) :
    element = recipe := by
  cases loaded : results.mapM Json.asDictionary with
  | none =>
      rw [loaded] at cast
      cases cast
  | some elements =>
      rw [loaded, Option.getD_some] at cast
      obtain ⟨inResults, here⟩ := List.getElem?_eq_some_iff.mp stands
      obtain ⟨inElements, there⟩ := List.getElem?_eq_some_iff.mp cast
      have matched := List.forall₂_iff_get.mp (mapM_eq_some_iff.mp loaded) |>.2 position
        inResults inElements
      rw [List.get_eq_getElem, List.get_eq_getElem, here, there] at matched
      exact (Option.some.inj matched).symm

/-- Where no ingredient traps, a replacement by an ill-typed value empties the array it
is made in, and changes nothing else of the delivered list. -/
private theorem decodeRecipes_of_illTyped (replacement : Replacement)
    (fits : replacement.Fits results) (illTyped : replacement.IllTyped)
    (decodes : ∀ recipe ∈ (results.mapM Json.asDictionary).getD [], fetchedRecipe recipe ≠ none) :
    decodeRecipes (payload json (replacement.results results)) =
      (((results.mapM Json.asDictionary).getD []).mapM fetchedRecipe).map replacement.emptied := by
  cases replacement with
  | result position value =>
      rw [decodeRecipes_payload]
      change (((results.set position value).mapM Json.asDictionary).getD []).mapM fetchedRecipe = _
      rw [mapM_set_eq_none fits illTyped]
      cases loaded : ((results.mapM Json.asDictionary).getD []).mapM fetchedRecipe with
      | none =>
          obtain ⟨recipe, member, trapped⟩ := mapM_eq_none_iff.mp loaded
          exact absurd trapped (decodes recipe member)
      | some recipes => rfl
  | ingredient position place value =>
      obtain ⟨recipe, elements, stands, listed, inside⟩ := fits
      apply decodeRecipes_modify
      intro element cast
      have decoded := decodes element (List.mem_of_getElem? cast)
      cases dictionary_at stands cast
      exact fetchedRecipe_of_illTyped_ingredient listed inside illTyped decoded
  | step position place value =>
      obtain ⟨recipe, elements, stands, listed, inside⟩ := fits
      apply decodeRecipes_modify
      intro element cast
      cases dictionary_at stands cast
      exact fetchedRecipe_of_illTyped_step listed inside illTyped

/-- For a payload whose ingredients parse, the results are delivered in order if all of
them are objects, and not at all otherwise.  An ill-typed value in place of a result
loses all of them; in place of an ingredient or a step it loses the ingredients or the
steps of that recipe, and the list is otherwise delivered as before. -/
theorem arrays_decode_whole (json : Fields) (results : List Json) (body : Data)
    (spelled : body.json = some (.object json))
    (found : json.lookup "results" = some (.array results))
    (parses : ∀ element ∈ PayloadSafety.resultElements body, ∀ text ∈ ingredientTexts element,
      parseIngredient text ≠ none) :
    ∃ recipes, decodeRecipes body = some recipes ∧
      (∀ elements, results = elements.map .object →
        List.Forall₂ (fun element recipe => fetchedRecipe element = some recipe) elements
          recipes) ∧
      ((∃ result ∈ results, result.asDictionary = none) → recipes = []) ∧
      ∀ replacement : Replacement, replacement.Fits results → replacement.IllTyped →
        decodeRecipes (payload json (replacement.results results)) =
          some (replacement.emptied recipes) := by
  rw [resultElements_eq spelled found] at parses
  have decodes : ∀ recipe ∈ (results.mapM Json.asDictionary).getD [],
      fetchedRecipe recipe ≠ none := by
    intro recipe member trapped
    obtain ⟨text, listed, failed⟩ := (decodedRecipe_eq_none_iff _ _).mp trapped
    exact parses recipe member text listed failed
  cases loaded : ((results.mapM Json.asDictionary).getD []).mapM fetchedRecipe with
  | none =>
      obtain ⟨recipe, member, trapped⟩ := mapM_eq_none_iff.mp loaded
      exact absurd trapped (decodes recipe member)
  | some recipes =>
      refine ⟨recipes, ?_, ?_, ?_, ?_⟩
      · rw [decodeRecipes_of_results spelled found]
        exact loaded
      · intro elements objects
        have cast : results.mapM Json.asDictionary = some (elements.map id) := by
          have reads : ∀ fields, Json.asDictionary (.object fields) = some (id fields) :=
            fun _ => rfl
          rw [objects]
          exact mapM_map reads elements
        rw [cast, List.map_id, Option.getD_some] at loaded
        exact mapM_eq_some_iff.mp loaded
      · intro failing
        rw [mapM_eq_none_iff.mpr failing] at loaded
        exact (Option.some.inj loaded).symm
      · intro replacement fits illTyped
        rw [decodeRecipes_of_illTyped replacement fits illTyped decodes, loaded]
        rfl

end

def plov : Fields :=
  [("name", .string "Plov"),
    ("ingredients", .array [.string "Rice(1 kg)", .string "Salt(10 g)"]),
    ("steps", .array [.object [("text", .string "Fry")], .object [("text", .string "Boil")]])]

/-- A null in place of the salt: the recipe is delivered without ingredients. -/
theorem arrays_decode_whole_plov :
    ∃ recipes, decodeRecipes (payload [] [.object plov]) = some recipes ∧
      decodeRecipes (payload [("results", .array [.object plov])]
          ((Replacement.ingredient 0 1 .null).results [.object plov])) =
        some ((Replacement.ingredient 0 1 .null).emptied recipes) := by
  obtain ⟨recipes, decoded, _, _, replaced⟩ :=
    arrays_decode_whole [("results", .array [.object plov])] [.object plov]
      ⟨some (.object [("results", .array [.object plov])])⟩ rfl rfl (by decide)
  exact ⟨recipes, decoded,
    replaced (.ingredient 0 1 .null) ⟨plov, _, rfl, rfl, by decide⟩ rfl⟩

/-! ### Isolation -/

def DiffersInOne {Value : Type} (before after : List Value) : Prop :=
  after = before ∨ (∃ place, after = before.eraseIdx place) ∨
    ∃ place value, after = before.set place value

/-- At most the recipe, the ingredient or the step that was replaced is lost. -/
def Isolated (before after : List Recipe) : Replacement → Prop
  | .result _ _ => DiffersInOne before after
  | .ingredient position _ _ => ∃ recipe ingridients, before[position]? = some recipe ∧
      DiffersInOne recipe.ingridients ingridients ∧
      after = before.set position { recipe with ingridients := ingridients }
  | .step position _ _ => ∃ recipe steps, before[position]? = some recipe ∧
      DiffersInOne recipe.steps steps ∧ after = before.set position { recipe with steps := steps }

private theorem length_le_of_differsInOne {Value : Type} {before after : List Value}
    (differs : DiffersInOne before after) : before.length ≤ after.length + 1 := by
  rcases differs with rfl | ⟨place, rfl⟩ | ⟨place, value, rfl⟩
  · exact Nat.le_succ _
  · rw [List.length_eraseIdx]
    split <;> omega
  · rw [List.length_set]
    exact Nat.le_succ _

def IngredientsParse (results : List Json) : Prop :=
  ∀ recipe, Json.object recipe ∈ results → ∀ text ∈ ingredientTexts recipe,
    parseIngredient text ≠ none

def IsolatedAt (results : List Json) (replacement : Replacement) : Prop :=
  ∀ before after, decodeRecipes (payload [] results) = some before →
    decodeRecipes (payload [] (replacement.results results)) = some after →
      Isolated before after replacement

private theorem ingredientsParse_plov {results : List Json}
    (only : ∀ result ∈ results, result = .object plov ∨ result = .null) :
    IngredientsParse results := by
  intro recipe member
  rcases only _ member with same | impossible
  · cases same
    decide
  · cases impossible

/-- A null beside an object loses the object, and a null in place of one of two
results, ingredients or steps loses both. -/
theorem not_isolated_null :
    (¬ ∀ results, IngredientsParse results →
      decodeRecipes (payload [] results) =
        (results.filterMap Json.asDictionary).mapM fetchedRecipe) ∧
    (¬ ∀ results position value, IngredientsParse results →
      (Replacement.result position value).Fits results →
      (Replacement.result position value).IllTyped →
        IsolatedAt results (.result position value)) ∧
    (¬ ∀ results position place value, IngredientsParse results →
      (Replacement.ingredient position place value).Fits results →
      (Replacement.ingredient position place value).IllTyped →
        IsolatedAt results (.ingredient position place value)) ∧
    (¬ ∀ results position place value, IngredientsParse results →
      (Replacement.step position place value).Fits results →
      (Replacement.step position place value).IllTyped →
        IsolatedAt results (.step position place value)) := by
  have parses : IngredientsParse [.object plov, .object plov] := ingredientsParse_plov (by simp)
  refine ⟨?_, ?_, ?_, ?_⟩
  · intro delivers
    have delivered := delivers [.object plov, .null] (ingredientsParse_plov (by simp))
    cases delivered
  · intro isolated
    have differs := isolated [.object plov, .object plov] 0 .null parses
      (Nat.zero_lt_succ 1) rfl _ _ rfl rfl
    have short := length_le_of_differsInOne differs
    exact absurd short (by decide)
  · intro isolated
    have differs := isolated [.object plov, .object plov] 0 0 .null parses
      ⟨plov, _, rfl, rfl, by decide⟩ rfl _ _ rfl rfl
    obtain ⟨recipe, ingridients, found, differs, after⟩ := differs
    cases found
    have short := length_le_of_differsInOne differs
    have lost : ingridients = [] := by
      have first := congrArg (fun recipes => recipes[0]?.map Recipe.ingridients) after
      exact (Option.some.inj first).symm
    rw [lost] at short
    exact absurd short (by decide)
  · intro isolated
    have differs := isolated [.object plov, .object plov] 0 0 .null parses
      ⟨plov, _, rfl, rfl, by decide⟩ rfl _ _ rfl rfl
    obtain ⟨recipe, steps, found, differs, after⟩ := differs
    cases found
    have short := length_le_of_differsInOne differs
    have lost : steps = [] := by
      have first := congrArg (fun recipes => recipes[0]?.map Recipe.steps) after
      exact (Option.some.inj first).symm
    rw [lost] at short
    exact absurd short (by decide)

end MalformedElements

end SmartMeal
