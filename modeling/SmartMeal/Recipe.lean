/-
The recipe records and their synthesized Codable conformances.

Encoding writes one dictionary entry for each stored property and omits an
absent optional.  Decoding is all or nothing: a missing key or a value of
another type fails the record, and with it every list it is nested in.
-/

import SmartMeal.Json
import SmartMeal.Library.Traversal

namespace SmartMeal

structure Ingredient where
  name : String
  amount : String
  deriving DecidableEq

structure Step where
  text : String
  imageURL : String
  stepNumber : String
  deriving DecidableEq

structure Recipe where
  id : Int64
  title : String
  calories : Int64
  time : String
  description : String
  imageUrl : Option String
  ingridients : List Ingredient
  dishType : String
  cuisine : String
  steps : List Step
  deriving DecidableEq

/-- A recipe whose other fields hold what the decoders take for missing ones. -/
def Recipe.titled (id : Int64) (title : String) : Recipe :=
  { id := id, title := title, calories := 0, time := "0", description := "", imageUrl := none,
    ingridients := [], dishType := "", cuisine := "", steps := [] }

/-! ### The coders -/

namespace Codable

def required {Value : Type} (fields : Fields) (key : String) (decode : Json → Option Value) :
    Option Value :=
  (fields.lookup key).bind decode

/-- `decodeIfPresent`: an absent key and a null both decode to no value. -/
def ifPresent {Value : Type} (fields : Fields) (key : String) (decode : Json → Option Value) :
    Option (Option Value) :=
  match fields.lookup key with
  | none => some none
  | some .null => some none
  | some value => (decode value).map some

def decodeString : Json → Option String := Json.asString

/-- A decoder, unlike the cast `as? Int`, does not read a boolean as a number. -/
def decodeInt : Json → Option Int64
  | .number value => Json.exactInt value
  | _ => none

def decodeList {Value : Type} (decode : Json → Option Value) : Json → Option (List Value)
  | .array elements => elements.mapM decode
  | _ => none

def encodeInt (value : Int64) : Json := .number (value.toInt : Rat)

def encodeList {Value : Type} (encode : Value → Json) (values : List Value) : Json :=
  .array (values.map encode)

@[simp]
theorem decodeString_string (text : String) : decodeString (.string text) = some text := rfl

@[simp]
theorem decodeInt_encodeInt (value : Int64) : decodeInt (encodeInt value) = some value :=
  Json.exactInt_toInt value

theorem decodeList_encodeList {Value : Type} {encode : Value → Json}
    {decode : Json → Option Value} (inverse : ∀ value, decode (encode value) = some value)
    (values : List Value) : decodeList decode (encodeList encode values) = some values := by
  unfold decodeList encodeList
  have read : (values.map encode).mapM decode = some (values.map id) :=
    Traversal.mapM_map inverse values
  rwa [List.map_id] at read

end Codable

open Codable

/-! ### Ingredients and steps -/

def Ingredient.encode (ingredient : Ingredient) : Json :=
  .object [("name", .string ingredient.name), ("amount", .string ingredient.amount)]

def Ingredient.decode : Json → Option Ingredient
  | .object fields => do
      let name ← required fields "name" decodeString
      let amount ← required fields "amount" decodeString
      pure ⟨name, amount⟩
  | _ => none

private theorem Ingredient.decode_encode (ingredient : Ingredient) :
    Ingredient.decode ingredient.encode = some ingredient := rfl

def Step.encode (step : Step) : Json :=
  .object [("text", .string step.text), ("imageURL", .string step.imageURL),
    ("stepNumber", .string step.stepNumber)]

def Step.decode : Json → Option Step
  | .object fields => do
      let text ← required fields "text" decodeString
      let imageURL ← required fields "imageURL" decodeString
      let stepNumber ← required fields "stepNumber" decodeString
      pure ⟨text, imageURL, stepNumber⟩
  | _ => none

private theorem Step.decode_encode (step : Step) : Step.decode step.encode = some step := rfl

/-! ### Recipes -/

def Recipe.encode (recipe : Recipe) : Json :=
  .object
    ([("id", encodeInt recipe.id), ("title", .string recipe.title),
      ("calories", encodeInt recipe.calories), ("time", .string recipe.time),
      ("description", .string recipe.description)] ++
     (match recipe.imageUrl with
      | some imageUrl => [("imageUrl", Json.string imageUrl)]
      | none => []) ++
     [("ingridients", encodeList Ingredient.encode recipe.ingridients),
      ("dishType", .string recipe.dishType), ("cuisine", .string recipe.cuisine),
      ("steps", encodeList Step.encode recipe.steps)])

def Recipe.decode : Json → Option Recipe
  | .object fields => do
      let id ← required fields "id" decodeInt
      let title ← required fields "title" decodeString
      let calories ← required fields "calories" decodeInt
      let time ← required fields "time" decodeString
      let description ← required fields "description" decodeString
      let imageUrl ← ifPresent fields "imageUrl" decodeString
      let ingridients ← required fields "ingridients" (decodeList Ingredient.decode)
      let dishType ← required fields "dishType" decodeString
      let cuisine ← required fields "cuisine" decodeString
      let steps ← required fields "steps" (decodeList Step.decode)
      pure ⟨id, title, calories, time, description, imageUrl, ingridients, dishType, cuisine,
        steps⟩
  | _ => none

theorem Recipe.decode_encode (recipe : Recipe) :
    Recipe.decode recipe.encode = some recipe := by
  rcases recipe with ⟨id, title, calories, time, description, imageUrl, ingridients, dishType,
    cuisine, steps⟩
  have ingridientsBack := decodeList_encodeList Ingredient.decode_encode ingridients
  have stepsBack := decodeList_encodeList Step.decode_encode steps
  cases imageUrl with
  | none =>
      simp [Recipe.encode, Recipe.decode, required, ifPresent, List.lookup_cons,
        ingridientsBack, stepsBack]
  | some imageUrl =>
      simp [Recipe.encode, Recipe.decode, required, ifPresent, List.lookup_cons,
        ingridientsBack, stepsBack]

end SmartMeal
