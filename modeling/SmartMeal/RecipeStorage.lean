/-
The saved favorites, read back.

An encoded recipe nests the lists of its ingredients and of its steps, and decoding is
all or nothing, so a single field that is not read back as it was written would empty
the store.  A dictionary read from a text need not have its keys in the order they were
written in; the decoders look keys up, and the order does not matter to them.
-/

import SmartMeal.FavoritesManager

namespace SmartMeal.RecipeStorage

open Codable

/-- The values are the same but for the order of the keys in their dictionaries. -/
inductive Same : Json → Json → Prop where
  | null : Same .null .null
  | bool (value : Bool) : Same (.bool value) (.bool value)
  | number (value : Rat) : Same (.number value) (.number value)
  | string (text : String) : Same (.string text) (.string text)
  | array {written read : List Json} (each : List.Forall₂ Same written read) :
      Same (.array written) (.array read)
  | object {written read : Fields}
      (each : ∀ key, Option.Rel Same (written.lookup key) (read.lookup key)) :
      Same (.object written) (.object read)

def Respects {Value : Type} (decode : Json → Option Value) : Prop :=
  ∀ written read, Same written read → decode read = decode written

private theorem respects_decodeString : Respects decodeString := by
  intro written read same
  cases same <;> rfl

private theorem respects_decodeInt : Respects decodeInt := by
  intro written read same
  cases same <;> rfl

private theorem mapM_eq_of_same {Value : Type} {decode : Json → Option Value}
    (respects : Respects decode)
    {written read : List Json} (each : List.Forall₂ Same written read) :
    read.mapM decode = written.mapM decode := by
  induction each with
  | nil => rfl
  | cons same _ ih => rw [List.mapM_cons, List.mapM_cons, respects _ _ same, ih]

private theorem respects_decodeList {Value : Type} {decode : Json → Option Value}
    (respects : Respects decode) : Respects (decodeList decode) := by
  intro written read same
  cases same with
  | array each => exact mapM_eq_of_same respects each
  | _ => rfl

section

variable {Value : Type} {decode : Json → Option Value} {written read : Fields}

private theorem required_eq_of_same (respects : Respects decode)
    (each : ∀ key, Option.Rel Same (written.lookup key) (read.lookup key)) (key : String) :
    required read key decode = required written key decode := by
  unfold required
  have same := each key
  generalize written.lookup key = value at same ⊢
  generalize read.lookup key = other at same ⊢
  cases same with
  | none => rfl
  | some related => exact respects _ _ related

private theorem ifPresent_eq_of_same (respects : Respects decode)
    (each : ∀ key, Option.Rel Same (written.lookup key) (read.lookup key)) (key : String) :
    ifPresent read key decode = ifPresent written key decode := by
  unfold ifPresent
  have same := each key
  generalize written.lookup key = value at same ⊢
  generalize read.lookup key = other at same ⊢
  cases same with
  | none => rfl
  | some related =>
      have alike := respects _ _ related
      cases related <;> simp only [alike]

end

private theorem respects_ingredient : Respects Ingredient.decode := by
  intro written read same
  cases same with
  | object each =>
      simp only [Ingredient.decode, required_eq_of_same respects_decodeString each]
  | _ => rfl

private theorem respects_step : Respects Step.decode := by
  intro written read same
  cases same with
  | object each =>
      simp only [Step.decode, required_eq_of_same respects_decodeString each]
  | _ => rfl

private theorem respects_recipe : Respects Recipe.decode := by
  intro written read same
  cases same with
  | object each =>
      simp only [Recipe.decode, required_eq_of_same respects_decodeString each,
        required_eq_of_same respects_decodeInt each,
        ifPresent_eq_of_same respects_decodeString each,
        required_eq_of_same (respects_decodeList respects_ingredient) each,
        required_eq_of_same (respects_decodeList respects_step) each]
  | _ => rfl

/-- What was saved is read back, recipe by recipe and field by field, in whatever order
the keys of its dictionaries come back. -/
theorem getFavorites_of_saved (recipes : List Recipe) (defaults : UserDefaults) :
    getFavorites (saveFavorites recipes defaults) = recipes ∧
      ∀ read, Same (encodeList Recipe.encode recipes) read →
        getFavorites { defaults with favoriteRecipes := some ⟨some read⟩ } = recipes := by
  refine ⟨getFavorites_saveFavorites recipes defaults, fun read same => ?_⟩
  have decoded : decodeList Recipe.decode read = some recipes :=
    (respects_decodeList respects_recipe _ _ same).trans
      (decodeList_encodeList Recipe.decode_encode recipes)
  change ((some read).bind (decodeList Recipe.decode)).getD [] = recipes
  rw [Option.bind_some, decoded]
  rfl

end SmartMeal.RecipeStorage
