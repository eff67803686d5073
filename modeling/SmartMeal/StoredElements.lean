/-
What an edit leaves of the elements stored before it.

The list is decoded all or nothing, and an edit writes back what it read.  One element
that does not decode empties the list that is read, so the edit keeps the others only
when the whole list decodes, or when there are no others.
-/

import SmartMeal.FavoritesManager
import SmartMeal.Library.Traversal

namespace SmartMeal.StoredElements

open Codable Traversal

def storedElements (defaults : UserDefaults) : List Json :=
  match defaults.favoriteRecipes.bind Data.json with
  | some (.array elements) => elements
  | _ => []

def elementId : Json → Option Int64
  | .object fields => required fields "id" decodeInt
  | _ => none

/-- An element as the app writes it; one that does not decode is left as it is. -/
def rewritten (element : Json) : Json := ((Recipe.decode element).map Recipe.encode).getD element

def others (recipe : Recipe) (elements : List Json) : List Json :=
  elements.filter fun element => elementId element != some recipe.id

/-- The elements with another id than the recipe are still there, in their order. -/
def KeepsOthers (recipe : Recipe) (before after : UserDefaults) : Prop :=
  ((others recipe (storedElements before)).map rewritten).Sublist
    ((storedElements after).map rewritten)

/-! ### One element -/

private theorem elementId_of_decoded {element : Json} {recipe : Recipe}
    (decoded : Recipe.decode element = some recipe) : elementId element = some recipe.id := by
  cases element with
  | object fields =>
      obtain ⟨id, found, rest⟩ := Option.bind_eq_some_iff.mp decoded
      simp only [bind, Option.bind_eq_some_iff] at rest
      obtain ⟨_, _, _, _, _, _, _, _, _, _, _, _, _, _, _, _, _, _, same⟩ := rest
      cases same
      exact found
  | _ => cases decoded

private theorem rewritten_of_decoded {element : Json} {recipe : Recipe}
    (decoded : Recipe.decode element = some recipe) : rewritten element = recipe.encode := by
  unfold rewritten
  rw [decoded]
  rfl

private theorem rewritten_encode (recipe : Recipe) : rewritten recipe.encode = recipe.encode :=
  rewritten_of_decoded (Recipe.decode_encode recipe)

private theorem elementId_of_rewritten {element : Json} {recipe : Recipe}
    (same : rewritten element = recipe.encode) : elementId element = some recipe.id := by
  cases decoded : Recipe.decode element with
  | none =>
      unfold rewritten at same
      rw [decoded, Option.map_none, Option.getD_none] at same
      rw [same, Recipe.decode_encode] at decoded
      cases decoded
  | some stored =>
      have back := congrArg Recipe.decode ((rewritten_of_decoded decoded).symm.trans same)
      rw [Recipe.decode_encode, Recipe.decode_encode] at back
      rw [← Option.some.inj back]
      exact elementId_of_decoded decoded

/-! ### The stored list -/

private theorem getFavorites_eq (defaults : UserDefaults) :
    getFavorites defaults = ((storedElements defaults).mapM Recipe.decode).getD [] := by
  rcases defaults with ⟨_, _, favoriteRecipes⟩
  cases favoriteRecipes with
  | none => rfl
  | some data =>
      rcases data with ⟨json⟩
      cases json with
      | none => rfl
      | some json => cases json <;> rfl

private theorem storedElements_saveFavorites (recipes : List Recipe) (defaults : UserDefaults) :
    (storedElements (saveFavorites recipes defaults)).map rewritten =
      recipes.map Recipe.encode := by
  change (recipes.map Recipe.encode).map rewritten = recipes.map Recipe.encode
  rw [List.map_map]
  exact List.map_congr_left fun recipe _ => rewritten_encode recipe

private theorem others_of_decoded (recipe : Recipe) {elements : List Json} {recipes : List Recipe}
    (decoded : elements.mapM Recipe.decode = some recipes) :
    (others recipe elements).map rewritten =
      (recipes.filter fun stored => stored.id != recipe.id).map Recipe.encode := by
  unfold others
  induction mapM_eq_some_iff.mp decoded with
  | nil => rfl
  | @cons element stored elements recipes decodes matched ih =>
      have sameTest : (elementId element != some recipe.id) = (stored.id != recipe.id) := by
        rw [elementId_of_decoded decodes]
        rfl
      rw [List.filter_cons, List.filter_cons, sameTest]
      split
      · rw [List.map_cons, List.map_cons, rewritten_of_decoded decodes,
          ih (mapM_eq_some_iff.mpr matched)]
      · exact ih (mapM_eq_some_iff.mpr matched)

private theorem others_eq_nil_iff (recipe : Recipe) (elements : List Json) :
    others recipe elements = [] ↔ ∀ element ∈ elements, elementId element = some recipe.id := by
  simp [others]

private theorem decodes_iff (elements : List Json) :
    (∀ element ∈ elements, (Recipe.decode element).isSome) ↔
      (elements.mapM Recipe.decode).isSome := by
  rw [Option.isSome_iff_ne_none, Ne, mapM_eq_none_iff]
  simp only [Option.isSome_iff_ne_none, not_exists, not_and, Ne]

/-! ### The two edits -/

/-- An edit that writes back the others it reads keeps the stored others exactly when
the stored list decodes or there are none, provided it writes nothing else but the
recipe. -/
theorem keepsOthers_saveFavorites_iff {recipe : Recipe} {defaults : UserDefaults}
    {edited : List Recipe}
    (keeps : ((getFavorites defaults).filter fun stored => stored.id != recipe.id).Sublist edited)
    (addsOnly : getFavorites defaults = [] → ∀ stored ∈ edited, stored = recipe) :
    KeepsOthers recipe defaults (saveFavorites edited defaults) ↔
      (∀ element ∈ storedElements defaults, (Recipe.decode element).isSome) ∨
        ∀ element ∈ storedElements defaults, elementId element = some recipe.id := by
  unfold KeepsOthers
  rw [storedElements_saveFavorites, decodes_iff, ← others_eq_nil_iff]
  rw [getFavorites_eq] at keeps addsOnly
  cases decoded : (storedElements defaults).mapM Recipe.decode with
  | some recipes =>
      rw [decoded, Option.getD_some] at keeps
      refine iff_of_true ?_ (Or.inl rfl)
      rw [others_of_decoded recipe decoded]
      exact keeps.map Recipe.encode
  | none =>
      rw [decoded, Option.getD_none] at addsOnly
      constructor
      · intro kept
        right
        rw [others_eq_nil_iff]
        intro element member
        by_contra other
        have stays : rewritten element ∈ edited.map Recipe.encode := by
          apply kept.subset
          exact List.mem_map_of_mem (List.mem_filter.mpr ⟨member, bne_iff_ne.mpr other⟩)
        obtain ⟨stored, present, same⟩ := List.mem_map.mp stays
        rw [addsOnly rfl stored present] at same
        exact other (elementId_of_rewritten same.symm)
      · rintro (impossible | empty)
        · cases impossible
        · rw [empty]
          exact List.nil_sublist _

/-- Each edit keeps the stored elements with another id exactly when every stored
element decodes, or every one has the id of the edited recipe. -/
theorem keepsOthers_iff (recipe : Recipe) (defaults : UserDefaults) :
    (KeepsOthers recipe defaults (addToFavorites recipe defaults).1 ↔
      (∀ element ∈ storedElements defaults, (Recipe.decode element).isSome) ∨
        ∀ element ∈ storedElements defaults, elementId element = some recipe.id) ∧
    (KeepsOthers recipe defaults (removeFromFavorites recipe defaults).1 ↔
      (∀ element ∈ storedElements defaults, (Recipe.decode element).isSome) ∨
        ∀ element ∈ storedElements defaults, elementId element = some recipe.id) := by
  constructor
  · apply keepsOthers_saveFavorites_iff
    · exact List.filter_sublist.trans (List.sublist_append_left _ _)
    · intro empty stored member
      rw [empty] at member
      exact List.mem_singleton.mp member
  · apply keepsOthers_saveFavorites_iff
    · exact List.Sublist.refl _
    · intro empty stored member
      rw [empty] at member
      cases member

/-- A stored element without its steps is lost when another recipe is removed. -/
theorem not_keepsOthers_without_steps :
    ¬ ∀ (recipe : Recipe) (defaults : UserDefaults),
      KeepsOthers recipe defaults (addToFavorites recipe defaults).1 ∧
        KeepsOthers recipe defaults (removeFromFavorites recipe defaults).1 := by
  intro always
  have kept := (always (.titled 2 "Laghman")
    ⟨none, none, some ⟨some (.array [.object [("id", .number 1), ("title", .string "Plov")]])⟩⟩).2
  have short := kept.length_le
  exact absurd short (by decide)

end SmartMeal.StoredElements
