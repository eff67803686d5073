/-
What a synchronization leaves behind, by its outcome.

A missing token, a thrown error and a body that is not an array of objects leave the
stored list alone.  The status of the answer is never read, so an error status whose
body is an array of objects replaces the list as a success does.
-/

import SmartMeal.RecipeDecoders

namespace SmartMeal.SyncOutcome

open Traversal

/-- What `URLSession.data(for:)` ends with: a thrown error, or a body and its response. -/
abbrev Delivery := Option (Data × URLResponse)

def syncFavorites (delivery : Delivery) (defaults : UserDefaults) : Option UserDefaults :=
  match syncFavoritesRequest defaults with
  | none => some defaults
  | some _ => syncFavoritesAnswered (delivery.map Prod.fst) defaults

def Succeeds (response : URLResponse) : Prop :=
  ∃ statusCode, response = .http statusCode ∧ 200 ≤ statusCode ∧ statusCode < 300

def Fails (delivery : Delivery) (defaults : UserDefaults) : Prop :=
  defaults.authToken = none ∨ delivery = none ∨
    ∃ body response, delivery = some (body, response) ∧
      (¬ Succeeds response ∨ bodyDictionaries body = none)

structure LeavesOrLoads (delivery : Delivery) (before after : UserDefaults) : Prop where
  failed : Fails delivery before → getFavorites after = getFavorites before
  loaded : ¬ Fails delivery before → ∀ body response elements,
    delivery = some (body, response) → bodyDictionaries body = some elements →
      List.Forall₂ (fun element recipe => syncedRecipe element = some recipe) elements
        (getFavorites after)

/-- An answer that is no success brings no array of objects, except one that decodes
to the list already stored. -/
def ErrorsBringNoList (delivery : Delivery) (defaults : UserDefaults) : Prop :=
  defaults.authToken ≠ none → ∀ body response elements, delivery = some (body, response) →
    ¬ Succeeds response → bodyDictionaries body = some elements →
      elements.mapM syncedRecipe = some (getFavorites defaults)

/-! ### The outcomes -/

private theorem leavesOrLoads_of_same {delivery : Delivery} {before after : UserDefaults}
    (same : getFavorites after = getFavorites before) (failing : Fails delivery before) :
    LeavesOrLoads delivery before after :=
  ⟨fun _ => same, fun succeeding => absurd failing succeeding⟩

private theorem syncFavorites_of_unreadable {body : Data} {response : URLResponse}
    {defaults after : UserDefaults} (unreadable : bodyDictionaries body = none)
    (handled : syncFavorites (some (body, response)) defaults = some after) :
    after = defaults := by
  unfold syncFavorites at handled
  split at handled
  · exact (Option.some.inj handled).symm
  · simp only [Option.map_some, syncFavoritesAnswered, decodeSaved_of_none unreadable] at handled
    exact (Option.some.inj handled).symm

private theorem getFavorites_of_readable {body : Data} {response : URLResponse}
    {elements : List Fields}
    {defaults after : UserDefaults} {token : String} (stored : defaults.authToken = some token)
    (readable : bodyDictionaries body = some elements)
    (handled : syncFavorites (some (body, response)) defaults = some after) :
    elements.mapM syncedRecipe = some (getFavorites after) := by
  simp only [syncFavorites, syncFavoritesRequest, stored, Option.map_some,
    syncFavoritesAnswered, decodeSaved_of_some readable] at handled
  cases decoded : elements.mapM syncedRecipe with
  | none =>
      rw [decoded] at handled
      cases handled
  | some recipes =>
      rw [decoded] at handled
      cases handled
      rw [getFavorites_saveFavorites]

private theorem leavesOrLoads_of_readable_iff {body : Data} {response : URLResponse}
    {elements : List Fields} {defaults after : UserDefaults} {token : String}
    (stored : defaults.authToken = some token)
    (readable : bodyDictionaries body = some elements)
    (decoded : elements.mapM syncedRecipe = some (getFavorites after)) :
    LeavesOrLoads (some (body, response)) defaults after ↔
      (¬ Succeeds response → elements.mapM syncedRecipe = some (getFavorites defaults)) := by
  constructor
  · intro law failing
    rw [decoded, law.failed (Or.inr (Or.inr ⟨body, response, rfl, Or.inl failing⟩))]
  · intro brings
    constructor
    · rintro (absent | impossible | ⟨_, _, same, failing | unreadable⟩)
      · rw [stored] at absent
        cases absent
      · cases impossible
      · cases same
        exact Option.some.inj (decoded.symm.trans (brings failing))
      · cases same
        rw [readable] at unreadable
        cases unreadable
    · intro _ _ _ others same readableOthers
      cases same
      cases readable.symm.trans readableOthers
      exact mapM_eq_some_iff.mp decoded

/-- Where no ingredient traps, a failed synchronization leaves the stored list alone,
and any other loads one recipe for each element, exactly when no error answer brings
another list. -/
theorem leavesOrLoads_iff (delivery : Delivery) (defaults after : UserDefaults)
    (handled : syncFavorites delivery defaults = some after) :
    LeavesOrLoads delivery defaults after ↔ ErrorsBringNoList delivery defaults := by
  cases stored : defaults.authToken with
  | none =>
      have same : after = defaults := by
        simp only [syncFavorites, syncFavoritesRequest, stored] at handled
        exact (Option.some.inj handled).symm
      apply iff_of_true (leavesOrLoads_of_same (by rw [same]) (Or.inl stored))
      intro present
      exact absurd stored present
  | some token =>
      have present : defaults.authToken ≠ none := by
        rw [stored]
        exact Option.some_ne_none token
      cases delivery with
      | none =>
          have same : after = defaults := by
            simp only [syncFavorites, syncFavoritesRequest, stored] at handled
            exact (Option.some.inj handled).symm
          apply iff_of_true (leavesOrLoads_of_same (by rw [same]) (Or.inr (Or.inl rfl)))
          intro _ body response elements impossible
          cases impossible
      | some delivered =>
          rcases delivered with ⟨body, response⟩
          cases readable : bodyDictionaries body with
          | none =>
              have same := syncFavorites_of_unreadable readable handled
              refine iff_of_true (leavesOrLoads_of_same (by rw [same]) ?_) ?_
              · exact Or.inr (Or.inr ⟨body, response, rfl, Or.inr readable⟩)
              · intro _ _ _ elements same _ readableOther
                cases same
                rw [readable] at readableOther
                cases readableOther
          | some elements =>
              rw [leavesOrLoads_of_readable_iff stored readable
                (getFavorites_of_readable stored readable handled)]
              constructor
              · intro brings _ _ _ others same failing readableOthers
                cases same
                cases readable.symm.trans readableOthers
                exact brings failing
              · intro silent failing
                exact silent present body response elements rfl failing readable

def savedPlov : Data := ⟨some (.array [.object [("id", .number 1), ("name", .string "Plov")]])⟩

theorem leavesOrLoads_success :
    LeavesOrLoads (some (savedPlov, .http 200)) ⟨some "access", some "refresh", none⟩
      (saveFavorites [.titled 1 "Plov"] ⟨some "access", some "refresh", none⟩) := by
  rw [leavesOrLoads_iff _ _ _ rfl]
  intro _ body response elements same failing
  cases same
  exact absurd ⟨200, rfl, by decide, by decide⟩ failing

/-- A status 500 with the body of a list replaces the stored list. -/
theorem not_leavesOrLoads_error_with_list :
    ¬ ∀ (delivery : Delivery) (defaults after : UserDefaults),
      syncFavorites delivery defaults = some after → LeavesOrLoads delivery defaults after := by
  intro always
  have law := always (some (savedPlov, .http 500)) ⟨some "access", some "refresh", none⟩ _ rfl
  have failing : ¬ Succeeds (.http 500) := by
    rintro ⟨statusCode, same, _, below⟩
    cases same
    exact absurd below (by decide)
  have kept := law.failed (Or.inr (Or.inr ⟨savedPlov, _, rfl, Or.inl failing⟩))
  rw [getFavorites_saveFavorites] at kept
  exact absurd (congrArg List.length kept) (by decide)

end SmartMeal.SyncOutcome
