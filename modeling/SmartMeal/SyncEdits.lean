/-
Whether a synchronization can undo an edit.

A handled answer replaces the whole stored list by the list the server had when it
answered, whatever the user has edited since and whatever has become of the writes.
Every edit survives a run exactly when each list that is handled already shows the
last edit of every id that has been edited.
-/

import SmartMeal.SavedRecipes

namespace SmartMeal.SyncEdits

open PartialStep KeyedEdits

/-- The app and the saved list of the server.  The writes reach the server in the
order in which they were issued; `syncs` holds, for each GET under way, the list
the server has answered with, once it has; `edits` is history. -/
structure World where
  defaults : UserDefaults
  spawned : List FavoriteTask
  sent : List URLRequest
  syncs : List (Option (List Int64))
  saved : List Int64
  edits : List (Edit Int64)

inductive Action where
  | addToFavorites (recipe : Recipe)
  | removeFromFavorites (recipe : Recipe)
  | runTask
  | deliver (succeeds : Bool)
  | restart
  | syncFavorites
  | answerSync (index : Nat)
  | failSync (index : Nat)
  | handleSync (index : Nat)

namespace World

def start (defaults : UserDefaults) (saved : List Int64) : World :=
  { defaults := defaults, spawned := [], sent := [], syncs := [], saved := saved, edits := [] }

def requestsOf (task : FavoriteTask) (defaults : UserDefaults) : List URLRequest :=
  let outcome : Outcome Unit Write := performAuthorizedRequest (Write.call ⟨task, none⟩) defaults
  (resumed outcome.2).map DataTask.request

variable (catalogue : Int64 → Fields)

def step : Transition World Action
  | world, .addToFavorites recipe =>
      some { world with
        defaults := (addToFavorites recipe world.defaults).1
        spawned := world.spawned ++ [.saveFavorite recipe]
        edits := world.edits ++ [.insert recipe.id] }
  | world, .removeFromFavorites recipe =>
      some { world with
        defaults := (removeFromFavorites recipe world.defaults).1
        spawned := world.spawned ++ [.removeFavorite recipe]
        edits := world.edits ++ [.erase recipe.id] }
  | world, .runTask =>
      match world.spawned with
      | [] => none
      | task :: rest =>
          some { world with
            spawned := rest, sent := world.sent ++ requestsOf task world.defaults }
  | world, .deliver succeeds =>
      match world.sent with
      | [] => none
      | request :: rest =>
          let saved := if succeeds then
              (savedRecipesEdit request).elim world.saved (editSaved world.saved)
            else world.saved
          some { world with sent := rest, saved := saved }
  | world, .restart => some { world with spawned := [], syncs := [] }
  | world, .syncFavorites =>
      some { world with
        syncs := world.syncs ++ (syncFavoritesRequest world.defaults).toList.map fun _ => none }
  | world, .answerSync index =>
      match world.syncs[index]? with
      | some none => some { world with syncs := world.syncs.set index (some world.saved) }
      | _ => none
  | world, .failSync index =>
      match world.syncs[index]?, syncFavoritesAnswered none world.defaults with
      | some _, some defaults =>
          some { world with defaults := defaults, syncs := world.syncs.eraseIdx index }
      | _, _ => none
  | world, .handleSync index =>
      match world.syncs[index]? with
      | some (some saved) =>
          (syncFavoritesAnswered (some (savedBody catalogue saved)) world.defaults).map
            fun defaults =>
              { world with defaults := defaults, syncs := world.syncs.eraseIdx index }
      | _ => none

variable {catalogue} {world next : World}

private theorem step_handleSync {index : Nat}
    (taken : step catalogue world (.handleSync index) = some next) :
    ∃ saved, world.syncs[index]? = some (some saved) ∧
      favoriteIds next.defaults = saved ∧ next.edits = world.edits := by
  simp only [step] at taken
  split at taken
  · rename_i saved found
    obtain ⟨defaults, handled, rfl⟩ := Option.map_eq_some_iff.mp taken
    exact ⟨saved, found, favoriteIds_of_savedBody handled, rfl⟩
  · cases taken

private theorem step_cases {action : Action} (taken : step catalogue world action = some next) :
    (∃ recipe, action = .addToFavorites recipe ∧
      next.defaults = (addToFavorites recipe world.defaults).1 ∧
      next.edits = world.edits ++ [.insert recipe.id]) ∨
    (∃ recipe, action = .removeFromFavorites recipe ∧
      next.defaults = (removeFromFavorites recipe world.defaults).1 ∧
      next.edits = world.edits ++ [.erase recipe.id]) ∨
    (∃ index saved, action = .handleSync index ∧ world.syncs[index]? = some (some saved) ∧
      favoriteIds next.defaults = saved ∧ next.edits = world.edits) ∨
    ((∀ index, action ≠ .handleSync index) ∧
      next.defaults = world.defaults ∧ next.edits = world.edits) := by
  cases action with
  | addToFavorites recipe =>
      cases taken
      exact Or.inl ⟨recipe, rfl, rfl, rfl⟩
  | removeFromFavorites recipe =>
      cases taken
      exact Or.inr (Or.inl ⟨recipe, rfl, rfl, rfl⟩)
  | handleSync index =>
      obtain ⟨saved, found, ids, edits⟩ := step_handleSync taken
      exact Or.inr (Or.inr (Or.inl ⟨index, saved, rfl, found, ids, edits⟩))
  | runTask =>
      refine Or.inr (Or.inr (Or.inr ⟨fun _ other => (by cases other), ?_⟩))
      simp only [step] at taken
      split at taken <;> cases taken
      exact ⟨rfl, rfl⟩
  | deliver succeeds =>
      refine Or.inr (Or.inr (Or.inr ⟨fun _ other => (by cases other), ?_⟩))
      simp only [step] at taken
      split at taken <;> cases taken
      exact ⟨rfl, rfl⟩
  | answerSync index =>
      refine Or.inr (Or.inr (Or.inr ⟨fun _ other => (by cases other), ?_⟩))
      simp only [step] at taken
      split at taken <;> cases taken
      exact ⟨rfl, rfl⟩
  | failSync index =>
      refine Or.inr (Or.inr (Or.inr ⟨fun _ other => (by cases other), ?_⟩))
      simp only [step, syncFavoritesAnswered] at taken
      split at taken
      · rename_i same
        cases same
        cases taken
        exact ⟨rfl, rfl⟩
      · cases taken
  | restart =>
      cases taken
      exact Or.inr (Or.inr (Or.inr ⟨fun _ other => (by cases other), rfl, rfl⟩))
  | syncFavorites =>
      cases taken
      exact Or.inr (Or.inr (Or.inr ⟨fun _ other => (by cases other), rfl, rfl⟩))

end World

/-! ### Edits and synchronizations -/

/-- An id whose last edit was an add is stored; one whose last edit was a remove
is not. -/
def EditsKept (world : World) : Prop :=
  ∀ id added, lastOn id world.edits = some added →
    (id ∈ favoriteIds world.defaults ↔ added = true)

/-- A list that is handled shows the last edit of every edited id. -/
def HandlesUpToDate (world : World) (action : Action) : Prop :=
  ∀ index saved, action = .handleSync index → world.syncs[index]? = some (some saved) →
    ∀ id added, lastOn id world.edits = some added → (id ∈ saved ↔ added = true)

private theorem editsKept_snoc {world next : World} {edit : Edit Int64} (kept : EditsKept world)
    (stored : ∀ id, id ∈ favoriteIds next.defaults ↔
      id ∈ edit.apply {other | other ∈ favoriteIds world.defaults})
    (made : next.edits = world.edits ++ [edit]) : EditsKept next := by
  intro id added last
  rw [made, lastOn_snoc] at last
  rw [stored, mem_apply_iff]
  by_cases same : edit.key = id
  · rw [if_pos same] at last
    rw [Option.some.inj last]
    simp [same]
  · rw [if_neg same] at last
    have before := kept id added last
    simp [same, before]

private theorem editsKept_step {catalogue : Int64 → Fields} {world next : World} {action : Action}
    (kept : EditsKept world) (taken : world.step catalogue action = some next) :
    EditsKept next ↔ HandlesUpToDate world action := by
  rcases World.step_cases taken with
    ⟨recipe, rfl, stored, made⟩ | ⟨recipe, rfl, stored, made⟩ |
      ⟨index, saved, rfl, found, ids, same⟩ | ⟨other, stored, same⟩
  · refine iff_of_true (editsKept_snoc kept (fun id => ?_) made) ?_
    · rw [stored]
      exact mem_favoriteIds_add recipe world.defaults id
    · intro _ _ other
      cases other
  · refine iff_of_true (editsKept_snoc kept (fun id => ?_) made) ?_
    · rw [stored]
      exact mem_favoriteIds_remove recipe world.defaults id
    · intro _ _ other
      cases other
  · unfold EditsKept
    rw [ids, same]
    constructor
    · intro shown index' saved' sameAction found'
      cases sameAction
      rw [found] at found'
      cases found'
      exact shown
    · intro upToDate
      exact upToDate index saved rfl found
  · refine iff_of_true ?_ fun index _ impossible => absurd impossible (other index)
    unfold EditsKept
    rw [stored, same]
    exact kept

/-- From any stored list and any saved list, every edit survives the whole run
exactly when every list that is handled shows the edits made by then. -/
theorem editsKept_throughout_iff (catalogue : Int64 → Fields) (defaults : UserDefaults)
    (saved : List Int64) (actions : List Action) :
    Throughout (World.step catalogue) EditsKept (.start defaults saved) actions ↔
      EachStep (World.step catalogue) HandlesUpToDate (.start defaults saved) actions := by
  refine throughout_iff_eachStep (fun _ => True) ?_ ?_
    (eachStep_of_forall (fun _ _ => trivial) _ actions) trivial ?_
  · intro _ _ _ _ _
    trivial
  · intro world action next _ kept _ taken
    exact editsKept_step kept taken
  · intro id added impossible
    cases impossible

/-- The list is requested and answered, a recipe is added, and the answer is handled:
the recipe is gone. -/
theorem not_editsKept_sync_overtaken :
    ¬ ∀ (catalogue : Int64 → Fields) (defaults : UserDefaults) (saved : List Int64)
      (actions : List Action),
      Throughout (World.step catalogue) EditsKept (.start defaults saved) actions := by
  intro always
  have kept := (throughout_iff_prefixes _ _).mp
    (always (fun _ => []) ⟨some "access", some "refresh", none⟩ []
      [.syncFavorites, .answerSync 0, .addToFavorites (.titled 1 "Plov"), .handleSync 0])
    _ (List.prefix_refl _) _ rfl
  have stored : (1 : Int64) ∈ favoriteIds _ := (kept 1 true rfl).mpr rfl
  exact absurd stored (by decide)

end SmartMeal.SyncEdits
