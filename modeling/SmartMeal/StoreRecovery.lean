/-
When stored elements are lost over the life of an installation.

A stored element that does not decode empties the list that is read, and the next edit
writes that list back.  Whatever has been written once decodes, in every later process as
well, so only the first write after the installation was handed its store can lose elements,
and whether it does can be read off that store.
-/

import SmartMeal.FavoritesProcess
import SmartMeal.StoredElements

namespace SmartMeal.StoreRecovery

open PartialStep Codable FavoritesProcess StoredElements

/-- A process may end at any time, and the next one finds what it has stored. -/
inductive Action where
  | event (event : Event)
  | relaunch

def step : Transition Process Action
  | process, .event event => process.step event
  | process, .relaunch => some (.launch process.defaults)

def writes : Action → Bool
  | .event (.addToFavorites _) => true
  | .event (.removeFromFavorites _) => true
  | .event (.syncAnswered _ answer) => (loaded answer).isSome
  | _ => false

def Readable (defaults : UserDefaults) : Prop :=
  ∀ element ∈ storedElements defaults, (Recipe.decode element).isSome

variable {process next reached : Process}

/-! ### One step -/

private theorem readable_saveFavorites (recipes : List Recipe) (defaults : UserDefaults) :
    Readable (saveFavorites recipes defaults) := by
  intro element member
  change element ∈ recipes.map Recipe.encode at member
  obtain ⟨recipe, _, rfl⟩ := List.mem_map.mp member
  rw [Recipe.decode_encode]
  rfl

private theorem storedElements_congr {left right : UserDefaults}
    (same : left.favoriteRecipes = right.favoriteRecipes) :
    storedElements left = storedElements right := by
  unfold storedElements
  rw [same]

private theorem syncAnswered_cases {index : Nat} {answer : Option Data}
    (taken : process.step (.syncAnswered index answer) = some next) :
    (∃ recipes, loaded answer = some recipes ∧
        next.defaults = saveFavorites recipes process.defaults) ∨
      (loaded answer = none ∧ next.defaults = process.defaults) := by
  obtain ⟨_, _, handled, _⟩ := Process.step_syncAnswered taken
  have result := syncFavoritesAnswered_eq process.defaults (not_traps_of_handled handled)
  rw [handled] at result
  cases brought : loaded answer with
  | some recipes =>
      rw [brought] at result
      exact Or.inl ⟨recipes, rfl, Option.some.inj result⟩
  | none =>
      rw [brought] at result
      exact Or.inr ⟨rfl, Option.some.inj result⟩

private theorem readable_of_writes {action : Action} (written : writes action = true)
    (taken : step process action = some next) : Readable next.defaults := by
  cases action with
  | relaunch => cases written
  | event event =>
      cases event with
      | addToFavorites recipe => cases taken; exact readable_saveFavorites _ process.defaults
      | removeFromFavorites recipe => cases taken; exact readable_saveFavorites _ process.defaults
      | syncAnswered index answer =>
          rcases syncAnswered_cases taken with ⟨recipes, _, stored⟩ | ⟨nothing, _⟩
          · rw [stored]
            exact readable_saveFavorites recipes process.defaults
          · change (loaded answer).isSome = true at written
            rw [nothing] at written
            cases written
      | _ => cases written

private theorem storedElements_of_not_writes {action : Action} (silent : writes action = false)
    (taken : step process action = some next) :
    storedElements next.defaults = storedElements process.defaults := by
  cases action with
  | relaunch => cases taken; rfl
  | event event =>
      cases event with
      | addToFavorites recipe => cases silent
      | removeFromFavorites recipe => cases silent
      | syncAnswered index answer =>
          rcases syncAnswered_cases taken with ⟨recipes, brought, _⟩ | ⟨_, stored⟩
          · change (loaded answer).isSome = false at silent
            rw [brought] at silent
            cases silent
          · rw [stored]
      | _ => cases taken; exact storedElements_congr rfl

private theorem readable_step {action : Action} (readable : Readable process.defaults)
    (taken : step process action = some next) : Readable next.defaults := by
  cases written : writes action with
  | true => exact readable_of_writes written taken
  | false =>
      unfold Readable
      rw [storedElements_of_not_writes written taken]
      exact readable

/-! ### Whole lives -/

theorem readable_run {actions : List Action} (readable : Readable process.defaults)
    (arrived : run step process actions = some reached) : Readable reached.defaults :=
  run_invariant (fun later : Process => Readable later.defaults)
    (fun _ _ _ here taken => readable_step here taken) readable arrived

private theorem readable_after_write {actions : List Action}
    (written : ∃ action ∈ actions, writes action = true)
    (arrived : run step process actions = some reached) : Readable reached.defaults := by
  induction actions generalizing process with
  | nil =>
      obtain ⟨_, impossible, _⟩ := written
      cases impossible
  | cons action rest ih =>
      cases taken : step process action with
      | none => rw [run_cons, taken] at arrived; cases arrived
      | some middle =>
          rw [run_cons_of_step rest taken] at arrived
          rw [List.exists_mem_cons_iff] at written
          rcases written with here | later
          · exact readable_run (readable_of_writes here taken) arrived
          · exact ih later arrived

private theorem storedElements_before_write {actions : List Action}
    (silent : ¬ ∃ action ∈ actions, writes action = true)
    (arrived : run step process actions = some reached) :
    storedElements reached.defaults = storedElements process.defaults := by
  have unwritten : ∀ action ∈ actions, writes action = false := by
    intro action member
    rw [← Bool.not_eq_true]
    exact fun written => silent ⟨action, member, written⟩
  refine run_invariant_of_allowed
    (fun later : Process => storedElements later.defaults = storedElements process.defaults)
    ?_ rfl unwritten arrived
  intro later action next kept allowed taken
  exact (storedElements_of_not_writes allowed taken).trans kept

/-- What an edit does to the other elements, in a state of which only the store matters. -/
private theorem keepsOthers_edit_iff {recipe : Recipe} {edit : Event}
    (edits : edit = .addToFavorites recipe ∨ edit = .removeFromFavorites recipe)
    (taken : step process (.event edit) = some next) :
    KeepsOthers recipe process.defaults next.defaults ↔
      Readable process.defaults ∨
        ∀ element ∈ storedElements process.defaults, elementId element = some recipe.id := by
  rcases edits with rfl | rfl
  · cases taken
    apply keepsOthers_saveFavorites_iff
    · exact List.filter_sublist.trans (List.sublist_append_left _ _)
    · intro empty stored member
      rw [empty] at member
      exact List.mem_singleton.mp member
  · cases taken
    apply keepsOthers_saveFavorites_iff
    · exact List.Sublist.refl _
    · intro empty stored member
      rw [empty] at member
      cases member

/-- After any run over the processes of an installation, with synchronizations, accounts and
restarts, an edit keeps the stored elements with another id exactly when the list has been
written before, or every element the installation was handed decodes or has the edited id.
So at most one edit of a life loses elements, and what is written stays readable. -/
theorem edit_keepsOthers_iff (defaults : UserDefaults) (recipe : Recipe) (edit : Event)
    (before : List Action) (process next : Process)
    (edits : edit = .addToFavorites recipe ∨ edit = .removeFromFavorites recipe)
    (arrived : run step (.launch defaults) before = some process)
    (taken : step process (.event edit) = some next) :
    Readable next.defaults ∧
      (KeepsOthers recipe process.defaults next.defaults ↔
        (∃ action ∈ before, writes action = true) ∨
          (∀ element ∈ storedElements defaults, (Recipe.decode element).isSome) ∨
            ∀ element ∈ storedElements defaults, elementId element = some recipe.id) := by
  have written : writes (.event edit) = true := by
    rcases edits with rfl | rfl <;> rfl
  refine ⟨readable_of_writes written taken, ?_⟩
  rw [keepsOthers_edit_iff edits taken]
  by_cases earlier : ∃ action ∈ before, writes action = true
  · exact iff_of_true (Or.inl (readable_after_write earlier arrived)) (Or.inl earlier)
  · have stored : storedElements process.defaults = storedElements defaults :=
      storedElements_before_write earlier arrived
    unfold Readable
    rw [stored, or_iff_right earlier]

/-- An element without its steps: the first removal loses it, after a sign-out and a
restart. -/
def unreadable : UserDefaults :=
  ⟨none, none, some ⟨some (.array [.object [("id", .number 1), ("title", .string "Plov")]])⟩⟩

theorem edit_keepsOthers_unreadable :
    ∃ process next, run step (.launch unreadable) [.event .signOut, .relaunch] = some process ∧
      step process (.event (.removeFromFavorites (.titled 2 "Laghman"))) = some next ∧
        ¬ KeepsOthers (.titled 2 "Laghman") process.defaults next.defaults := by
  obtain ⟨process, next, arrived, taken⟩ : ∃ process next,
      run step (.launch unreadable) [.event .signOut, .relaunch] = some process ∧
      step process (.event (.removeFromFavorites (.titled 2 "Laghman"))) = some next :=
    ⟨_, _, rfl, rfl⟩
  have law := (edit_keepsOthers_iff unreadable (.titled 2 "Laghman") _
    [.event .signOut, .relaunch] process next (Or.inr rfl) arrived taken).2
  refine ⟨process, next, arrived, taken, ?_⟩
  rw [law]
  decide

end SmartMeal.StoreRecovery
