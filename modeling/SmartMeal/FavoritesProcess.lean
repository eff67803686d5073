/-
The favorites of one running app.

The state is what the store depends on: the stored keys, and the requests for the
saved list that have not been answered.  The app asks for the saved list once in
a process, when the shared manager is first accessed; here it may ask at any time.
The tasks that an edit spawns never write the stored list and are left out.
-/

import SmartMeal.FavoritesManager
import SmartMeal.Library.Run

namespace SmartMeal.FavoritesProcess

open PartialStep

structure Process where
  defaults : UserDefaults
  syncing : List URLRequest

inductive Event where
  | saveToken (access refresh : String)
  | tokenRefreshed (access : String)
  | signOut
  | addToFavorites (recipe : Recipe)
  | removeFromFavorites (recipe : Recipe)
  | syncFavorites
  | syncAnswered (index : Nat) (answer : Option Data)

namespace Process

def launch (defaults : UserDefaults) : Process := ⟨defaults, []⟩

def step : Transition Process Event
  | process, .saveToken access refresh =>
      some { process with defaults := saveToken access refresh process.defaults }
  | process, .tokenRefreshed access =>
      some { process with defaults := { process.defaults with authToken := some access } }
  | process, .signOut => some { process with defaults := removeTokens process.defaults }
  | process, .addToFavorites recipe =>
      some { process with defaults := (addToFavorites recipe process.defaults).1 }
  | process, .removeFromFavorites recipe =>
      some { process with defaults := (removeFromFavorites recipe process.defaults).1 }
  | process, .syncFavorites =>
      some { process with
        syncing := process.syncing ++ (syncFavoritesRequest process.defaults).toList }
  | process, .syncAnswered index answer =>
      match process.syncing[index]?, syncFavoritesAnswered answer process.defaults with
      | some _, some defaults => some ⟨defaults, process.syncing.eraseIdx index⟩
      | _, _ => none

theorem step_syncAnswered {process next : Process} {index : Nat} {answer : Option Data}
    (taken : process.step (.syncAnswered index answer) = some next) :
    ∃ request, process.syncing[index]? = some request ∧
      syncFavoritesAnswered answer process.defaults = some next.defaults ∧
      next.syncing = process.syncing.eraseIdx index := by
  simp only [step] at taken
  split at taken
  · rename_i request defaults found handled
    cases taken
    exact ⟨request, found, handled, rfl⟩
  · cases taken

end Process

/-! ### The answer to a request for the saved list -/

def loaded (answer : Option Data) : Option (List Recipe) :=
  answer.bind fun body =>
    match decodeSaved body with
    | .loaded recipes => some recipes
    | _ => none

def traps (answer : Option Data) : Prop :=
  ∃ body, answer = some body ∧ decodeSaved body = .trapped

theorem syncFavoritesAnswered_eq {answer : Option Data} (defaults : UserDefaults)
    (decodes : ¬ traps answer) :
    syncFavoritesAnswered answer defaults =
      some (match loaded answer with
        | some recipes => saveFavorites recipes defaults
        | none => defaults) := by
  cases answer with
  | none => rfl
  | some body =>
      unfold syncFavoritesAnswered loaded
      simp only [Option.bind_some]
      cases decoded : decodeSaved body with
      | failed => rfl
      | loaded recipes => rfl
      | trapped => exact absurd ⟨body, rfl, decoded⟩ decodes

theorem not_traps_of_handled {answer : Option Data} {defaults next : UserDefaults}
    (handled : syncFavoritesAnswered answer defaults = some next) : ¬ traps answer := by
  rintro ⟨body, rfl, decoded⟩
  simp only [syncFavoritesAnswered, decoded] at handled
  cases handled

private theorem getFavorites_syncFavoritesAnswered {answer : Option Data}
    {defaults next : UserDefaults}
    (handled : syncFavoritesAnswered answer defaults = some next) :
    getFavorites next = (loaded answer).getD (getFavorites defaults) := by
  have result := syncFavoritesAnswered_eq defaults (not_traps_of_handled handled)
  rw [handled] at result
  rw [Option.some.inj result]
  cases loaded answer with
  | none => rfl
  | some recipes => exact getFavorites_saveFavorites recipes defaults

theorem syncFavoritesAnswered_tokens {answer : Option Data} {defaults next : UserDefaults}
    (handled : syncFavoritesAnswered answer defaults = some next) :
    next.authToken = defaults.authToken ∧ next.refreshToken = defaults.refreshToken := by
  have result := syncFavoritesAnswered_eq defaults (not_traps_of_handled handled)
  rw [handled] at result
  rw [Option.some.inj result]
  cases loaded answer <;> exact ⟨rfl, rfl⟩

/-! ### The stored list, without its encoding -/

def edited (favorites : List Recipe) : Event → List Recipe
  | .addToFavorites recipe => favorites ++ [recipe]
  | .removeFromFavorites recipe => favorites.filter fun stored => stored.id != recipe.id
  | .syncAnswered _ answer => (loaded answer).getD favorites
  | _ => favorites

private theorem getFavorites_step {process next : Process} {event : Event}
    (taken : process.step event = some next) :
    getFavorites next.defaults = edited (getFavorites process.defaults) event := by
  cases event with
  | addToFavorites recipe =>
      cases taken
      exact getFavorites_addToFavorites recipe process.defaults
  | removeFromFavorites recipe =>
      cases taken
      exact getFavorites_removeFromFavorites recipe process.defaults
  | syncAnswered index answer =>
      obtain ⟨_, _, handled, _⟩ := Process.step_syncAnswered taken
      exact getFavorites_syncFavoritesAnswered handled
  | _ => cases taken; rfl

theorem getFavorites_run {process reached : Process} {events : List Event}
    (arrived : run Process.step process events = some reached) :
    getFavorites reached.defaults = events.foldl edited (getFavorites process.defaults) := by
  refine run_refines (fun process favorites => getFavorites process.defaults = favorites) ?_
    (eachStep_of_forall (fun _ _ => trivial) process events) rfl arrived
  rintro process favorites event next rfl _ taken
  exact getFavorites_step taken

/-! ### Processes that differ in their lists only -/

structure Alike (left right : Process) : Prop where
  authToken : left.defaults.authToken = right.defaults.authToken
  refreshToken : left.defaults.refreshToken = right.defaults.refreshToken
  syncing : left.syncing = right.syncing

theorem Alike.refl (process : Process) : Alike process process := ⟨rfl, rfl, rfl⟩

theorem Alike.symm {left right : Process} (alike : Alike left right) : Alike right left :=
  ⟨alike.authToken.symm, alike.refreshToken.symm, alike.syncing.symm⟩

theorem Alike.trans {left middle right : Process} (first : Alike left middle)
    (second : Alike middle right) : Alike left right :=
  ⟨first.authToken.trans second.authToken, first.refreshToken.trans second.refreshToken,
    first.syncing.trans second.syncing⟩

/-- A step that one of two such processes takes, the other can take as well. -/
theorem alike_step {left right next : Process} {event : Event} (alike : Alike left right)
    (taken : left.step event = some next) :
    ∃ other, right.step event = some other ∧ Alike next other := by
  obtain ⟨auth, refresh, syncing⟩ := alike
  cases event with
  | syncAnswered index answer =>
      obtain ⟨request, found, handled, erased⟩ := Process.step_syncAnswered taken
      have answerable := not_traps_of_handled handled
      have tokens := syncFavoritesAnswered_tokens handled
      have handledRight := syncFavoritesAnswered_eq right.defaults answerable
      have tokensRight := syncFavoritesAnswered_tokens handledRight
      rw [syncing] at found
      refine ⟨_, by simp only [Process.step, found, handledRight]; rfl, ?_, ?_, ?_⟩
      · exact (tokens.1.trans auth).trans tokensRight.1.symm
      · exact (tokens.2.trans refresh).trans tokensRight.2.symm
      · rw [erased, syncing]
  | syncFavorites =>
      cases taken
      refine ⟨_, rfl, auth, refresh, ?_⟩
      simp only [syncFavoritesRequest, auth, syncing]
  | saveToken access refreshed => cases taken; exact ⟨_, rfl, rfl, rfl, syncing⟩
  | tokenRefreshed access => cases taken; exact ⟨_, rfl, rfl, refresh, syncing⟩
  | signOut => cases taken; exact ⟨_, rfl, rfl, rfl, syncing⟩
  | addToFavorites recipe => cases taken; exact ⟨_, rfl, auth, refresh, syncing⟩
  | removeFromFavorites recipe => cases taken; exact ⟨_, rfl, auth, refresh, syncing⟩

theorem alike_run {left right reached : Process} {events : List Event}
    (alike : Alike left right) (arrived : run Process.step left events = some reached) :
    ∃ other, run Process.step right events = some other ∧ Alike reached other := by
  induction events generalizing left right with
  | nil =>
      cases arrived
      exact ⟨right, rfl, alike⟩
  | cons event rest ih =>
      cases taken : left.step event with
      | none => rw [run_cons, taken] at arrived; cases arrived
      | some next =>
          rw [run_cons_of_step rest taken] at arrived
          obtain ⟨other, takenRight, alikeNext⟩ := alike_step alike taken
          rw [run_cons_of_step rest takenRight]
          exact ih alikeNext arrived

end SmartMeal.FavoritesProcess
