/-
The client and the synchronizing app, seen from the store.

Both run over the keys of one installation, with more around them: tasks, requests and
removals in the one, the saved list of the server in the other.  Forgetting what surrounds
the store turns every run of theirs into a life of the installation, so what holds of the
stored elements in all lives holds in their runs.
-/

import SmartMeal.Client
import SmartMeal.StoreRecovery
import SmartMeal.SyncEdits

namespace SmartMeal.StoreProjections

open PartialStep FavoritesProcess StoreRecovery
open SyncEdits hiding Action

variable {Caller : Type}

/-! ### The client -/

def clientMoves (client : Client Caller) : Client.Action Caller → List Action
  | .saveToken access refresh => [.event (.saveToken access refresh)]
  | .signOut => [.event .signOut]
  | .addToFavorites recipe => [.event (.addToFavorites recipe)]
  | .removeFromFavorites recipe => [.event (.removeFromFavorites recipe)]
  | .answer index result =>
      (client.grant (.answer index result)).toList.map fun granted =>
        .event (.tokenRefreshed granted.2)
  | .removeTokens => [.event .signOut]
  | _ => []

private theorem client_matched {client next : Client Caller} {process : Process}
    {action : Client.Action Caller} (shared : process.defaults = client.defaults)
    (taken : client.step action = some next) :
    ∃ after, run step process (clientMoves client action) = some after ∧
      after.defaults = next.defaults := by
  obtain ⟨defaults, syncing⟩ := process
  cases shared
  cases action with
  | saveToken access refresh => cases taken; exact ⟨_, rfl, rfl⟩
  | signOut => cases taken; exact ⟨_, rfl, rfl⟩
  | addToFavorites recipe => cases taken; exact ⟨_, rfl, rfl⟩
  | removeFromFavorites recipe => cases taken; exact ⟨_, rfl, rfl⟩
  | removeTokens =>
      obtain ⟨origin, rest, _, rfl⟩ := Client.step_removeTokens taken
      exact ⟨_, rfl, rfl⟩
  | validateToken caller =>
      cases taken
      exact ⟨_, rfl, by simp [Client.perform]⟩
  | refreshAccessToken caller =>
      cases taken
      exact ⟨_, rfl, by simp [Client.perform]⟩
  | runTask index =>
      obtain ⟨write, _, rfl⟩ := Client.step_runTask taken
      exact ⟨_, rfl, by simp [Client.perform]⟩
  | accept index =>
      obtain ⟨request, call, _, rfl⟩ := Client.step_accept taken
      exact ⟨_, rfl, rfl⟩
  | answer index result =>
      obtain ⟨flight, found, _, rfl⟩ := Client.step_answer taken
      have stored := Client.deliver_defaults result found
      simp only [clientMoves]
      cases granted : client.grant (.answer index result) with
      | none =>
          rw [granted] at stored
          refine ⟨_, rfl, ?_⟩
          rw [stored]
      | some pair =>
          rw [granted] at stored
          refine ⟨_, rfl, ?_⟩
          rw [stored]

/-- A run of the client is a life of the store it works on. -/
theorem client_projects {client reached : Client Caller} {actions : List (Client.Action Caller)}
    (arrived : run Client.step client actions = some reached) :
    ∃ process, run step (.launch client.defaults)
        (projected Client.step clientMoves client actions) = some process ∧
      process.defaults = reached.defaults :=
  run_projected (fun client (process : Process) => process.defaults = client.defaults)
    (fun _ _ _ _ shared taken => client_matched shared taken) rfl arrived

theorem readable_client {client reached : Client Caller} {actions : List (Client.Action Caller)}
    (readable : Readable client.defaults)
    (arrived : run Client.step client actions = some reached) : Readable reached.defaults := by
  obtain ⟨process, lived, same⟩ := client_projects arrived
  rw [← same]
  exact readable_run readable lived

/-! ### The synchronizing app -/

variable (catalogue : Int64 → Fields)

def worldMoves (world : World) : SyncEdits.Action → List Action
  | .addToFavorites recipe => [.event (.addToFavorites recipe)]
  | .removeFromFavorites recipe => [.event (.removeFromFavorites recipe)]
  | .restart => [.relaunch]
  | .syncFavorites => [.event .syncFavorites]
  | .failSync index => [.event (.syncAnswered index none)]
  | .handleSync index =>
      (world.syncs[index]?.join).toList.map fun saved =>
        .event (.syncAnswered index (some (savedBody catalogue saved)))
  | _ => []

/-- One store, and as many requests for the saved list under way. -/
structure Projects (world : World) (process : Process) : Prop where
  defaults : process.defaults = world.defaults
  syncing : process.syncing.length = world.syncs.length

private theorem syncAnswered_step {process : Process} {index : Nat} {answer : Option Data}
    {defaults : UserDefaults} (present : index < process.syncing.length)
    (handled : syncFavoritesAnswered answer process.defaults = some defaults) :
    step process (.event (.syncAnswered index answer)) =
      some ⟨defaults, process.syncing.eraseIdx index⟩ := by
  simp only [step, Process.step, List.getElem?_eq_getElem present, handled]

private theorem erased_syncing {world : World} {process : Process} {index : Nat}
    (projects : Projects world process) :
    (process.syncing.eraseIdx index).length = (world.syncs.eraseIdx index).length := by
  rw [List.length_eraseIdx, List.length_eraseIdx, projects.syncing]

variable {catalogue}

private theorem world_matched {world next : World} {process : Process}
    {action : SyncEdits.Action} (projects : Projects world process)
    (taken : world.step catalogue action = some next) :
    ∃ after, run step process (worldMoves catalogue world action) = some after ∧
      Projects next after := by
  cases action with
  | addToFavorites recipe =>
      cases taken
      exact ⟨_, rfl, by rw [projects.defaults], projects.syncing⟩
  | removeFromFavorites recipe =>
      cases taken
      exact ⟨_, rfl, by rw [projects.defaults], projects.syncing⟩
  | restart =>
      cases taken
      exact ⟨_, rfl, projects.defaults, rfl⟩
  | syncFavorites =>
      cases taken
      refine ⟨_, rfl, projects.defaults, ?_⟩
      rw [List.length_append, List.length_append, projects.syncing, projects.defaults,
        List.length_map]
  | runTask =>
      refine ⟨process, rfl, ?_⟩
      simp only [World.step] at taken
      split at taken <;> cases taken
      exact ⟨projects.defaults, projects.syncing⟩
  | deliver succeeds =>
      refine ⟨process, rfl, ?_⟩
      simp only [World.step] at taken
      split at taken <;> cases taken
      exact ⟨projects.defaults, projects.syncing⟩
  | answerSync index =>
      refine ⟨process, rfl, ?_⟩
      simp only [World.step] at taken
      split at taken <;> cases taken
      exact ⟨projects.defaults, by rw [projects.syncing, List.length_set]⟩
  | failSync index =>
      simp only [World.step] at taken
      split at taken
      · rename_i defaults found handled
        cases taken
        obtain ⟨present, _⟩ := List.getElem?_eq_some_iff.mp found
        rw [← projects.syncing] at present
        rw [← projects.defaults] at handled
        refine ⟨⟨defaults, process.syncing.eraseIdx index⟩, ?_, rfl, erased_syncing projects⟩
        exact run_cons_of_step [] (syncAnswered_step present handled)
      · cases taken
  | handleSync index =>
      simp only [World.step] at taken
      split at taken
      · rename_i saved found
        obtain ⟨defaults, handled, rfl⟩ := Option.map_eq_some_iff.mp taken
        obtain ⟨present, _⟩ := List.getElem?_eq_some_iff.mp found
        rw [← projects.syncing] at present
        rw [← projects.defaults] at handled
        refine ⟨⟨defaults, process.syncing.eraseIdx index⟩, ?_, rfl, erased_syncing projects⟩
        simp only [worldMoves, found]
        exact run_cons_of_step [] (syncAnswered_step present handled)
      · cases taken

/-- A run of the synchronizing app is a life of its store, with its restarts. -/
theorem world_projects {defaults : UserDefaults} {saved : List Int64} {reached : World}
    {actions : List SyncEdits.Action}
    (arrived : run (World.step catalogue) (.start defaults saved) actions = some reached) :
    ∃ process, run step (.launch defaults)
        (projected (World.step catalogue) (worldMoves catalogue) (.start defaults saved) actions) =
          some process ∧
      Projects reached process :=
  run_projected Projects (fun _ _ _ _ projects taken => world_matched projects taken)
    ⟨rfl, rfl⟩ arrived

theorem readable_world {defaults : UserDefaults} {saved : List Int64} {reached : World}
    {actions : List SyncEdits.Action} (readable : Readable defaults)
    (arrived : run (World.step catalogue) (.start defaults saved) actions = some reached) :
    Readable reached.defaults := by
  obtain ⟨process, lived, projects⟩ := world_projects arrived
  rw [← projects.defaults]
  exact readable_run readable lived

end SmartMeal.StoreProjections
