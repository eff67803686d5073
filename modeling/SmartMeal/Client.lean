/-
The running app as a transition system.

The state holds the stored keys, the spawned tasks that have not run yet, the
data tasks in flight and the removals queued on the main queue.  A step is an
event of the user, of the network or of a queue, and every step computes its next
state with the functions of the source.  Steps may interleave in any order; the
server may accept a write at any moment before it answers it.

The fields after `removals` are history: the app never reads them.
-/

import SmartMeal.Authorization
import SmartMeal.FavoritesManager
import SmartMeal.Library.Run

namespace SmartMeal

open PartialStep

variable {Caller : Type}

/-- A spawned task, with the access token that was delivered by the login under
which the user made the edit. -/
structure Write where
  task : FavoriteTask
  tapped : Option String

def FavoriteTask.recipe : FavoriteTask → Recipe
  | .saveFavorite recipe => recipe
  | .removeFavorite recipe => recipe

def FavoriteTask.method : FavoriteTask → String
  | .saveFavorite _ => "POST"
  | .removeFavorite _ => "DELETE"

/-- The arguments with which `saveFavorite` and `removeFavorite` call
`performAuthorizedRequest`. -/
def Write.call (write : Write) : AuthorizedCall Write :=
  { url := savedRecipesURL
    method := write.task.method
    body := some ⟨some (.object [("recipe_id", Codable.encodeInt write.task.recipe.id)])⟩
    completion := write }

structure Flight (Caller : Type) where
  task : DataTask Caller Write
  accepted : Bool

/-- The answered request that queued a removal; absent when no request did. -/
abbrev Origin := Option (URLRequest × TaskResult)

structure Client (Caller : Type) where
  defaults : UserDefaults
  spawned : List Write
  inFlight : List (Flight Caller)
  removals : List Origin
  login : Option String
  issued : List Write
  accepted : List (Write × URLRequest)
  refused : List String

namespace Client

inductive Action (Caller : Type) where
  | saveToken (access refresh : String)
  | signOut
  | validateToken (caller : Caller)
  | refreshAccessToken (caller : Caller)
  | addToFavorites (recipe : Recipe)
  | removeFromFavorites (recipe : Recipe)
  | runTask (index : Nat)
  | accept (index : Nat)
  | answer (index : Nat) (result : TaskResult)
  | removeTokens

/-- A launch with nothing pending; the stored access token, if any, was delivered
by the login of an earlier run. -/
def launch (defaults : UserDefaults) : Client Caller :=
  { defaults := defaults, spawned := [], inFlight := [], removals := [],
    login := defaults.authToken, issued := [], accepted := [], refused := [] }

def perform (client : Client Caller) (origin : Origin) (outcome : Outcome Caller Write) :
    Client Caller :=
  { client with
    defaults := outcome.1
    inFlight := client.inFlight ++ (resumed outcome.2).map fun task => ⟨task, false⟩
    removals := client.removals ++ (queuedRemovals outcome.2).map fun _ => origin }

def spawnedTasks (effects : List FavoritesEffect) : List FavoriteTask :=
  effects.filterMap fun effect =>
    match effect with
    | .task spawned => some spawned
    | _ => none

def edit (client : Client Caller) (edited : UserDefaults × List FavoritesEffect) :
    Client Caller :=
  let writes := (spawnedTasks edited.2).map fun task => ⟨task, client.login⟩
  { client with
    defaults := edited.1
    spawned := client.spawned ++ writes
    issued := client.issued ++ writes }

def refusedRefresh (task : DataTask Caller Write) (result : TaskResult) : List String :=
  match task.handler with
  | .refreshAccessToken _ =>
      if result.statusCode = some 401 then (sentRefreshToken task.request).toList else []
  | _ => []

def deliver (client : Client Caller) (index : Nat) (task : DataTask Caller Write)
    (result : TaskResult) : Client Caller :=
  { client with
    inFlight := client.inFlight.eraseIdx index
    refused := client.refused ++ refusedRefresh task result }.perform
      (some (task.request, result)) (task.answered result client.defaults)

def step : Transition (Client Caller) (Action Caller)
  | client, .saveToken access refresh =>
      some { client with
        defaults := saveToken access refresh client.defaults, login := some access }
  | client, .signOut =>
      some { client with defaults := removeTokens client.defaults, login := none }
  | client, .validateToken caller =>
      some (client.perform none (validateToken caller client.defaults))
  | client, .refreshAccessToken caller =>
      some (client.perform none (refreshAccessToken (.validateToken caller) client.defaults))
  | client, .addToFavorites recipe => some (client.edit (addToFavorites recipe client.defaults))
  | client, .removeFromFavorites recipe =>
      some (client.edit (removeFromFavorites recipe client.defaults))
  | client, .runTask index =>
      match client.spawned[index]? with
      | none => none
      | some write =>
          some ({ client with spawned := client.spawned.eraseIdx index }.perform none
            (performAuthorizedRequest write.call client.defaults))
  | client, .accept index =>
      match client.inFlight[index]? with
      | some ⟨⟨request, .performAuthorizedRequest call⟩, false⟩ =>
          some { client with
            inFlight := client.inFlight.set index
              ⟨⟨request, .performAuthorizedRequest call⟩, true⟩
            accepted := client.accepted ++ [(call.completion, request)] }
      | _ => none
  | client, .answer index result =>
      match client.inFlight[index]? with
      | none => none
      | some flight =>
          -- A server that has accepted a write does not answer it with a 401.
          if flight.accepted = true ∧ result.statusCode = some 401 then none
          else some (client.deliver index flight.task result)
  | client, .removeTokens =>
      match client.removals with
      | [] => none
      | _ :: rest =>
          some { client with
            defaults := removeTokens client.defaults, removals := rest, login := none }

variable {client next : Client Caller}

theorem step_runTask {index : Nat} (taken : step client (.runTask index) = some next) :
    ∃ write, client.spawned[index]? = some write ∧
      next = { client with spawned := client.spawned.eraseIdx index }.perform none
        (performAuthorizedRequest write.call client.defaults) := by
  cases found : client.spawned[index]? with
  | none => simp only [step, found] at taken; cases taken
  | some write =>
      simp only [step, found] at taken
      exact ⟨write, rfl, (Option.some.inj taken).symm⟩

theorem step_accept {index : Nat} (taken : step client (.accept index) = some next) :
    ∃ request call, client.inFlight[index]? =
        some ⟨⟨request, .performAuthorizedRequest call⟩, false⟩ ∧
      next = { client with
        inFlight := client.inFlight.set index ⟨⟨request, .performAuthorizedRequest call⟩, true⟩
        accepted := client.accepted ++ [(call.completion, request)] } := by
  simp only [step] at taken
  split at taken
  · rename_i request call found
    exact ⟨request, call, found, (Option.some.inj taken).symm⟩
  · cases taken

theorem step_answer {index : Nat} {result : TaskResult}
    (taken : step client (.answer index result) = some next) :
    ∃ flight, client.inFlight[index]? = some flight ∧
      ¬(flight.accepted = true ∧ result.statusCode = some 401) ∧
      next = client.deliver index flight.task result := by
  cases found : client.inFlight[index]? with
  | none => simp only [step, found] at taken; cases taken
  | some flight =>
      simp only [step, found] at taken
      split at taken
      · cases taken
      · rename_i answerable
        exact ⟨flight, rfl, answerable, (Option.some.inj taken).symm⟩

theorem step_removeTokens (taken : step client .removeTokens = some next) :
    ∃ origin rest, client.removals = origin :: rest ∧
      next = { client with
        defaults := SmartMeal.removeTokens client.defaults, removals := rest, login := none } := by
  cases found : client.removals with
  | nil => simp only [step, found] at taken; cases taken
  | cons origin rest =>
      simp only [step, found] at taken
      exact ⟨origin, rest, rfl, (Option.some.inj taken).symm⟩

private theorem mem_inFlight_deliver {index : Nat} {task : DataTask Caller Write}
    {result : TaskResult}
    {flight : Flight Caller} (member : flight ∈ (client.deliver index task result).inFlight) :
    flight ∈ client.inFlight ∨
      ∃ started ∈ resumed (task.answered result client.defaults).2,
        flight = ⟨started, false⟩ := by
  rcases List.mem_append.mp member with kept | started
  · exact Or.inl (List.mem_of_mem_eraseIdx kept)
  · obtain ⟨task, resumes, same⟩ := List.mem_map.mp started
    exact Or.inr ⟨task, resumes, same.symm⟩

theorem mem_removals_deliver {index : Nat} {task : DataTask Caller Write} {result : TaskResult}
    {origin : Origin} (member : origin ∈ (client.deliver index task result).removals) :
    origin ∈ client.removals ∨
      (origin = some (task.request, result) ∧
        queuedRemovals (task.answered result client.defaults).2 ≠ []) := by
  rcases List.mem_append.mp member with kept | queued
  · exact Or.inl kept
  · obtain ⟨effect, present, same⟩ := List.mem_map.mp queued
    refine Or.inr ⟨same.symm, ?_⟩
    exact List.ne_nil_of_mem present

/-! ### What a step does to the tokens -/

def grant (client : Client Caller) : Action Caller → Option (URLRequest × String)
  | .answer index result =>
      (client.inFlight[index]?).bind fun flight =>
        match flight.task.handler with
        | .refreshAccessToken _ =>
            (grantedAccessToken result).map fun token => (flight.task.request, token)
        | _ => none
  | _ => none

theorem grant_answer {index : Nat} {result : TaskResult} {flight : Flight Caller}
    (found : client.inFlight[index]? = some flight) :
    grant client (.answer index result) =
      match flight.task.handler with
      | .refreshAccessToken _ =>
          (grantedAccessToken result).map fun token => (flight.task.request, token)
      | _ => none := by
  simp only [grant, found, Option.bind_some]

theorem deliver_defaults {index : Nat} (result : TaskResult) {flight : Flight Caller}
    (found : client.inFlight[index]? = some flight) :
    (client.deliver index flight.task result).defaults =
      match grant client (.answer index result) with
      | some (_, token) => { client.defaults with authToken := some token }
      | none => client.defaults := by
  rw [grant_answer found]
  change (flight.task.answered result client.defaults).1 = _
  rcases flight with ⟨⟨request, handler⟩, accepted⟩
  cases handler with
  | refreshAccessToken completion =>
      simp only [DataTask.answered, refreshAccessTokenAnswered_eq]
      cases granted : grantedAccessToken result <;> simp
  | validateToken caller => simp [DataTask.answered]
  | performAuthorizedRequest call => simp [DataTask.answered]

/-- A step stores a fresh pair, removes both tokens, stores a granted access token,
or leaves both tokens as they are. -/
theorem step_tokens {action : Action Caller} (taken : step client action = some next) :
    (∃ access refresh, action = .saveToken access refresh ∧
        next.defaults = SmartMeal.saveToken access refresh client.defaults) ∨
    ((action = .signOut ∨ action = .removeTokens) ∧
        next.defaults = SmartMeal.removeTokens client.defaults) ∨
    (∃ request token, grant client action = some (request, token) ∧
        next.defaults = { client.defaults with authToken := some token }) ∨
    (grant client action = none ∧ next.defaults.authToken = client.defaults.authToken ∧
        next.defaults.refreshToken = client.defaults.refreshToken) := by
  cases action with
  | saveToken access refresh =>
      cases taken
      exact Or.inl ⟨access, refresh, rfl, rfl⟩
  | signOut =>
      cases taken
      exact Or.inr (Or.inl ⟨Or.inl rfl, rfl⟩)
  | removeTokens =>
      obtain ⟨origin, rest, _, rfl⟩ := step_removeTokens taken
      exact Or.inr (Or.inl ⟨Or.inr rfl, rfl⟩)
  | answer index result =>
      obtain ⟨flight, found, _, rfl⟩ := step_answer taken
      have changed := deliver_defaults result found
      cases granted : grant client (.answer index result) with
      | none =>
          rw [granted] at changed
          exact Or.inr (Or.inr (Or.inr ⟨rfl, by rw [changed], by rw [changed]⟩))
      | some pair =>
          rw [granted] at changed
          exact Or.inr (Or.inr (Or.inl ⟨pair.1, pair.2, rfl, changed⟩))
  | validateToken caller =>
      cases taken
      exact Or.inr (Or.inr (Or.inr ⟨rfl, by simp [perform], by simp [perform]⟩))
  | refreshAccessToken caller =>
      cases taken
      exact Or.inr (Or.inr (Or.inr ⟨rfl, by simp [perform], by simp [perform]⟩))
  | addToFavorites recipe =>
      cases taken
      exact Or.inr (Or.inr (Or.inr ⟨rfl, rfl, rfl⟩))
  | removeFromFavorites recipe =>
      cases taken
      exact Or.inr (Or.inr (Or.inr ⟨rfl, rfl, rfl⟩))
  | runTask index =>
      obtain ⟨write, _, rfl⟩ := step_runTask taken
      exact Or.inr (Or.inr (Or.inr ⟨rfl, by simp [perform], by simp [perform]⟩))
  | accept index =>
      obtain ⟨request, call, _, rfl⟩ := step_accept taken
      exact Or.inr (Or.inr (Or.inr ⟨rfl, rfl, rfl⟩))

/-! ### Properties of the tasks in flight -/

/-- What holds of every task in flight still does after a step, when it holds of
the tasks that the step starts. -/
theorem inFlight_step (holds : DataTask Caller Write → Prop) {action : Action Caller}
    (waiting : ∀ flight ∈ client.inFlight, holds flight.task)
    (validating : ∀ caller token, action = .validateToken caller →
      client.defaults.authToken = some token → holds ⟨meRequest token, .validateToken caller⟩)
    (refreshing : ∀ caller sent, action = .refreshAccessToken caller →
      client.defaults.refreshToken = some sent →
      holds ⟨refreshRequest sent, .refreshAccessToken (.validateToken caller)⟩)
    (writing : ∀ index write token, action = .runTask index →
      client.spawned[index]? = some write → client.defaults.authToken = some token →
      holds ⟨authorizedRequest token write.call, .performAuthorizedRequest write.call⟩)
    (answering : ∀ index result flight started, action = .answer index result →
      client.inFlight[index]? = some flight →
      started ∈ resumed (flight.task.answered result client.defaults).2 → holds started)
    (taken : step client action = some next) : ∀ flight ∈ next.inFlight, holds flight.task := by
  cases action with
  | saveToken access refresh => cases taken; exact waiting
  | signOut => cases taken; exact waiting
  | addToFavorites recipe => cases taken; exact waiting
  | removeFromFavorites recipe => cases taken; exact waiting
  | removeTokens =>
      obtain ⟨origin, rest, _, rfl⟩ := step_removeTokens taken
      exact waiting
  | validateToken caller =>
      cases taken
      intro flight member
      rcases List.mem_append.mp member with kept | started
      · exact waiting flight kept
      · rw [resumed_validateToken, List.map_map] at started
        obtain ⟨token, stored, rfl⟩ := List.mem_map.mp started
        exact validating caller token rfl (Option.mem_toList.mp stored)
  | refreshAccessToken caller =>
      cases taken
      intro flight member
      rcases List.mem_append.mp member with kept | started
      · exact waiting flight kept
      · rw [resumed_refreshAccessToken, List.map_map] at started
        obtain ⟨sent, stored, rfl⟩ := List.mem_map.mp started
        exact refreshing caller sent rfl (Option.mem_toList.mp stored)
  | runTask index =>
      obtain ⟨write, found, rfl⟩ := step_runTask taken
      intro flight member
      rcases List.mem_append.mp member with kept | started
      · exact waiting flight kept
      · rw [resumed_performAuthorizedRequest, List.map_map] at started
        obtain ⟨token, stored, rfl⟩ := List.mem_map.mp started
        exact writing index write token rfl found (Option.mem_toList.mp stored)
  | accept index =>
      obtain ⟨request, call, found, rfl⟩ := step_accept taken
      intro flight member
      rcases List.mem_or_eq_of_mem_set member with kept | rfl
      · exact waiting flight kept
      · exact waiting ⟨⟨request, .performAuthorizedRequest call⟩, false⟩
          (List.mem_of_getElem? found)
  | answer index result =>
      obtain ⟨flight, found, _, rfl⟩ := step_answer taken
      intro other member
      rcases mem_inFlight_deliver member with kept | ⟨started, resumes, rfl⟩
      · exact waiting other kept
      · exact answering index result flight started rfl found resumes

def RefreshesCarryTokens (client : Client Caller) : Prop :=
  ∀ flight ∈ client.inFlight, ∀ completion,
    flight.task.handler = .refreshAccessToken completion →
      ∃ sent, flight.task.request = refreshRequest sent

theorem refreshesCarryTokens_step {action : Action Caller} (carried : RefreshesCarryTokens client)
    (taken : step client action = some next) : RefreshesCarryTokens next := by
  refine inFlight_step (fun task => ∀ completion,
    task.handler = .refreshAccessToken completion → ∃ sent, task.request = refreshRequest sent)
    carried ?_ ?_ ?_ ?_ taken
  · intro caller token _ _ completion hHandler
    cases hHandler
  · intro caller sent _ _ completion _
    exact ⟨sent, rfl⟩
  · intro index write token _ _ _ completion hHandler
    cases hHandler
  · intro index result flight started _ _ resumes completion hHandler
    rcases DataTask.mem_resumed resumes with
      ⟨sent, _, _, _, rfl, _⟩ | ⟨completed, token, _, _, rfl⟩
    · exact ⟨sent, rfl⟩
    · cases completed <;> cases hHandler

end Client

end SmartMeal
