/-
That the writes come to an end once only expired tokens are refused.

A request that is refused may be repeated without end.  While the user does nothing, the
server refuses only expired access tokens and grants none of them, every event takes
something from what is left: a task is run once, an attempt is accepted once and answered
once, an expired attempt is refused once and refreshed once, and what a granted refresh
repeats is not refused again.  Such a run is therefore finite, and can always be continued
until every edit has been completed.
-/

import SmartMeal.EditDelivery
import SmartMeal.Library.Countdown

namespace SmartMeal.EditCompletion

open PartialStep Client EditDelivery

variable {Caller : Type} (expired : String → Bool)

def carriesExpired (request : URLRequest) : Bool := request.bearer.any expired

/-- A refusal is of an expired token, and a granted token is not expired. -/
def answersFairly (task : DataTask Caller Write) (result : TaskResult) : Bool :=
  match task.handler with
  | .refreshAccessToken _ => !(grantedAccessToken result).any expired
  | _ => result.statusCode != some 401 || carriesExpired expired task.request

/-- An event that is not of the user, and no answer that is not fair. -/
def quiet (client : Client Caller) : Client.Action Caller → Bool
  | .runTask _ => true
  | .accept _ => true
  | .removeTokens => true
  | .answer index result => (client.inFlight[index]?).any fun flight =>
      answersFairly expired flight.task result
  | _ => false

def quietStep : Transition (Deliveries Caller) (Client.Action Caller) :=
  fun deliveries action =>
    if quiet expired deliveries.client action then deliveries.step action else none

/-! ### What is left -/

/-- The events that a task in flight can still lead to. -/
def weight (flight : Flight Caller) : Nat :=
  match flight.task.handler with
  | .refreshAccessToken _ => 3
  | _ => if flight.accepted then 1 else if carriesExpired expired flight.task.request then 4 else 2

def weights (inFlight : List (Flight Caller)) : Nat := (inFlight.map (weight expired)).sum

def remaining (client : Client Caller) : Nat :=
  5 * client.spawned.length + weights expired client.inFlight + client.removals.length

private theorem weights_append (first second : List (Flight Caller)) :
    weights expired (first ++ second) = weights expired first + weights expired second := by
  unfold weights
  rw [List.map_append, List.sum_append]

private theorem weights_eraseIdx {inFlight : List (Flight Caller)} {index : Nat}
    {flight : Flight Caller}
    (found : inFlight[index]? = some flight) :
    weights expired inFlight = weight expired flight + weights expired (inFlight.eraseIdx index) := by
  obtain ⟨inside, same⟩ := List.getElem?_eq_some_iff.mp found
  have rearranged := (List.getElem_cons_eraseIdx_perm inside).symm.map (weight expired)
  unfold weights
  rw [rearranged.sum_nat, same, List.map_cons, List.sum_cons]

private theorem weights_set {inFlight : List (Flight Caller)} {index : Nat}
    (inside : index < inFlight.length) (flight : Flight Caller) :
    weights expired (inFlight.set index flight) =
      weight expired flight + weights expired (inFlight.eraseIdx index) := by
  have rearranged := (List.set_perm_cons_eraseIdx inside flight).map (weight expired)
  unfold weights
  rw [rearranged.sum_nat, List.map_cons, List.sum_cons]

private theorem weight_pos (flight : Flight Caller) : 0 < weight expired flight := by
  unfold weight
  split
  · omega
  · split
    · omega
    · split <;> omega

def begun (outcome : Outcome Caller Write) : Nat :=
  weights expired ((resumed outcome.2).map fun task => ⟨task, false⟩) +
    (queuedRemovals outcome.2).length

private theorem remaining_perform (client : Client Caller) (origin : Origin)
    (outcome : Outcome Caller Write) :
    remaining expired (client.perform origin outcome) =
      remaining expired client + begun expired outcome := by
  unfold remaining begun
  simp only [Client.perform, weights_append, List.length_append, List.length_map]
  omega

variable {expired}

private theorem weight_validateToken (caller : Caller) (token : String) :
    weight expired (⟨⟨meRequest token, .validateToken caller⟩, false⟩ : Flight Caller) =
      if expired token then 4 else 2 := rfl

private theorem weight_performAuthorizedRequest (call : AuthorizedCall Write) (token : String) :
    weight expired
        (⟨⟨authorizedRequest token call, .performAuthorizedRequest call⟩, false⟩ : Flight Caller) =
      if expired token then 4 else 2 := rfl

private theorem begun_validateToken (caller : Caller) (defaults : UserDefaults) :
    begun expired (validateToken caller defaults : Outcome Caller Write) ≤
      if defaults.authToken.any expired then 4 else 2 := by
  unfold validateToken
  cases defaults.authToken with
  | none => exact Nat.zero_le _
  | some token => exact Nat.le_of_eq (weight_validateToken caller token)

private theorem begun_performAuthorizedRequest (call : AuthorizedCall Write)
    (defaults : UserDefaults) :
    begun expired (performAuthorizedRequest call defaults : Outcome Caller Write) ≤
      if defaults.authToken.any expired then 4 else 2 := by
  unfold performAuthorizedRequest
  cases defaults.authToken with
  | none => exact Nat.zero_le _
  | some token => exact Nat.le_of_eq (weight_performAuthorizedRequest call token)

private theorem begun_call_false (completion : RefreshCompletion Caller Write)
    (defaults : UserDefaults) :
    begun expired (completion.call false defaults) ≤ 1 := by
  cases completion with
  | validateToken caller => exact Nat.le_refl 1
  | performAuthorizedRequest call response => exact Nat.zero_le 1

private theorem begun_call_true (completion : RefreshCompletion Caller Write)
    {defaults : UserDefaults}
    (fresh : defaults.authToken.any expired = false) :
    begun expired (completion.call true defaults) ≤ 2 := by
  cases completion with
  | validateToken caller =>
      have bounded := @begun_validateToken Caller expired caller defaults
      rw [fresh] at bounded
      exact bounded
  | performAuthorizedRequest call response =>
      have bounded := @begun_performAuthorizedRequest Caller expired call defaults
      rw [fresh] at bounded
      exact bounded

private theorem begun_refreshAccessToken (completion : RefreshCompletion Caller Write)
    (defaults : UserDefaults) : begun expired (refreshAccessToken completion defaults) ≤ 3 := by
  unfold refreshAccessToken
  cases defaults.refreshToken with
  | none => exact (begun_call_false completion defaults).trans (by omega)
  | some refreshToken => exact Nat.le_refl 3

private theorem begun_validateTokenAnswered (caller : Caller) (result : TaskResult)
    (defaults : UserDefaults) :
    begun expired (validateTokenAnswered caller result defaults : Outcome Caller Write) ≤
      if result.statusCode = some 401 then 3 else 0 := by
  unfold validateTokenAnswered
  split
  · rename_i statusCode status
    rw [status]
    split
    · exact Nat.zero_le _
    · split
      · rename_i refused
        rw [refused, if_pos rfl]
        exact begun_refreshAccessToken _ defaults
      · exact Nat.zero_le _
  · exact Nat.zero_le _

private theorem begun_performAuthorizedRequestAnswered (call : AuthorizedCall Write)
    (result : TaskResult) (defaults : UserDefaults) :
    begun expired (performAuthorizedRequestAnswered call result defaults : Outcome Caller Write) ≤
      if result.statusCode = some 401 then 3 else 0 := by
  unfold performAuthorizedRequestAnswered
  split
  · exact begun_refreshAccessToken _ defaults
  · exact Nat.zero_le _

/-- What a refusal can start is less than what the expired attempt was worth. -/
private theorem refused_lt_weight {flight : Flight Caller} {result : TaskResult}
    (attempt : ∀ completion, flight.task.handler ≠ .refreshAccessToken completion)
    (answerable : ¬(flight.accepted = true ∧ result.statusCode = some 401))
    (fair : answersFairly expired flight.task result = true) :
    (if result.statusCode = some 401 then 3 else 0) < weight expired flight := by
  by_cases refused : result.statusCode = some 401
  · have pending : flight.accepted = false :=
      Bool.eq_false_iff.mpr fun accepted => answerable ⟨accepted, refused⟩
    have stale : carriesExpired expired flight.task.request = true := by
      unfold answersFairly at fair
      split at fair
      · rename_i completion handler
        exact absurd handler (attempt completion)
      · simpa [refused] using fair
    have worth : weight expired flight = 4 := by
      unfold weight
      split
      · rename_i completion handler
        exact absurd handler (attempt completion)
      · simp [pending, stale]
    rw [if_pos refused, worth]
    omega
  · rw [if_neg refused]
    exact weight_pos expired flight

private theorem begun_answered {flight : Flight Caller} {result : TaskResult}
    (answerable : ¬(flight.accepted = true ∧ result.statusCode = some 401))
    (fair : answersFairly expired flight.task result = true) (defaults : UserDefaults) :
    begun expired (flight.task.answered result defaults) < weight expired flight := by
  rcases flight with ⟨⟨request, handler⟩, accepted⟩
  cases handler with
  | refreshAccessToken completion =>
      change begun expired (refreshAccessTokenAnswered completion result defaults) < 3
      rw [refreshAccessTokenAnswered_eq]
      cases granted : grantedAccessToken result with
      | none =>
          have bounded := @begun_call_false Caller expired completion defaults
          simp only
          omega
      | some token =>
          have fresh : expired token = false := by
            simpa [answersFairly, granted] using fair
          have bounded := @begun_call_true Caller expired completion
            { defaults with authToken := some token } fresh
          simp only
          omega
  | validateToken caller =>
      exact Nat.lt_of_le_of_lt (begun_validateTokenAnswered caller result defaults)
        (refused_lt_weight (fun _ impossible => by cases impossible) answerable fair)
  | performAuthorizedRequest call =>
      exact Nat.lt_of_le_of_lt (begun_performAuthorizedRequestAnswered call result defaults)
        (refused_lt_weight (fun _ impossible => by cases impossible) answerable fair)

/-! ### Quiet steps -/

variable {client after : Client Caller} {deliveries next : Deliveries Caller}

private theorem quietStep_eq_some {action : Client.Action Caller}
    (taken : quietStep expired deliveries action = some next) :
    quiet expired deliveries.client action = true ∧ deliveries.step action = some next := by
  unfold quietStep at taken
  cases still : quiet expired deliveries.client action with
  | false => rw [still] at taken; cases taken
  | true => rw [still] at taken; exact ⟨rfl, taken⟩

private theorem remaining_runTask {index : Nat}
    (taken : client.step (.runTask index) = some after) :
    remaining expired after < remaining expired client := by
  obtain ⟨write, found, rfl⟩ := step_runTask taken
  have inside := (List.getElem?_eq_some_iff.mp found).1
  have shorter := List.length_eraseIdx_of_lt inside
  have started := @begun_performAuthorizedRequest Caller expired write.call client.defaults
  have bounded : (if client.defaults.authToken.any expired then 4 else 2) ≤ 4 := by split <;> omega
  rw [remaining_perform]
  unfold remaining
  simp only
  omega

private theorem remaining_accept {index : Nat} (taken : client.step (.accept index) = some after) :
    remaining expired after < remaining expired client := by
  obtain ⟨request, call, found, rfl⟩ := step_accept taken
  have inside := (List.getElem?_eq_some_iff.mp found).1
  have before := weights_eraseIdx expired found
  have later := weights_set expired inside ⟨⟨request, .performAuthorizedRequest call⟩, true⟩
  have worth : 1 < weight expired
      (⟨⟨request, .performAuthorizedRequest call⟩, false⟩ : Flight Caller) := by
    change 1 < if carriesExpired expired request then 4 else 2
    split <;> omega
  change weights expired (client.inFlight.set index _) = 1 + _ at later
  unfold remaining
  simp only
  omega

private theorem remaining_answer {index : Nat} {result : TaskResult}
    (fair : quiet expired client (.answer index result) = true)
    (taken : client.step (.answer index result) = some after) :
    remaining expired after < remaining expired client := by
  obtain ⟨flight, found, answerable, rfl⟩ := step_answer taken
  change (client.inFlight[index]?).any _ = true at fair
  rw [found] at fair
  have before := weights_eraseIdx expired found
  have less : begun expired (flight.task.answered result client.defaults) <
      weight expired flight := begun_answered answerable fair client.defaults
  unfold Client.deliver
  rw [remaining_perform]
  unfold remaining
  simp only
  omega

private theorem remaining_removeTokens (taken : client.step .removeTokens = some after) :
    remaining expired after < remaining expired client := by
  obtain ⟨origin, rest, queued, rfl⟩ := step_removeTokens taken
  unfold remaining
  simp only [queued, List.length_cons]
  omega

private theorem remaining_quietStep {action : Client.Action Caller}
    (taken : quietStep expired deliveries action = some next) :
    remaining expired next.client < remaining expired deliveries.client := by
  obtain ⟨still, stepped⟩ := quietStep_eq_some taken
  obtain ⟨client, clientStepped, rfl⟩ := Option.map_eq_some_iff.mp stepped
  cases action with
  | runTask index => exact remaining_runTask clientStepped
  | accept index => exact remaining_accept clientStepped
  | removeTokens => exact remaining_removeTokens clientStepped
  | answer index result => exact remaining_answer still clientStepped
  | _ => cases still

private theorem answersFairly_networkError (task : DataTask Caller Write) :
    answersFairly expired task networkError = true := by
  unfold answersFairly
  split <;> rfl

private theorem exists_quietStep (left : remaining expired deliveries.client ≠ 0) :
    ∃ action next, quietStep expired deliveries action = some next := by
  rcases deliveries with ⟨client, delivered, failed⟩
  cases spawned : client.spawned with
  | cons write rest =>
      refine ⟨.runTask 0, ?_⟩
      simp only [quietStep, quiet, Deliveries.step, Client.step, spawned]
      exact ⟨_, rfl⟩
  | nil =>
      cases inFlight : client.inFlight with
      | cons flight rest =>
          refine ⟨.answer 0 networkError, ?_⟩
          have answerable : ¬(flight.accepted = true ∧ networkError.statusCode = some 401) :=
            fun both => by cases both.2
          have fair := @answersFairly_networkError Caller expired flight.task
          simp only [quietStep, quiet, Deliveries.step, Client.step, inFlight,
            List.getElem?_cons_zero, Option.any_some, fair, if_neg answerable]
          exact ⟨_, rfl⟩
      | nil =>
          cases removals : client.removals with
          | cons origin rest =>
              refine ⟨.removeTokens, ?_⟩
              simp only [quietStep, quiet, Deliveries.step, Client.step, removals]
              exact ⟨_, rfl⟩
          | nil =>
              unfold remaining at left
              rw [spawned, inFlight, removals] at left
              exact absurd rfl left

private theorem issued_quietStep {action : Client.Action Caller}
    (taken : quietStep expired deliveries action = some next) :
    next.client.issued = deliveries.client.issued := by
  obtain ⟨still, stepped⟩ := quietStep_eq_some taken
  obtain ⟨client, clientStepped, rfl⟩ := Option.map_eq_some_iff.mp stepped
  cases action with
  | runTask index => obtain ⟨write, _, rfl⟩ := step_runTask clientStepped; rfl
  | accept index => obtain ⟨request, call, _, rfl⟩ := step_accept clientStepped; rfl
  | removeTokens => obtain ⟨origin, rest, _, rfl⟩ := step_removeTokens clientStepped; rfl
  | answer index result => obtain ⟨flight, _, _, rfl⟩ := step_answer clientStepped; rfl
  | _ => cases still

private theorem completed_of_accounted (accounted : Accounted deliveries)
    (done : remaining expired deliveries.client = 0) :
    deliveries.client.spawned = [] ∧ deliveries.client.inFlight = [] ∧
      deliveries.client.issued.Perm
        (deliveries.delivered.map Prod.fst ++ deliveries.failed.map Prod.fst) := by
  unfold remaining at done
  have spawned : deliveries.client.spawned = [] := by
    apply List.eq_nil_of_length_eq_zero
    omega
  have inFlight : deliveries.client.inFlight = [] := by
    cases waiting : deliveries.client.inFlight with
    | nil => rfl
    | cons flight rest =>
        have positive := weight_pos expired flight
        have counted : weights expired (flight :: rest) =
            weight expired flight + weights expired rest := rfl
        rw [waiting] at done
        omega
  refine ⟨spawned, inFlight, ?_⟩
  have perm := accounted.perm
  rw [spawned, inFlight] at perm
  exact perm

/-- From any state that can be reached, while the user rests and the server refuses only
expired access tokens and grants none of them, a run is no longer than what is left, and
however far it has come it can be continued until every edit made so far has had its
completion called exactly once. -/
theorem edits_complete (expired : String → Bool) (defaults : UserDefaults)
    (before actions : List (Client.Action Caller)) (middle reached : Deliveries Caller)
    (came : run Deliveries.step (.launch defaults) before = some middle)
    (arrived : run (quietStep expired) middle actions = some reached) :
    actions.length ≤ remaining expired middle.client ∧
      ∃ rest last, run (quietStep expired) reached rest = some last ∧
        last.client.issued = middle.client.issued ∧
        last.client.spawned = [] ∧ last.client.inFlight = [] ∧
        last.client.issued.Perm
          (last.delivered.map Prod.fst ++ last.failed.map Prod.fst) := by
  have descends : Descends (quietStep expired)
      (fun deliveries : Deliveries Caller =>
        Accounted deliveries ∧ deliveries.client.issued = middle.client.issued)
      fun deliveries => remaining expired deliveries.client := by
    constructor
    · rintro deliveries action next ⟨accounted, issued⟩ taken
      refine ⟨accounted_step accounted (quietStep_eq_some taken).2, ?_⟩
      rw [issued_quietStep taken, issued]
    · intro deliveries action next _ taken
      exact remaining_quietStep taken
  obtain ⟨short, rest, last, finished, final, done⟩ := descends.finishes
    (fun _ _ left => exists_quietStep left) ⟨accounted_run came, rfl⟩ arrived
  exact ⟨short, rest, last, finished, final.2, completed_of_accounted final.1 done⟩

def expiredEdits : List (Client.Action Unit) :=
  [.addToFavorites (.titled 1 "Plov"), .removeFromFavorites (.titled 1 "Plov"), .runTask 0]

def refreshedOnce : List (Client.Action Unit) :=
  [.answer 0 (bareStatus 401), .answer 0 (grantBody "fresh"), .accept 0]

theorem edits_complete_refreshed :
    ∃ middle reached : Deliveries Unit,
      run Deliveries.step (.launch ⟨some "stale", some "refresh", none⟩) expiredEdits =
        some middle ∧
      run (quietStep (· == "stale")) middle refreshedOnce = some reached ∧
      3 ≤ remaining (· == "stale") middle.client ∧
      ∃ rest last, run (quietStep (· == "stale")) reached rest = some last ∧
        last.client.issued = middle.client.issued ∧
        last.client.spawned = [] ∧ last.client.inFlight = [] ∧
        last.client.issued.Perm
          (last.delivered.map Prod.fst ++ last.failed.map Prod.fst) := by
  obtain ⟨middle, reached, came, arrived⟩ : ∃ middle reached : Deliveries Unit,
      run Deliveries.step (.launch ⟨some "stale", some "refresh", none⟩) expiredEdits =
        some middle ∧
      run (quietStep (· == "stale")) middle refreshedOnce = some reached := ⟨_, _, rfl, rfl⟩
  exact ⟨middle, reached, came, arrived,
    edits_complete _ _ expiredEdits refreshedOnce _ _ came arrived⟩

end SmartMeal.EditCompletion
