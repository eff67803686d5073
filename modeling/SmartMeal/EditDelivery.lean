/-
What becomes of the write that an edit spawns.

The task of an edit runs later, its request may be refused and repeated under a new
token, and its completion is called with the answer of the server or with an error of
the app.  At every moment an edit waits in one place, its task not run, under way, or
completed; and the server accepts it at most once, and not at all when the app reports
an error of its own.
-/

import SmartMeal.Client
import SmartMeal.Library.Custody
import Mathlib.Tactic.Abel

namespace SmartMeal.EditDelivery

open PartialStep Client Custody

variable {Caller : Type}

def completions (effects : List (Effect Caller Write)) : List (Write × TaskResult) :=
  effects.filterMap fun effect =>
    match effect with
    | .answered completion result => some (completion, result)
    | _ => none

/-- The write that a task sends, or repeats once a refresh is granted. -/
def carriedWrite (task : DataTask Caller Write) : Option Write :=
  match task.handler with
  | .performAuthorizedRequest call => some call.completion
  | .refreshAccessToken (.performAuthorizedRequest call _) => some call.completion
  | _ => none

def carried (flight : Flight Caller) : Option Write := carriedWrite flight.task

def acceptedWrite (flight : Flight Caller) : Option Write :=
  if flight.accepted then carried flight else none

/-- The answer of the server itself ends the call; every other call is ended by the app. -/
def endsWithAnswer (task : DataTask Caller Write) (result : TaskResult) : Bool :=
  match task.handler with
  | .performAuthorizedRequest _ => result.statusCode != some 401
  | _ => false

/-- The completions called with an answer of the server, and those called with an error
of the app, are history. -/
structure Deliveries (Caller : Type) where
  client : Client Caller
  delivered : List (Write × TaskResult)
  failed : List (Write × TaskResult)

namespace Deliveries

def launch (defaults : UserDefaults) : Deliveries Caller :=
  { client := .launch defaults, delivered := [], failed := [] }

def called (client : Client Caller) :
    Client.Action Caller → List (Write × TaskResult) × List (Write × TaskResult)
  | .runTask index =>
      match client.spawned[index]? with
      | none => ([], [])
      | some write =>
          ([], completions
            (performAuthorizedRequest write.call client.defaults : Outcome Caller Write).2)
  | .answer index result =>
      match client.inFlight[index]? with
      | none => ([], [])
      | some flight =>
          let ended := completions (flight.task.answered result client.defaults).2
          if endsWithAnswer flight.task result then (ended, []) else ([], ended)
  | _ => ([], [])

def step : Transition (Deliveries Caller) (Client.Action Caller)
  | deliveries, action =>
      (Client.step deliveries.client action).map fun client =>
        { client := client
          delivered := deliveries.delivered ++ (called deliveries.client action).1
          failed := deliveries.failed ++ (called deliveries.client action).2 }

end Deliveries

/-! ### What one function does with a write -/

def entrusted (effects : List (Effect Caller Write)) : Multiset Write :=
  held carriedWrite (resumed effects) + ↑((completions effects).map Prod.fst)

def refreshedWrite : RefreshCompletion Caller Write → Option Write
  | .performAuthorizedRequest call _ => some call.completion
  | .validateToken _ => none

private theorem entrusted_validateToken (completion : Caller) (defaults : UserDefaults) :
    entrusted (validateToken completion defaults : Outcome Caller Write).2 = 0 := by
  unfold validateToken
  cases defaults.authToken <;> rfl

private theorem entrusted_performAuthorizedRequest (call : AuthorizedCall Write)
    (defaults : UserDefaults) :
    entrusted (performAuthorizedRequest call defaults : Outcome Caller Write).2 =
      {call.completion} := by
  unfold performAuthorizedRequest
  cases defaults.authToken <;> rfl

private theorem entrusted_call (completion : RefreshCompletion Caller Write) (isRefreshed : Bool)
    (defaults : UserDefaults) :
    entrusted (completion.call isRefreshed defaults).2 = single (refreshedWrite completion) := by
  cases completion with
  | validateToken caller =>
      cases isRefreshed with
      | true => exact entrusted_validateToken caller defaults
      | false => rfl
  | performAuthorizedRequest call response =>
      cases isRefreshed with
      | true => exact entrusted_performAuthorizedRequest call defaults
      | false => rfl

private theorem entrusted_refreshAccessToken (completion : RefreshCompletion Caller Write)
    (defaults : UserDefaults) :
    entrusted (refreshAccessToken completion defaults).2 =
      single (refreshedWrite completion) := by
  unfold refreshAccessToken
  cases defaults.refreshToken with
  | none => exact entrusted_call completion false defaults
  | some refreshToken => cases completion <;> rfl

/-- An answer passes the write of its task on, to another task or to its completion. -/
private theorem entrusted_answered (task : DataTask Caller Write) (result : TaskResult)
    (defaults : UserDefaults) :
    entrusted (task.answered result defaults).2 = single (carriedWrite task) := by
  rcases task with ⟨request, handler⟩
  cases handler with
  | refreshAccessToken completion =>
      change entrusted (refreshAccessTokenAnswered completion result defaults).2 = _
      rw [refreshAccessTokenAnswered_eq]
      cases grantedAccessToken result with
      | none => rw [entrusted_call]; cases completion <;> rfl
      | some token => rw [entrusted_call]; cases completion <;> rfl
  | validateToken caller =>
      change entrusted (validateTokenAnswered caller result defaults).2 = 0
      unfold validateTokenAnswered
      split
      · split
        · rfl
        · split
          · exact entrusted_refreshAccessToken _ defaults
          · rfl
      · rfl
  | performAuthorizedRequest call =>
      change entrusted (performAuthorizedRequestAnswered call result defaults).2 = _
      unfold performAuthorizedRequestAnswered
      split
      · exact entrusted_refreshAccessToken _ defaults
      · rfl

/-! ### Where the writes are -/

private theorem held_started (tasks : List (DataTask Caller Write)) :
    held carried (tasks.map fun task => ⟨task, false⟩) = held carriedWrite tasks := by
  unfold held
  rw [List.filterMap_map]
  rfl

private theorem accepted_started (tasks : List (DataTask Caller Write)) :
    held acceptedWrite (tasks.map fun task => ⟨task, false⟩) = 0 := by
  apply held_eq_zero
  intro flight member
  obtain ⟨task, _, rfl⟩ := List.mem_map.mp member
  rfl

def Accounted (deliveries : Deliveries Caller) : Prop :=
  held some deliveries.client.issued =
    held some deliveries.client.spawned + held carried deliveries.client.inFlight +
      held some (deliveries.delivered.map Prod.fst) + held some (deliveries.failed.map Prod.fst)

/-- An accepted write is under way, in the attempt that was accepted, or it has been
completed with an answer. -/
structure AcceptedOnce (deliveries : Deliveries Caller) : Prop where
  attempts : ∀ flight ∈ deliveries.client.inFlight, flight.accepted = true →
    ∃ call, flight.task.handler = .performAuthorizedRequest call
  accepted : held some (deliveries.client.accepted.map Prod.fst) ≤
    held acceptedWrite deliveries.client.inFlight + held some (deliveries.delivered.map Prod.fst)

variable {deliveries next : Deliveries Caller}

private theorem held_performed {effects : List (Effect Caller Write)} {write : Multiset Write}
    (same : entrusted effects = write) :
    held carried ((resumed effects).map fun task => ⟨task, false⟩) +
      held some ((completions effects).map Prod.fst) = write := by
  rw [held_started, held_some]
  exact same

private theorem held_performed_of_none {effects : List (Effect Caller Write)}
    (none : entrusted effects = 0) :
    held carried ((resumed effects).map fun task => ⟨task, false⟩) = 0 := by
  apply Multiset.le_zero.mp
  rw [← held_performed none]
  exact Multiset.le_add_right _ _

private theorem accounted_edit (accounted : Accounted deliveries)
    (edited : UserDefaults × List FavoritesEffect) :
    Accounted { deliveries with client := deliveries.client.edit edited } := by
  unfold Accounted at accounted ⊢
  simp only [Client.edit, held_append]
  rw [accounted]
  abel

private theorem accounted_runTask {index : Nat} {write : Write} (accounted : Accounted deliveries)
    (found : deliveries.client.spawned[index]? = some write) :
    Accounted
      { client := { deliveries.client with spawned := deliveries.client.spawned.eraseIdx index
          }.perform none (performAuthorizedRequest write.call deliveries.client.defaults)
        delivered := deliveries.delivered
        failed := deliveries.failed ++ completions (performAuthorizedRequest write.call
          deliveries.client.defaults : Outcome Caller Write).2 } := by
  have performed := held_performed
    (@entrusted_performAuthorizedRequest Caller write.call deliveries.client.defaults)
  unfold Accounted at accounted ⊢
  simp only [Client.perform, held_append, List.map_append]
  rw [accounted, held_eraseIdx found]
  change _ = ({write} : Multiset Write) at performed
  rw [single_some, ← performed]
  abel

private theorem accounted_answer {index : Nat} {flight : Flight Caller} (result : TaskResult)
    (accounted : Accounted deliveries) (found : deliveries.client.inFlight[index]? = some flight)
    {delivered failed : List (Write × TaskResult)}
    (ended : held some (delivered.map Prod.fst) + held some (failed.map Prod.fst) =
      held some ((completions (flight.task.answered result deliveries.client.defaults).2).map
        Prod.fst)) :
    Accounted
      { client := deliveries.client.deliver index flight.task result
        delivered := deliveries.delivered ++ delivered
        failed := deliveries.failed ++ failed } := by
  have performed := held_performed
    (entrusted_answered flight.task result deliveries.client.defaults)
  unfold Accounted at accounted ⊢
  simp only [Client.deliver, Client.perform, held_append, List.map_append]
  rw [accounted, held_eraseIdx found]
  change _ = single (carried flight) at performed
  rw [← performed, ← ended]
  abel

theorem accounted_of_same {client : Client Caller} (accounted : Accounted deliveries)
    (issued : client.issued = deliveries.client.issued)
    (spawned : client.spawned = deliveries.client.spawned)
    (inFlight : held carried client.inFlight = held carried deliveries.client.inFlight) :
    Accounted { deliveries with client := client } := by
  unfold Accounted at accounted ⊢
  rw [issued, spawned, inFlight]
  exact accounted

private theorem accounted_perform {outcome : Outcome Caller Write}
    (accounted : Accounted deliveries)
    (origin : Origin) (none : entrusted outcome.2 = 0) :
    Accounted { deliveries with client := deliveries.client.perform origin outcome } := by
  have same : held carried (deliveries.client.perform origin outcome).inFlight =
      held carried deliveries.client.inFlight := by
    change held carried (_ ++ _) = _
    rw [held_append, held_performed_of_none none]
    exact add_zero _
  exact accounted_of_same accounted rfl rfl same

theorem next_of_silent {action : Client.Action Caller} {client : Client Caller}
    (silent : Deliveries.called deliveries.client action = ([], [])) :
    ({ client := client
       delivered := deliveries.delivered ++ (Deliveries.called deliveries.client action).1
       failed := deliveries.failed ++ (Deliveries.called deliveries.client action).2 } :
      Deliveries Caller) = { deliveries with client := client } := by
  rw [silent, List.append_nil, List.append_nil]

theorem accounted_step {action : Client.Action Caller} (accounted : Accounted deliveries)
    (taken : Deliveries.step deliveries action = some next) : Accounted next := by
  obtain ⟨client, stepped, rfl⟩ := Option.map_eq_some_iff.mp taken
  cases action with
  | saveToken access refresh =>
      cases stepped
      rw [next_of_silent rfl]
      exact accounted_of_same accounted rfl rfl rfl
  | signOut =>
      cases stepped
      rw [next_of_silent rfl]
      exact accounted_of_same accounted rfl rfl rfl
  | removeTokens =>
      obtain ⟨origin, rest, _, rfl⟩ := step_removeTokens stepped
      rw [next_of_silent rfl]
      exact accounted_of_same accounted rfl rfl rfl
  | validateToken caller =>
      cases stepped
      rw [next_of_silent rfl]
      exact accounted_perform accounted none (entrusted_validateToken caller _)
  | refreshAccessToken caller =>
      cases stepped
      rw [next_of_silent rfl]
      exact accounted_perform accounted none
        (entrusted_refreshAccessToken (.validateToken caller) _)
  | addToFavorites recipe =>
      cases stepped
      rw [next_of_silent rfl]
      exact accounted_edit accounted (addToFavorites recipe deliveries.client.defaults)
  | removeFromFavorites recipe =>
      cases stepped
      rw [next_of_silent rfl]
      exact accounted_edit accounted (removeFromFavorites recipe deliveries.client.defaults)
  | runTask index =>
      obtain ⟨write, found, rfl⟩ := step_runTask stepped
      simp only [Deliveries.called, found, List.append_nil]
      exact accounted_runTask accounted found
  | accept index =>
      obtain ⟨request, call, found, rfl⟩ := step_accept stepped
      rw [next_of_silent rfl]
      exact accounted_of_same accounted rfl rfl (held_set_of_same found rfl)
  | answer index result =>
      obtain ⟨flight, found, _, rfl⟩ := step_answer stepped
      simp only [Deliveries.called, found]
      split
      · exact accounted_answer result accounted found (add_zero _)
      · exact accounted_answer result accounted found (zero_add _)

/-! ### What the server has accepted -/

/-- The answer to an attempt that the server has accepted ends the call, and delivers the
write. -/
private theorem acceptedWrite_le {flight : Flight Caller} {result : TaskResult}
    (answerable : ¬(flight.accepted = true ∧ result.statusCode = some 401))
    (attempt : flight.accepted = true →
      ∃ call, flight.task.handler = .performAuthorizedRequest call)
    (defaults : UserDefaults) :
    single (acceptedWrite flight) ≤
      held some ((if endsWithAnswer flight.task result then
        completions (flight.task.answered result defaults).2 else []).map Prod.fst) := by
  unfold acceptedWrite
  cases accepted : flight.accepted with
  | false => exact Multiset.zero_le _
  | true =>
      obtain ⟨call, handler⟩ := attempt accepted
      have answered : result.statusCode ≠ some 401 := fun refused => answerable ⟨accepted, refused⟩
      have ends : endsWithAnswer flight.task result = true := by
        simpa [endsWithAnswer, handler] using answered
      have completed : completions (flight.task.answered result defaults).2 =
          [(call.completion, result)] := by
        simp only [DataTask.answered, handler, performAuthorizedRequestAnswered, if_neg answered]
        rfl
      have own : carried flight = some call.completion := by
        simp only [carried, carriedWrite, handler]
      rw [if_pos ends, completed, if_pos rfl, own]
      exact le_refl _

theorem acceptedOnce_of_same {client : Client Caller} (once : AcceptedOnce deliveries)
    (inFlight : client.inFlight = deliveries.client.inFlight)
    (accepted : client.accepted = deliveries.client.accepted) :
    AcceptedOnce { deliveries with client := client } := by
  obtain ⟨attempts, bounded⟩ := once
  constructor
  · intro flight member
    change flight ∈ client.inFlight at member
    rw [inFlight] at member
    exact attempts flight member
  · change held some (client.accepted.map Prod.fst) ≤ held acceptedWrite client.inFlight + _
    rw [inFlight, accepted]
    exact bounded

private theorem attempts_started {inFlight : List (Flight Caller)}
    {tasks : List (DataTask Caller Write)}
    (attempts : ∀ flight ∈ inFlight, flight.accepted = true →
      ∃ call, flight.task.handler = .performAuthorizedRequest call) :
    ∀ flight ∈ inFlight ++ tasks.map fun task => ⟨task, false⟩, flight.accepted = true →
      ∃ call, flight.task.handler = .performAuthorizedRequest call := by
  intro flight member accepted
  rcases List.mem_append.mp member with old | started
  · exact attempts flight old accepted
  · obtain ⟨task, _, rfl⟩ := List.mem_map.mp started
    cases accepted

private theorem acceptedOnce_perform {outcome : Outcome Caller Write}
    (once : AcceptedOnce deliveries)
    (origin : Origin) (failed : List (Write × TaskResult)) :
    AcceptedOnce
      { client := deliveries.client.perform origin outcome
        delivered := deliveries.delivered
        failed := failed } := by
  refine ⟨attempts_started once.attempts, ?_⟩
  change _ ≤ held acceptedWrite (_ ++ _) + _
  rw [held_append, accepted_started, add_zero]
  exact once.accepted

private theorem acceptedOnce_accept {index : Nat} {request : URLRequest}
    {call : AuthorizedCall Write}
    (once : AcceptedOnce deliveries)
    (found : deliveries.client.inFlight[index]? =
      some ⟨⟨request, .performAuthorizedRequest call⟩, false⟩) :
    AcceptedOnce { deliveries with
      client := { deliveries.client with
        inFlight := deliveries.client.inFlight.set index
          ⟨⟨request, .performAuthorizedRequest call⟩, true⟩
        accepted := deliveries.client.accepted ++ [(call.completion, request)] } } := by
  have inside := (List.getElem?_eq_some_iff.mp found).1
  have bounded := once.accepted
  constructor
  · intro flight member accepted
    rcases List.mem_or_eq_of_mem_set member with old | rfl
    · exact once.attempts flight old accepted
    · exact ⟨call, rfl⟩
  · have before : held acceptedWrite deliveries.client.inFlight =
        held acceptedWrite (deliveries.client.inFlight.eraseIdx index) := by
      rw [held_eraseIdx found]
      exact zero_add _
    rw [before] at bounded
    simp only [List.map_append, held_append]
    rw [held_set inside, add_comm, add_assoc]
    exact add_le_add (le_refl _) bounded

private theorem acceptedOnce_answer {index : Nat} {flight : Flight Caller} {result : TaskResult}
    (once : AcceptedOnce deliveries) (found : deliveries.client.inFlight[index]? = some flight)
    {delivered : List (Write × TaskResult)} (failed : List (Write × TaskResult))
    (passed : single (acceptedWrite flight) ≤ held some (delivered.map Prod.fst)) :
    AcceptedOnce
      { client := deliveries.client.deliver index flight.task result
        delivered := deliveries.delivered ++ delivered
        failed := failed } := by
  have bounded := once.accepted
  constructor
  · apply attempts_started
    intro other member
    exact once.attempts other (List.mem_of_mem_eraseIdx member)
  · rw [held_eraseIdx found] at bounded
    simp only [Client.deliver, Client.perform, held_append, List.map_append]
    rw [accepted_started, add_zero]
    calc held some (deliveries.client.accepted.map Prod.fst)
        ≤ single (acceptedWrite flight) +
            held acceptedWrite (deliveries.client.inFlight.eraseIdx index) +
            held some (deliveries.delivered.map Prod.fst) := bounded
      _ ≤ held some (delivered.map Prod.fst) +
            held acceptedWrite (deliveries.client.inFlight.eraseIdx index) +
            held some (deliveries.delivered.map Prod.fst) :=
          add_le_add (add_le_add passed (le_refl _)) (le_refl _)
      _ = held acceptedWrite (deliveries.client.inFlight.eraseIdx index) +
            (held some (deliveries.delivered.map Prod.fst) +
              held some (delivered.map Prod.fst)) := by abel

theorem acceptedOnce_step {action : Client.Action Caller} (once : AcceptedOnce deliveries)
    (taken : Deliveries.step deliveries action = some next) : AcceptedOnce next := by
  obtain ⟨client, stepped, rfl⟩ := Option.map_eq_some_iff.mp taken
  cases action with
  | runTask index =>
      obtain ⟨write, found, rfl⟩ := step_runTask stepped
      simp only [Deliveries.called, found, List.append_nil]
      have erased : AcceptedOnce { deliveries with client := { deliveries.client with
          spawned := deliveries.client.spawned.eraseIdx index } } :=
        acceptedOnce_of_same once rfl rfl
      exact acceptedOnce_perform erased none _
  | accept index =>
      obtain ⟨request, call, found, rfl⟩ := step_accept stepped
      rw [next_of_silent rfl]
      exact acceptedOnce_accept once found
  | answer index result =>
      obtain ⟨flight, found, answerable, rfl⟩ := step_answer stepped
      simp only [Deliveries.called, found]
      have passed := acceptedWrite_le answerable
        (once.attempts flight (List.mem_of_getElem? found)) deliveries.client.defaults
      split
      · rename_i ends
        rw [if_pos ends] at passed
        exact acceptedOnce_answer once found _ passed
      · rename_i open_
        rw [if_neg open_] at passed
        exact acceptedOnce_answer once found _ passed
  | removeTokens =>
      obtain ⟨origin, rest, _, rfl⟩ := step_removeTokens stepped
      rw [next_of_silent rfl]
      exact acceptedOnce_of_same once rfl rfl
  | validateToken caller =>
      cases stepped
      rw [next_of_silent rfl]
      exact acceptedOnce_perform once none _
  | refreshAccessToken caller =>
      cases stepped
      rw [next_of_silent rfl]
      exact acceptedOnce_perform once none _
  | _ =>
      cases stepped
      rw [next_of_silent rfl]
      exact acceptedOnce_of_same once rfl rfl

/-! ### Whole runs -/

theorem accounted_run {defaults : UserDefaults} {actions : List (Client.Action Caller)}
    {reached : Deliveries Caller}
    (arrived : run Deliveries.step (.launch defaults) actions = some reached) :
    Accounted reached := by
  have start : Accounted (.launch defaults : Deliveries Caller) := rfl
  exact run_invariant Accounted (fun _ _ _ => accounted_step) start arrived

private theorem acceptedOnce_run {defaults : UserDefaults} {actions : List (Client.Action Caller)}
    {reached : Deliveries Caller}
    (arrived : run Deliveries.step (.launch defaults) actions = some reached) :
    AcceptedOnce reached := by
  refine run_invariant AcceptedOnce (fun _ _ _ => acceptedOnce_step) ⟨?_, le_refl _⟩ arrived
  intro flight impossible
  cases impossible

theorem Accounted.perm (accounted : Accounted deliveries) :
    deliveries.client.issued.Perm
      (deliveries.client.spawned ++ deliveries.client.inFlight.filterMap carried ++
        deliveries.delivered.map Prod.fst ++ deliveries.failed.map Prod.fst) := by
  unfold Accounted at accounted
  apply Multiset.coe_eq_coe.mp
  simp only [held_some] at accounted
  simp only [← Multiset.coe_add]
  exact accounted

theorem AcceptedOnce.subperm (once : AcceptedOnce deliveries) (accounted : Accounted deliveries) :
    (deliveries.client.accepted.map Prod.fst ++ deliveries.client.spawned ++
      deliveries.failed.map Prod.fst).Subperm deliveries.client.issued := by
  have less : held acceptedWrite deliveries.client.inFlight ≤
      held carried deliveries.client.inFlight := by
    apply held_le
    intro flight _
    unfold acceptedWrite
    split
    · exact le_refl _
    · exact Multiset.zero_le _
  unfold Accounted at accounted
  apply Multiset.coe_le.mp
  simp only [← held_some, held_append]
  calc held some (deliveries.client.accepted.map Prod.fst) +
          held some deliveries.client.spawned + held some (deliveries.failed.map Prod.fst)
      ≤ (held carried deliveries.client.inFlight + held some (deliveries.delivered.map Prod.fst)) +
          held some deliveries.client.spawned + held some (deliveries.failed.map Prod.fst) :=
        add_le_add (add_le_add (once.accepted.trans (add_le_add less (le_refl _)))
          (le_refl _)) (le_refl _)
    _ = held some deliveries.client.issued := by
        rw [accounted]
        abel

/-- In every state of every run, each issued write is in one place: it waits for its task,
is under way, was completed with an answer or was failed by the app; and the writes that the
server has accepted, with those that wait and those that failed, are no more than the issued
ones, so that none is accepted twice and none is accepted and failed. -/
theorem writes_delivered_once (defaults : UserDefaults) (actions : List (Client.Action Caller))
    (reached : Deliveries Caller)
    (arrived : run Deliveries.step (.launch defaults) actions = some reached) :
    reached.client.issued.Perm
        (reached.client.spawned ++ reached.client.inFlight.filterMap carried ++
          reached.delivered.map Prod.fst ++ reached.failed.map Prod.fst) ∧
      (reached.client.accepted.map Prod.fst ++ reached.client.spawned ++
        reached.failed.map Prod.fst).Subperm reached.client.issued :=
  ⟨(accounted_run arrived).perm, (acceptedOnce_run arrived).subperm (accounted_run arrived)⟩

def repeatedAdd : List (Client.Action Unit) :=
  [.addToFavorites (.titled 1 "Plov"), .runTask 0, .answer 0 (bareStatus 401),
    .answer 0 (grantBody "fresh"), .accept 0, .answer 0 (bareStatus 200)]

theorem writes_delivered_once_repeated :
    ∃ reached : Deliveries Unit,
      run Deliveries.step (.launch ⟨some "stale", some "refresh", none⟩) repeatedAdd =
        some reached ∧
      reached.client.issued.Perm
        (reached.client.spawned ++ reached.client.inFlight.filterMap carried ++
          reached.delivered.map Prod.fst ++ reached.failed.map Prod.fst) ∧
      (reached.client.accepted.map Prod.fst ++ reached.client.spawned ++
        reached.failed.map Prod.fst).Subperm reached.client.issued := by
  obtain ⟨reached, arrived⟩ : ∃ reached : Deliveries Unit,
      run Deliveries.step (.launch ⟨some "stale", some "refresh", none⟩) repeatedAdd =
        some reached := ⟨_, rfl⟩
  exact ⟨reached, arrived, writes_delivered_once _ repeatedAdd reached arrived⟩

/-! ### Edits without a session -/

structure SignedOut (client : Client Caller) : Prop where
  authToken : client.defaults.authToken = none
  refreshToken : client.defaults.refreshToken = none
  inFlight : client.inFlight = []

structure Unsent (before after : Deliveries Caller) : Prop where
  accepted : after.client.accepted = before.client.accepted
  delivered : after.delivered = before.delivered
  failed : ∀ entry ∈ after.failed, entry ∈ before.failed ∨ entry.2.error = some noAccessToken

private theorem Unsent.refl (deliveries : Deliveries Caller) : Unsent deliveries deliveries :=
  ⟨rfl, rfl, fun _ member => Or.inl member⟩

private theorem Unsent.trans {first second third : Deliveries Caller} (left : Unsent first second)
    (right : Unsent second third) : Unsent first third := by
  refine ⟨right.accepted.trans left.accepted, right.delivered.trans left.delivered, ?_⟩
  intro entry member
  rcases right.failed entry member with old | own
  · exact left.failed entry old
  · exact Or.inr own

private theorem performAuthorizedRequest_signedOut {client : Client Caller} (out : SignedOut client)
    (call : AuthorizedCall Write) :
    (performAuthorizedRequest call client.defaults : Outcome Caller Write) =
      (client.defaults, [.answered call.completion ⟨none, none, some noAccessToken⟩]) := by
  unfold performAuthorizedRequest
  rw [out.authToken]

private theorem unsent_of_same {client : Client Caller} (inFlight : client.inFlight = [])
    (authToken : client.defaults.authToken = none)
    (refreshToken : client.defaults.refreshToken = none)
    (accepted : client.accepted = deliveries.client.accepted) :
    SignedOut client ∧ Unsent deliveries { deliveries with client := client } :=
  ⟨⟨authToken, refreshToken, inFlight⟩, accepted, rfl, fun _ member => Or.inl member⟩

private theorem validateToken_signedOut {client : Client Caller} (out : SignedOut client)
    (caller : Caller) :
    (validateToken caller client.defaults : Outcome Caller Write) =
      (client.defaults, [.validated caller false]) := by
  unfold validateToken
  rw [out.authToken]

private theorem refreshAccessToken_signedOut {client : Client Caller} (out : SignedOut client)
    (caller : Caller) :
    (refreshAccessToken (.validateToken caller) client.defaults : Outcome Caller Write) =
      (client.defaults, [.mainAsyncRemoveTokens, .validated caller false]) := by
  unfold refreshAccessToken
  rw [out.refreshToken]
  rfl

private theorem signedOut_step {action : Client.Action Caller} (out : SignedOut deliveries.client)
    (silent : ∀ access refresh, action ≠ .saveToken access refresh)
    (taken : Deliveries.step deliveries action = some next) :
    SignedOut next.client ∧ Unsent deliveries next := by
  obtain ⟨client, stepped, rfl⟩ := Option.map_eq_some_iff.mp taken
  cases action with
  | saveToken access refresh => exact absurd rfl (silent access refresh)
  | runTask index =>
      obtain ⟨write, found, rfl⟩ := step_runTask stepped
      simp only [Deliveries.called, found, performAuthorizedRequest_signedOut out]
      refine ⟨⟨out.authToken, out.refreshToken, ?_⟩, rfl, List.append_nil _, ?_⟩
      · change deliveries.client.inFlight ++ [] = []
        rw [out.inFlight, List.append_nil]
      · intro entry member
        rcases List.mem_append.mp member with old | own
        · exact Or.inl old
        · rw [List.mem_singleton.mp own]
          exact Or.inr rfl
  | accept index =>
      obtain ⟨request, call, found, _⟩ := step_accept stepped
      rw [out.inFlight] at found
      cases found
  | answer index result =>
      obtain ⟨flight, found, _⟩ := step_answer stepped
      rw [out.inFlight] at found
      cases found
  | removeTokens =>
      obtain ⟨origin, rest, _, rfl⟩ := step_removeTokens stepped
      rw [next_of_silent rfl]
      exact unsent_of_same out.inFlight rfl rfl rfl
  | signOut =>
      cases stepped
      rw [next_of_silent rfl]
      exact unsent_of_same out.inFlight rfl rfl rfl
  | validateToken caller =>
      cases stepped
      rw [next_of_silent rfl, validateToken_signedOut out]
      have idle : deliveries.client.inFlight ++ [] = [] := by rw [out.inFlight, List.append_nil]
      exact unsent_of_same idle out.authToken out.refreshToken rfl
  | refreshAccessToken caller =>
      cases stepped
      rw [next_of_silent rfl, refreshAccessToken_signedOut out]
      have idle : deliveries.client.inFlight ++ [] = [] := by rw [out.inFlight, List.append_nil]
      exact unsent_of_same idle out.authToken out.refreshToken rfl
  | addToFavorites recipe =>
      cases stepped
      rw [next_of_silent rfl]
      exact unsent_of_same out.inFlight out.authToken out.refreshToken rfl
  | removeFromFavorites recipe =>
      cases stepped
      rw [next_of_silent rfl]
      exact unsent_of_same out.inFlight out.authToken out.refreshToken rfl

private theorem signedOut_run {actions : List (Client.Action Caller)} {reached : Deliveries Caller}
    (out : SignedOut deliveries.client)
    (silent : ∀ action ∈ actions, ∀ access refresh, action ≠ .saveToken access refresh)
    (arrived : run Deliveries.step deliveries actions = some reached) :
    SignedOut reached.client ∧ Unsent deliveries reached := by
  induction actions generalizing deliveries with
  | nil =>
      cases Option.some.inj arrived
      exact ⟨out, Unsent.refl reached⟩
  | cons action rest ih =>
      cases taken : Deliveries.step deliveries action with
      | none => rw [run_cons, taken] at arrived; cases arrived
      | some next =>
          rw [run_cons_of_step rest taken] at arrived
          obtain ⟨still, here⟩ := signedOut_step out (silent action List.mem_cons_self) taken
          obtain ⟨final, later⟩ := ih still
            (fun other member => silent other (List.mem_cons_of_mem action member)) arrived
          exact ⟨final, here.trans later⟩

/-- From any state with no token stored and no request under way, a run without a login
sends nothing: the server accepts no further write, no completion is called with an answer,
and every edit, those made meanwhile included, still waits, was delivered before, or has
failed, the failures since then all for want of a token. -/
theorem edits_fail_signedOut (defaults : UserDefaults)
    (before actions : List (Client.Action Caller)) (middle reached : Deliveries Caller)
    (came : run Deliveries.step (.launch defaults) before = some middle)
    (out : SignedOut middle.client)
    (silent : ∀ action ∈ actions, ∀ access refresh, action ≠ .saveToken access refresh)
    (arrived : run Deliveries.step middle actions = some reached) :
    SignedOut reached.client ∧ Unsent middle reached ∧
      reached.client.issued.Perm (reached.client.spawned ++ middle.delivered.map Prod.fst ++
        reached.failed.map Prod.fst) := by
  obtain ⟨still, unsent⟩ := signedOut_run out silent arrived
  refine ⟨still, unsent, ?_⟩
  have whole : run Deliveries.step (.launch defaults) (before ++ actions) = some reached := by
    rw [run_append, came]
    exact arrived
  have perm := (accounted_run whole).perm
  rw [still.inFlight, unsent.delivered, List.filterMap_nil, List.append_nil] at perm
  exact perm

/-- A recipe is added after the sign-out, and its task runs. -/
theorem edits_fail_signedOut_added :
    ∃ middle reached : Deliveries Unit,
      run Deliveries.step (.launch ⟨some "access", some "refresh", none⟩) [.signOut] = some middle ∧
      run Deliveries.step middle [.addToFavorites (.titled 1 "Plov"), .runTask 0] = some reached ∧
      SignedOut reached.client ∧ Unsent middle reached ∧
      reached.client.issued.Perm (reached.client.spawned ++ middle.delivered.map Prod.fst ++
        reached.failed.map Prod.fst) := by
  obtain ⟨middle, reached, came, out, arrived⟩ : ∃ middle reached : Deliveries Unit,
      run Deliveries.step (.launch ⟨some "access", some "refresh", none⟩) [.signOut] = some middle ∧
      SignedOut middle.client ∧
      run Deliveries.step middle [.addToFavorites (.titled 1 "Plov"), .runTask 0] =
        some reached := ⟨_, _, rfl, ⟨rfl, rfl, rfl⟩, rfl⟩
  refine ⟨middle, reached, came, arrived, edits_fail_signedOut _ _ _ _ _ came out ?_ arrived⟩
  intro action member access refresh same
  subst same
  simp at member

end SmartMeal.EditDelivery
