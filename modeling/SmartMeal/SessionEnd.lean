/-
What ends a session.

`refreshAccessToken` reports every failure by the same Boolean, and the removal
it leads to runs later, as a block that does not know whose refresh failed.  A
run ends its sessions only for cause when every refresh of `validateToken` that
fails while a refresh token is stored is answered 401 and was sent by the
session that is stored, and no login completes while a removal is queued.
-/

import SmartMeal.Client

namespace SmartMeal.SessionEnd

open PartialStep

variable {Caller Session : Type} (owner : String → Session)

/-- A stored pair disappears only by a sign-out, or by a removal queued because
the server answered 401 to a refresh that carried a refresh token of its session. -/
def EndedForCause (client : Client Caller) (action : Client.Action Caller) : Prop :=
  ∀ next access refresh, client.step action = some next →
    client.defaults.authToken = some access → client.defaults.refreshToken = some refresh →
    (next.defaults.authToken = none ∨ next.defaults.refreshToken = none) →
      action = .signOut ∨
      (action = .removeTokens ∧
        ∃ request result sent, client.removals.head? = some (some (request, result)) ∧
          sentRefreshToken request = some sent ∧ result.statusCode = some 401 ∧
          owner sent = owner refresh ∧ sent ∈ client.refused)

/-- A refresh of `validateToken` that fails while a refresh token is stored fails
by a 401 and was sent by the stored session; no login overtakes a queued removal. -/
def FailsOnlyRefused (client : Client Caller) (action : Client.Action Caller) : Prop :=
  (∀ access refresh, action = .saveToken access refresh → client.removals = []) ∧
  ∀ index result flight caller refresh sent, action = .answer index result →
    client.inFlight[index]? = some flight →
    flight.task.handler = .refreshAccessToken (.validateToken caller) →
    grantedAccessToken result = none → client.defaults.refreshToken = some refresh →
    sentRefreshToken flight.task.request = some sent →
      result.statusCode = some 401 ∧ owner sent = owner refresh

def RemovalsJustified (client : Client Caller) : Prop :=
  ∀ origin ∈ client.removals, ∀ refresh, client.defaults.refreshToken = some refresh →
    ∃ request result sent, origin = some (request, result) ∧
      sentRefreshToken request = some sent ∧ result.statusCode = some 401 ∧
      owner sent = owner refresh ∧ sent ∈ client.refused

private theorem removalsJustified_of_same {client next : Client Caller}
    (justified : RemovalsJustified owner client)
    (removals : next.removals = client.removals) (refused : next.refused = client.refused)
    (refreshToken : next.defaults.refreshToken = client.defaults.refreshToken) :
    RemovalsJustified owner next := by
  unfold RemovalsJustified at justified ⊢
  rw [removals, refused, refreshToken]
  exact justified

private theorem removalsJustified_of_absent {client : Client Caller}
    (absent : client.defaults.refreshToken = none) : RemovalsJustified owner client := by
  intro origin _ refresh stored
  rw [absent] at stored
  cases stored

private theorem removalsJustified_deliver {client : Client Caller} {index : Nat}
    {result : TaskResult}
    {flight : Flight Caller} (carried : client.RefreshesCarryTokens)
    (justified : RemovalsJustified owner client)
    (met : FailsOnlyRefused owner client (.answer index result))
    (found : client.inFlight[index]? = some flight) :
    RemovalsJustified owner (client.deliver index flight.task result) := by
  intro origin member refresh stored
  have storedBefore : client.defaults.refreshToken = some refresh := by
    rw [Client.deliver_defaults _ found] at stored
    split at stored <;> exact stored
  rcases Client.mem_removals_deliver member with earlier | ⟨rfl, queued⟩
  · obtain ⟨request, before, sent, same, carries, status, ownerEq, known⟩ :=
      justified origin earlier refresh storedBefore
    exact ⟨request, before, sent, same, carries, status, ownerEq,
      List.mem_append_left _ known⟩
  · have present : client.defaults.refreshToken ≠ none := by
      rw [storedBefore]
      exact Option.some_ne_none refresh
    obtain ⟨caller, hHandler, notGranted⟩ := DataTask.queues_removal present queued
    obtain ⟨sent, requestEq⟩ := carried flight (List.mem_of_getElem? found) _ hHandler
    have carries : sentRefreshToken flight.task.request = some sent := by
      rw [requestEq]
      rfl
    obtain ⟨status, ownerEq⟩ :=
      met.2 index result flight caller refresh sent rfl found hHandler notGranted storedBefore
        carries
    refine ⟨flight.task.request, result, sent, rfl, carries, status, ownerEq, ?_⟩
    apply List.mem_append_right
    simp [Client.refusedRefresh, hHandler, status, carries]

private theorem removalsJustified_step {client next : Client Caller} {action : Client.Action Caller}
    (carried : client.RefreshesCarryTokens) (justified : RemovalsJustified owner client)
    (met : FailsOnlyRefused owner client action) (taken : client.step action = some next) :
    RemovalsJustified owner next := by
  cases action with
  | saveToken access refresh =>
      cases taken
      intro origin member
      rw [show client.removals = [] from met.1 access refresh rfl] at member
      cases member
  | signOut =>
      cases taken
      exact removalsJustified_of_absent owner rfl
  | removeTokens =>
      obtain ⟨_, _, _, rfl⟩ := Client.step_removeTokens taken
      exact removalsJustified_of_absent owner rfl
  | answer index result =>
      obtain ⟨flight, found, _, rfl⟩ := Client.step_answer taken
      exact removalsJustified_deliver owner carried justified met found
  | validateToken caller =>
      cases taken
      exact removalsJustified_of_same owner justified
        (by simp [Client.perform, queuedRemovals_validateToken]) rfl (by simp [Client.perform])
  | refreshAccessToken caller =>
      cases taken
      cases stored : client.defaults.refreshToken with
      | none => exact removalsJustified_of_absent owner (by simp [Client.perform, stored])
      | some refresh =>
          have present : client.defaults.refreshToken ≠ none := by
            rw [stored]
            exact Option.some_ne_none refresh
          exact removalsJustified_of_same owner justified
            (by simp [Client.perform, queuedRemovals_refreshAccessToken _ _ present]) rfl
            (by simp [Client.perform])
  | runTask index =>
      obtain ⟨write, _, rfl⟩ := Client.step_runTask taken
      exact removalsJustified_of_same owner justified
        (by simp [Client.perform, queuedRemovals_performAuthorizedRequest]) rfl
        (by simp [Client.perform])
  | accept index =>
      obtain ⟨_, _, _, rfl⟩ := Client.step_accept taken
      exact removalsJustified_of_same owner justified rfl rfl rfl
  | addToFavorites recipe =>
      cases taken
      exact removalsJustified_of_same owner justified rfl rfl rfl
  | removeFromFavorites recipe =>
      cases taken
      exact removalsJustified_of_same owner justified rfl rfl rfl

private theorem endedForCause_of_justified {client : Client Caller} {action : Client.Action Caller}
    (justified : RemovalsJustified owner client) : EndedForCause owner client action := by
  intro next access refresh taken authStored refreshStored gone
  rcases Client.step_tokens taken with
    ⟨_, _, rfl, changed⟩ | ⟨removing, _⟩ | ⟨_, _, _, changed⟩ | ⟨_, authKept, refreshKept⟩
  · rw [changed] at gone
    rcases gone with impossible | impossible <;> cases impossible
  · rcases removing with rfl | rfl
    · exact Or.inl rfl
    · obtain ⟨origin, rest, queue, _⟩ := Client.step_removeTokens taken
      obtain ⟨request, result, sent, same, carries, status, ownerEq, known⟩ :=
        justified origin (by rw [queue]; exact List.mem_cons_self) refresh refreshStored
      refine Or.inr ⟨rfl, request, result, sent, ?_, carries, status, ownerEq, known⟩
      rw [queue, same]
      rfl
  · rw [changed] at gone
    rcases gone with impossible | impossible
    · cases impossible
    · rw [show client.defaults.refreshToken = none from impossible] at refreshStored
      cases refreshStored
  · rw [authKept, refreshKept, authStored, refreshStored] at gone
    rcases gone with impossible | impossible <;> cases impossible

/-- From any launch, a run whose steps all meet the condition ends its sessions
only for cause. -/
theorem endedForCause_of_failsOnlyRefused (defaults : UserDefaults)
    (actions : List (Client.Action Caller))
    (met : EachStep Client.step (FailsOnlyRefused owner) (.launch defaults) actions) :
    EachStep Client.step (EndedForCause owner) (.launch defaults) actions := by
  refine eachStep_of_eachStep
    (fun client => client.RefreshesCarryTokens ∧ RemovalsJustified owner client)
    ?_ ?_ ⟨?_, ?_⟩ met
  · rintro client action next ⟨carried, justified⟩ metHere taken
    exact ⟨Client.refreshesCarryTokens_step carried taken,
      removalsJustified_step owner carried justified metHere taken⟩
  · rintro client action next ⟨_, justified⟩ _ _
    exact endedForCause_of_justified owner justified
  · intro flight impossible
    cases impossible
  · intro origin impossible
    cases impossible

private theorem failsOnlyRefused_of_other {client : Client Caller} {action : Client.Action Caller}
    (logins : ∀ access refresh, action ≠ .saveToken access refresh)
    (answers : ∀ index result, action ≠ .answer index result) :
    FailsOnlyRefused owner client action :=
  ⟨fun _ _ same => absurd same (logins _ _), fun _ _ _ _ _ _ same => absurd same (answers _ _)⟩

private theorem failsOnlyRefused_saveToken {client : Client Caller} {access refresh : String}
    (idle : client.removals = []) :
    FailsOnlyRefused owner client (.saveToken access refresh) := by
  refine ⟨fun _ _ _ => idle, ?_⟩
  rintro _ _ _ _ _ _ ⟨⟩

private theorem failsOnlyRefused_answer {client : Client Caller} {index : Nat}
    {flight : Flight Caller}
    (found : client.inFlight[index]? = some flight)
    (stored : ∀ caller, flight.task.handler = .refreshAccessToken (.validateToken caller) →
      (sentRefreshToken flight.task.request).map owner = client.defaults.refreshToken.map owner) :
    FailsOnlyRefused owner client (.answer index (bareStatus 401)) := by
  constructor
  · rintro _ _ ⟨⟩
  · rintro _ _ other caller refresh sent ⟨⟩ there waiting _ kept carried
    cases Option.some.inj (found.symm.trans there)
    have same := stored caller waiting
    rw [carried, kept] at same
    exact ⟨rfl, Option.some.inj same⟩

/-- The tokens of a first session; the second has all others. -/
def isFirst (token : String) : Bool := ["access-A", "refresh-A"].contains token

def bothRefused : List (Client.Action Unit) :=
  [.validateToken (), .answer 0 (bareStatus 401), .answer 0 (bareStatus 401), .removeTokens,
    .saveToken "access-B" "refresh-B",
    .validateToken (), .answer 0 (bareStatus 401), .answer 0 (bareStatus 401), .removeTokens]

theorem endedForCause_refused_refresh :
    EachStep Client.step (EndedForCause isFirst)
      (.launch ⟨some "access-A", some "refresh-A", none⟩) bothRefused := by
  apply endedForCause_of_failsOnlyRefused
  refine (eachStep_cons rfl).mpr ⟨failsOnlyRefused_of_other isFirst (by simp) (by simp), ?_⟩
  refine (eachStep_cons rfl).mpr ⟨failsOnlyRefused_answer isFirst rfl (by simp), ?_⟩
  refine (eachStep_cons rfl).mpr ⟨failsOnlyRefused_answer isFirst rfl fun _ _ => rfl, ?_⟩
  refine (eachStep_cons rfl).mpr ⟨failsOnlyRefused_of_other isFirst (by simp) (by simp), ?_⟩
  refine (eachStep_cons rfl).mpr ⟨failsOnlyRefused_saveToken isFirst rfl, ?_⟩
  refine (eachStep_cons rfl).mpr ⟨failsOnlyRefused_of_other isFirst (by simp) (by simp), ?_⟩
  refine (eachStep_cons rfl).mpr ⟨failsOnlyRefused_answer isFirst rfl (by simp), ?_⟩
  refine (eachStep_cons rfl).mpr ⟨failsOnlyRefused_answer isFirst rfl fun _ _ => rfl, ?_⟩
  exact (eachStep_cons rfl).mpr ⟨failsOnlyRefused_of_other isFirst (by simp) (by simp), trivial⟩

/-- A refresh that fails by a network error ends the session, although the server
refused nothing. -/
theorem not_endedForCause_network_error :
    ¬ ∀ actions : List (Client.Action Unit),
      EachStep Client.step (EndedForCause fun _ => ())
        (.launch ⟨some "access", some "refresh", none⟩) actions := by
  intro always
  have last := EachStep.last Client.Action.removeTokens
    (always ([.validateToken (), .answer 0 (bareStatus 401), .answer 0 networkError] ++
      [.removeTokens])) rfl rfl
  rcases last _ "access" "refresh" rfl rfl rfl (Or.inl rfl) with
    impossible | ⟨_, request, result, sent, queue, _, status, _, _⟩
  · cases impossible
  · cases queue
    cases status

end SmartMeal.SessionEnd
