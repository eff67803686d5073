/-
Under whose account a favorite is written.

An edit spawns a task and keeps nothing of the session it was made in: the access
token is read when the task runs, and a refused attempt reads the refresh token
that is stored when its 401 arrives.  With an honest server an accepted write is
authorized by the session of its edit as soon as each of these reads finds a
token of that session; this holds in particular while nobody logs in or out
between an edit and the reads it leads to.
-/

import SmartMeal.SessionTokens

namespace SmartMeal.FavoriteWrites

open PartialStep SessionTokens

variable {Caller Session : Type} (owner : String → Session)

/-- Every write the server has accepted carries an access token of the session in
which the user made the edit. -/
def AcceptedInSession (client : Client Caller) : Prop :=
  ∀ write request, (write, request) ∈ client.accepted →
    ∃ token tapped, request.bearer = some token ∧ write.tapped = some tapped ∧
      owner token = owner tapped

/-- The token that a write reads, when its task runs and when a 401 arrives,
belongs to the session of its edit. -/
def ReadsTapSession (client : Client Caller) (action : Client.Action Caller) : Prop :=
  (∀ index write token, action = .runTask index → client.spawned[index]? = some write →
    client.defaults.authToken = some token → write.tapped.map owner = some (owner token)) ∧
  ∀ index result flight call refresh, action = .answer index result →
    client.inFlight[index]? = some flight →
    flight.task.handler = .performAuthorizedRequest call → result.statusCode = some 401 →
    client.defaults.refreshToken = some refresh →
      call.completion.tapped.map owner = some (owner refresh)

/-! ### The tokens of waiting writes -/

/-- A waiting write carries its own arguments and a token of the session of its
edit, whether it waits for the server or for a refresh. -/
def CarriesTapSession (task : DataTask Caller Write) : Prop :=
  match task.handler with
  | .performAuthorizedRequest call =>
      ∃ token, task.request = authorizedRequest token call ∧
        call.completion.tapped.map owner = some (owner token)
  | .refreshAccessToken (.performAuthorizedRequest call _) =>
      ∃ sent, task.request = refreshRequest sent ∧
        call.completion.tapped.map owner = some (owner sent)
  | _ => True

private theorem carriesTapSession_step {client next : Client Caller} {action : Client.Action Caller}
    (waiting : ∀ flight ∈ client.inFlight, CarriesTapSession owner flight.task)
    (honest : HonestServer owner client action) (reads : ReadsTapSession owner client action)
    (taken : client.step action = some next) :
    ∀ flight ∈ next.inFlight, CarriesTapSession owner flight.task := by
  refine Client.inFlight_step _ waiting ?_ ?_ ?_ ?_ taken
  · intro caller token _ _
    trivial
  · intro caller sent _ _
    trivial
  · intro index write token same found stored
    exact ⟨token, rfl, reads.1 index write token same found stored⟩
  · intro index result flight started same found resumes
    rcases DataTask.mem_resumed resumes with
      ⟨sent, completion, refused, stored, rfl, hCaller | hCall⟩ |
        ⟨completion, token, hHandler, granted, rfl⟩
    · obtain ⟨caller, _, rfl⟩ := hCaller
      trivial
    · obtain ⟨call, hHandler, rfl⟩ := hCall
      exact ⟨sent, rfl, reads.2 index result flight call sent same found hHandler refused stored⟩
    · cases completion with
      | validateToken caller => trivial
      | performAuthorizedRequest call response =>
          have before := waiting flight (List.mem_of_getElem? found)
          unfold CarriesTapSession at before
          rw [hHandler] at before
          obtain ⟨sent, requestEq, tapped⟩ := before
          have grantEq : client.grant action = some (flight.task.request, token) := by
            rw [same, Client.grant_answer found, hHandler, granted]
            rfl
          have ownerEq : owner token = owner sent :=
            honest.2 flight.task.request token sent grantEq (by rw [requestEq]; rfl)
          exact ⟨token, rfl, by rw [tapped, ownerEq]⟩

private theorem acceptedInSession_step {client next : Client Caller} {action : Client.Action Caller}
    (waiting : ∀ flight ∈ client.inFlight, CarriesTapSession owner flight.task)
    (before : AcceptedInSession owner client) (taken : client.step action = some next) :
    AcceptedInSession owner next := by
  cases action with
  | accept index =>
      obtain ⟨request, call, found, rfl⟩ := Client.step_accept taken
      intro write other member
      rcases List.mem_append.mp member with earlier | here
      · exact before write other earlier
      · cases List.mem_singleton.mp here
        obtain ⟨token, requestEq, sameOwner⟩ := waiting _ (List.mem_of_getElem? found)
        obtain ⟨tapped, tappedEq, ownerEq⟩ := Option.map_eq_some_iff.mp sameOwner
        refine ⟨token, tapped, ?_, tappedEq, ownerEq.symm⟩
        change request = authorizedRequest token call at requestEq
        rw [requestEq]
        rfl
  | runTask index =>
      obtain ⟨write, _, rfl⟩ := Client.step_runTask taken
      exact before
  | answer index result =>
      obtain ⟨flight, _, _, rfl⟩ := Client.step_answer taken
      exact before
  | removeTokens =>
      obtain ⟨_, _, _, rfl⟩ := Client.step_removeTokens taken
      exact before
  | _ => cases taken; exact before

/-- From any launch, with an honest server, a run whose writes only read tokens of
the session of their edit has every write accepted under that session. -/
theorem acceptedInSession_throughout (defaults : UserDefaults) (actions : List (Client.Action Caller))
    (honest : EachStep Client.step (HonestServer owner) (.launch defaults) actions)
    (reads : EachStep Client.step (ReadsTapSession owner) (.launch defaults) actions) :
    Throughout Client.step (AcceptedInSession owner) (.launch defaults) actions := by
  refine throughout_mono
    (fun client =>
      (∀ flight ∈ client.inFlight, CarriesTapSession owner flight.task) ∧
        AcceptedInSession owner client)
    (fun _ both => both.2) (throughout_of_eachStep _ ?_ ⟨?_, ?_⟩ (honest.and reads))
  · rintro client action next ⟨waiting, before⟩ ⟨honestHere, readsHere⟩ taken
    exact ⟨carriesTapSession_step owner waiting honestHere readsHere taken,
      acceptedInSession_step owner waiting before taken⟩
  · intro flight impossible
    cases impossible
  · intro write request impossible
    cases impossible

def isOfA (token : String) : Bool := token == "access-A" || token == "refresh-A"

def oneAfterTheOther : List (Client.Action Unit) :=
  [.addToFavorites (.titled 1 "Plov"), .runTask 0, .accept 0, .signOut,
    .saveToken "access-B" "refresh-B", .addToFavorites (.titled 2 "Lagman"), .runTask 0, .accept 1]

private theorem readsTapSession_runTask {client : Client Caller} {index : Nat} {write : Write}
    {token : String} (found : client.spawned[index]? = some write)
    (stored : client.defaults.authToken = some token)
    (same : write.tapped.map owner = some (owner token)) :
    ReadsTapSession owner client (.runTask index) := by
  constructor
  · rintro _ other read ⟨⟩ there given
    cases Option.some.inj (found.symm.trans there)
    cases Option.some.inj (stored.symm.trans given)
    exact same
  · rintro _ _ _ _ _ ⟨⟩

private theorem readsTapSession_of_other {client : Client Caller} {action : Client.Action Caller}
    (runs : ∀ index, action ≠ .runTask index)
    (answers : ∀ index result, action ≠ .answer index result) :
    ReadsTapSession owner client action :=
  ⟨fun _ _ _ same => absurd same (runs _), fun _ _ _ _ _ same => absurd same (answers _ _)⟩

theorem acceptedInSession_throughout_undisturbed_add :
    Throughout Client.step (AcceptedInSession isOfA)
      (.launch ⟨some "access-A", some "refresh-A", none⟩) oneAfterTheOther := by
  refine acceptedInSession_throughout isOfA _ _ ?_ ?_
  · apply eachStep_of_actions
    simp [oneAfterTheOther, HonestServer, Client.grant, isOfA]
  refine (eachStep_cons rfl).mpr ⟨readsTapSession_of_other isOfA (by simp) (by simp), ?_⟩
  refine (eachStep_cons rfl).mpr ⟨readsTapSession_runTask isOfA rfl rfl rfl, ?_⟩
  refine (eachStep_cons rfl).mpr ⟨readsTapSession_of_other isOfA (by simp) (by simp), ?_⟩
  refine (eachStep_cons rfl).mpr ⟨readsTapSession_of_other isOfA (by simp) (by simp), ?_⟩
  refine (eachStep_cons rfl).mpr ⟨readsTapSession_of_other isOfA (by simp) (by simp), ?_⟩
  refine (eachStep_cons rfl).mpr ⟨readsTapSession_of_other isOfA (by simp) (by simp), ?_⟩
  refine (eachStep_cons rfl).mpr ⟨readsTapSession_runTask isOfA rfl rfl rfl, ?_⟩
  exact (eachStep_cons rfl).mpr ⟨readsTapSession_of_other isOfA (by simp) (by simp), trivial⟩

/-- Account A adds a recipe and signs out, account B logs in, and only then the
spawned task runs: A's recipe is written to B's list. -/
theorem not_acceptedInSession_after_account_switch :
    ¬ ∀ actions : List (Client.Action Unit),
      EachStep Client.step (HonestServer isOfA)
          (.launch ⟨some "access-A", some "refresh-A", none⟩) actions →
        Throughout Client.step (AcceptedInSession isOfA)
          (.launch ⟨some "access-A", some "refresh-A", none⟩) actions := by
  intro always
  have accepted := (throughout_iff_prefixes _ _).mp
    (always
      [.addToFavorites (.titled 1 "Plov"), .signOut, .saveToken "access-B" "refresh-B",
        .runTask 0, .accept 0] ?_) _ (List.prefix_refl _) _ rfl
  · obtain ⟨token, tapped, bearer, tappedEq, sameOwner⟩ := accepted _ _ List.mem_cons_self
    cases bearer
    cases tappedEq
    exact absurd sameOwner (by decide)
  · apply eachStep_of_actions
    simp [HonestServer, Client.grant, isOfA]

/-! ### In terms of logins -/

def ReadsUnderTapLogin (client : Client Caller) (action : Client.Action Caller) : Prop :=
  (∀ index write, action = .runTask index → client.spawned[index]? = some write →
    client.login.map owner = write.tapped.map owner) ∧
  ∀ index result flight call, action = .answer index result →
    client.inFlight[index]? = some flight →
    flight.task.handler = .performAuthorizedRequest call → result.statusCode = some 401 →
      client.login.map owner = call.completion.tapped.map owner

private theorem login_step {client next : Client Caller} {action : Client.Action Caller}
    (taken : client.step action = some next) :
    next.login.map owner = sessionStep owner (client.login.map owner) action := by
  cases action with
  | runTask index =>
      obtain ⟨_, _, rfl⟩ := Client.step_runTask taken
      rfl
  | accept index =>
      obtain ⟨_, _, _, rfl⟩ := Client.step_accept taken
      rfl
  | answer index result =>
      obtain ⟨_, _, _, rfl⟩ := Client.step_answer taken
      rfl
  | removeTokens =>
      obtain ⟨_, _, _, rfl⟩ := Client.step_removeTokens taken
      rfl
  | _ => cases taken; rfl

/-- While grants land in their sessions, it is enough that no login and no
sign-out separates an edit from the reads it leads to. -/
theorem readsTapSession_of_readsUnderTapLogin {defaults : UserDefaults}
    {actions : List (Client.Action Caller)} (stored : SameSession owner defaults)
    (honest : EachStep Client.step (HonestServer owner) (.launch defaults) actions)
    (lands : EachStep Client.step (GrantLandsInItsSession owner) (.launch defaults) actions)
    (under : EachStep Client.step (ReadsUnderTapLogin owner) (.launch defaults) actions) :
    EachStep Client.step (ReadsTapSession owner) (.launch defaults) actions := by
  refine eachStep_of_eachStep
    (fun client => client.RefreshesCarryTokens ∧
      Represents owner client.defaults (client.login.map owner))
    ?_ ?_ ⟨?_, rfl, ?_⟩ ((honest.and lands).and under)
  · rintro client action next ⟨carried, shown⟩ ⟨⟨honestHere, landsHere⟩, _⟩ taken
    refine ⟨Client.refreshesCarryTokens_step carried taken, ?_⟩
    rw [login_step owner taken]
    exact represents_step owner carried shown honestHere landsHere taken
  · rintro client action next ⟨_, authShown, refreshShown⟩ ⟨_, underHere⟩ _
    constructor
    · intro index write token same found read
      rw [← underHere.1 index write same found, ← authShown, read]
      rfl
    · intro index result flight call refresh same found hHandler status read
      rw [← underHere.2 index result flight call same found hHandler status, ← refreshShown, read]
      rfl
  · intro flight impossible
    cases impossible
  · exact ((sameSession_iff owner defaults).mp stored).symm

end SmartMeal.FavoriteWrites
