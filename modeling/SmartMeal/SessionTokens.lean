/-
Whether the two stored tokens belong to one login session.

Every path of the app writes or removes the two tokens together, except one: a
granted refresh stores its access token without looking at the refresh token that
is stored by then.  A run keeps the pair consistent exactly when every grant
lands while a refresh token of the session that asked for it is stored.  Such
runs follow an abstract machine that only knows which session is open.
-/

import SmartMeal.Client

namespace SmartMeal.SessionTokens

open PartialStep

variable {Caller Session : Type} (owner : String → Session)

/-- Both tokens are stored or neither is, and a stored pair has one owner. -/
def SameSession (defaults : UserDefaults) : Prop :=
  (defaults.authToken.isSome ↔ defaults.refreshToken.isSome) ∧
  ∀ access refresh, defaults.authToken = some access → defaults.refreshToken = some refresh →
    owner access = owner refresh

/-- A login delivers two tokens of one session, and a refresh is granted an access
token of the session that owns the refresh token sent. -/
def HonestServer (client : Client Caller) (action : Client.Action Caller) : Prop :=
  (∀ access refresh, action = .saveToken access refresh → owner access = owner refresh) ∧
  ∀ request token sent, client.grant action = some (request, token) →
    sentRefreshToken request = some sent → owner token = owner sent

/-- A grant finds a refresh token of the session of the token that was sent. -/
def GrantLandsInItsSession (client : Client Caller) (action : Client.Action Caller) : Prop :=
  ∀ request token sent, client.grant action = some (request, token) →
    sentRefreshToken request = some sent →
      client.defaults.refreshToken.map owner = some (owner sent)

theorem sameSession_iff (defaults : UserDefaults) :
    SameSession owner defaults ↔
      defaults.authToken.map owner = defaults.refreshToken.map owner := by
  unfold SameSession
  cases defaults.authToken with
  | none => cases defaults.refreshToken <;> simp
  | some access => cases defaults.refreshToken <;> simp

private theorem grant_carries {client : Client Caller} {action : Client.Action Caller}
    {request : URLRequest}
    {token : String} (carried : client.RefreshesCarryTokens)
    (granted : client.grant action = some (request, token)) :
    ∃ sent, sentRefreshToken request = some sent := by
  cases action with
  | answer index result =>
      cases found : client.inFlight[index]? with
      | none => simp [Client.grant, found] at granted
      | some flight =>
          rw [Client.grant_answer found] at granted
          have member : flight ∈ client.inFlight := List.mem_of_getElem? found
          split at granted
          · rename_i completion hHandler
            obtain ⟨sent, same⟩ := carried flight member completion hHandler
            obtain ⟨_, _, pairEq⟩ := Option.map_eq_some_iff.mp granted
            have requestEq : flight.task.request = request := congrArg Prod.fst pairEq
            rw [← requestEq, same]
            exact ⟨sent, rfl⟩
          · cases granted
  | _ => simp [Client.grant] at granted

private theorem sameSession_step {client next : Client Caller} {action : Client.Action Caller}
    (carried : client.RefreshesCarryTokens) (same : SameSession owner client.defaults)
    (honest : HonestServer owner client action) (taken : client.step action = some next) :
    SameSession owner next.defaults ↔ GrantLandsInItsSession owner client action := by
  rw [sameSession_iff] at same ⊢
  rcases Client.step_tokens taken with
    ⟨access, refresh, rfl, changed⟩ | ⟨removing, changed⟩ |
      ⟨request, token, granted, changed⟩ | ⟨noGrant, authKept, refreshKept⟩
  · have ownerEq := honest.1 access refresh rfl
    rw [changed]
    exact iff_of_true (by simp [saveToken, ownerEq]) (fun _ _ _ granted => by cases granted)
  · rw [changed]
    refine iff_of_true rfl fun _ _ _ granted => ?_
    rcases removing with rfl | rfl <;> cases granted
  · obtain ⟨sent, carriedToken⟩ := grant_carries carried granted
    have ownerEq := honest.2 request token sent granted carriedToken
    rw [changed]
    constructor
    · intro pair request' token' sent' granted' carried'
      have samePair := Option.some.inj (granted.symm.trans granted')
      cases samePair
      cases Option.some.inj (carriedToken.symm.trans carried')
      rw [← ownerEq]
      exact pair.symm
    · intro lands
      rw [lands request token sent granted carriedToken, ← ownerEq]
      rfl
  · rw [authKept, refreshKept]
    refine iff_of_true same fun _ _ _ granted => ?_
    rw [noGrant] at granted
    cases granted

/-- From both keys absent, a run with an honest server keeps the stored tokens
of one session in every state exactly when every grant lands in its session. -/
theorem sameSession_throughout_iff (favorites : Option Data) (actions : List (Client.Action Caller))
    (honest : EachStep Client.step (HonestServer owner) (.launch ⟨none, none, favorites⟩) actions) :
    Throughout Client.step (fun client => SameSession owner client.defaults)
        (.launch ⟨none, none, favorites⟩) actions ↔
      EachStep Client.step (GrantLandsInItsSession owner) (.launch ⟨none, none, favorites⟩)
        actions := by
  refine throughout_iff_eachStep Client.RefreshesCarryTokens ?_ ?_ honest ?_ ?_
  · intro client action next carried taken
    exact Client.refreshesCarryTokens_step carried taken
  · intro client action next carried same honestHere taken
    exact sameSession_step owner carried same honestHere taken
  · intro flight impossible
    cases impossible
  · exact (sameSession_iff owner _).mpr rfl

/-- The tokens of a first session; the second has all others. -/
def isFirst (token : String) : Bool := ["access-A", "refresh-A", "fresh-A"].contains token

def undisturbedRefresh : List (Client.Action Unit) :=
  [.saveToken "access-A" "refresh-A", .refreshAccessToken (), .answer 0 (grantBody "fresh-A"),
    .signOut, .saveToken "access-B" "refresh-B"]

theorem sameSession_throughout_undisturbed_refresh :
    Throughout Client.step (fun client => SameSession isFirst client.defaults)
      (.launch ⟨none, none, none⟩ : Client Unit) undisturbedRefresh := by
  refine (sameSession_throughout_iff isFirst none _ ?_).mpr ?_
  · refine (eachStep_cons rfl).mpr ⟨⟨?_, fun _ _ _ granted _ => (by cases granted)⟩, ?_⟩
    · rintro _ _ ⟨⟩
      decide
    refine (eachStep_cons rfl).mpr
      ⟨⟨fun _ _ other => (by cases other), fun _ _ _ granted _ => (by cases granted)⟩, ?_⟩
    refine (eachStep_cons rfl).mpr ⟨⟨fun _ _ other => (by cases other), ?_⟩, ?_⟩
    · intro _ _ _ granted carried
      cases granted
      cases carried
      decide
    refine (eachStep_cons rfl).mpr
      ⟨⟨fun _ _ other => (by cases other), fun _ _ _ granted _ => (by cases granted)⟩, ?_⟩
    refine (eachStep_cons rfl).mpr
      ⟨⟨?_, fun _ _ _ granted _ => (by cases granted)⟩, trivial⟩
    rintro _ _ ⟨⟩
    decide
  · refine (eachStep_cons rfl).mpr ⟨fun _ _ _ granted _ => (by cases granted), ?_⟩
    refine (eachStep_cons rfl).mpr ⟨fun _ _ _ granted _ => (by cases granted), ?_⟩
    refine (eachStep_cons rfl).mpr ⟨?_, ?_⟩
    · intro _ _ _ granted carried
      cases granted
      cases carried
      rfl
    refine (eachStep_cons rfl).mpr ⟨fun _ _ _ granted _ => (by cases granted), ?_⟩
    exact (eachStep_cons rfl).mpr ⟨fun _ _ _ granted _ => (by cases granted), trivial⟩

/-- A sign-out between a refresh and its answer: the answer stores an access token
that no refresh token accompanies. -/
theorem not_sameSession_after_signOut :
    ¬ ∀ actions : List (Client.Action Unit),
      EachStep Client.step (HonestServer fun _ => ()) (.launch ⟨none, none, none⟩) actions →
        Throughout Client.step (fun client => SameSession (fun _ => ()) client.defaults)
          (.launch ⟨none, none, none⟩) actions := by
  intro always
  have broken := (throughout_iff_prefixes _ _).mp
    (always
      [.saveToken "access" "refresh", .refreshAccessToken (), .signOut,
        .answer 0 (grantBody "fresh")]
      (eachStep_of_forall (fun _ _ => ⟨fun _ _ _ => rfl, fun _ _ _ _ _ => rfl⟩) _ _))
    _ (List.prefix_refl _) _ rfl
  have absent : (none : Option String).isSome := broken.1.mp rfl
  cases absent

/-! ### The abstract session -/

/-- Which session is open, seen from the events alone: a login opens one, and the
removal of the tokens closes it. -/
def sessionStep (session : Option Session) : Client.Action Caller → Option Session
  | .saveToken access _ => some (owner access)
  | .signOut => none
  | .removeTokens => none
  | _ => session

def Represents (defaults : UserDefaults) (session : Option Session) : Prop :=
  defaults.authToken.map owner = session ∧ defaults.refreshToken.map owner = session

theorem represents_step {client next : Client Caller} {session : Option Session}
    {action : Client.Action Caller} (carried : client.RefreshesCarryTokens)
    (shown : Represents owner client.defaults session)
    (honest : HonestServer owner client action)
    (lands : GrantLandsInItsSession owner client action)
    (taken : client.step action = some next) :
    Represents owner next.defaults (sessionStep owner session action) := by
  rcases shown with ⟨authShown, refreshShown⟩
  have same : SameSession owner next.defaults :=
    (sameSession_step owner carried
      ((sameSession_iff owner _).mpr (authShown.trans refreshShown.symm)) honest taken).mpr lands
  rw [sameSession_iff] at same
  -- The refresh token alone decides the session; the access token follows it.
  have refreshNext : next.defaults.refreshToken.map owner = sessionStep owner session action := by
    rcases Client.step_tokens taken with
      ⟨access, refresh, rfl, changed⟩ | ⟨removing, changed⟩ |
        ⟨request, token, granted, changed⟩ | ⟨noGrant, _, refreshKept⟩
    · have ownerEq := honest.1 access refresh rfl
      rw [changed]
      simp [saveToken, sessionStep, ownerEq]
    · rw [changed]
      rcases removing with rfl | rfl <;> rfl
    · rw [changed]
      cases action with
      | answer index result => exact refreshShown
      | _ => cases granted
    · rw [refreshKept]
      cases action with
      | saveToken access refresh =>
          cases taken
          have ownerEq := honest.1 access refresh rfl
          rw [← refreshKept]
          exact congrArg some ownerEq.symm
      | signOut =>
          cases taken
          rw [← refreshKept]
          rfl
      | removeTokens =>
          obtain ⟨_, _, _, rfl⟩ := Client.step_removeTokens taken
          rw [← refreshKept]
          rfl
      | _ => exact refreshShown
  exact ⟨same.trans refreshNext, refreshNext⟩

/-- In a run whose grants land in their sessions, the stored tokens are those of
the session opened last and not closed since; after a sign-out there is none. -/
theorem represents_run {favorites : Option Data} {actions : List (Client.Action Caller)}
    {reached : Client Caller}
    (honest : EachStep Client.step (HonestServer owner) (.launch ⟨none, none, favorites⟩) actions)
    (lands : EachStep Client.step (GrantLandsInItsSession owner)
      (.launch ⟨none, none, favorites⟩) actions)
    (arrived : run Client.step (.launch ⟨none, none, favorites⟩) actions = some reached) :
    Represents owner reached.defaults (actions.foldl (sessionStep owner) none) := by
  refine (run_refines (fun client session =>
    client.RefreshesCarryTokens ∧ Represents owner client.defaults session) ?_
    (honest.and lands) ⟨?_, rfl, rfl⟩ arrived).2
  · rintro client session action next ⟨carried, shown⟩ ⟨honestHere, landsHere⟩ taken
    exact ⟨Client.refreshesCarryTokens_step carried taken,
      represents_step owner carried shown honestHere landsHere taken⟩
  · intro flight impossible
    cases impossible

end SmartMeal.SessionTokens
