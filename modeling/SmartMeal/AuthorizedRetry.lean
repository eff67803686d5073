/-
What an authorized request that completes has done.

Whatever the server answers and whenever the main queue runs, the exchanges of one call
alternate: a refused attempt is followed by a refresh or ends the call, a granted refresh
by the same request under the granted token.  The completion is called once, with the
outcome of the last exchange.
-/

import SmartMeal.Conversation

namespace SmartMeal.AuthorizedRetry

open PartialStep RefreshTermination Conversation

variable {Validation Answered : Type}

def lastAttempt (exchanged : List (Exchanged Validation Answered)) :
    Option (Exchanged Validation Answered) :=
  (exchanged.filter fun exchange => exchange.task.isAttempt).getLast?

/-- An attempt that anything follows was answered 401, an attempt that follows anything
carries the token just granted, and nothing follows a denied refresh. -/
structure Retries (exchanged : List (Exchanged Validation Answered)) : Prop where
  refused : ∀ done attempt later, exchanged = done ++ attempt :: later →
    attempt.task.isAttempt = true → later ≠ [] → attempt.result.statusCode = some 401
  renewed : ∀ done attempt later, exchanged = done ++ attempt :: later →
    attempt.task.isAttempt = true → done ≠ [] →
      ∃ earlier refresh token, done = earlier ++ [refresh] ∧ refresh.task.isAttempt = false ∧
        grantedAccessToken refresh.result = some token ∧
        attempt.task.request.bearer = some token
  final : ∀ done refresh later, exchanged = done ++ refresh :: later →
    refresh.task.isAttempt = false → grantedAccessToken refresh.result = none → later = []

/-- Without a stored access token nothing is sent; with one, a first attempt that carries it. -/
def BeginsStored (defaults : UserDefaults) (exchanged : List (Exchanged Validation Answered)) :
    Prop :=
  match defaults.authToken with
  | none => exchanged = []
  | some token => ∃ first later, exchanged = first :: later ∧ first.task.isAttempt = true ∧
      first.task.request.bearer = some token

/-- One completion; the same request in every attempt; and the outcome of the last
exchange, or an error when no refresh could be had or no token was stored. -/
structure DeliversOneOutcome (call : AuthorizedCall Answered)
    (conversation : Conversation Validation Answered) : Prop where
  retries : Retries conversation.exchanged
  once : ∃ result, conversation.completions = [.answered call.completion result]
  repeated : ∀ attempt ∈ conversation.exchanged, attempt.task.isAttempt = true →
    attempt.task.request.url = call.url ∧ attempt.task.request.httpMethod = call.method ∧
      attempt.task.request.httpBody = call.body
  delivered : ∀ attempt, lastAttempt conversation.exchanged = some attempt →
    attempt.result.statusCode ≠ some 401 →
      conversation.completions = [.answered call.completion attempt.result]
  failed : ∀ done refresh, conversation.exchanged = done ++ [refresh] →
    refresh.task.isAttempt = false → grantedAccessToken refresh.result = none →
      ∃ response, conversation.completions =
        [.answered call.completion ⟨none, response, some failedToRefreshToken⟩]
  unrefreshed : ∀ done attempt, conversation.exchanged = done ++ [attempt] →
    attempt.task.isAttempt = true → attempt.result.statusCode = some 401 →
      conversation.completions = [.answered call.completion
        ⟨none, attempt.result.response, some failedToRefreshToken⟩]
  unauthorized : conversation.exchanged = [] →
    conversation.completions =
      [.answered call.completion ⟨none, none, some noAccessToken⟩]

/-- One completion, with true exactly when the last attempt was answered 200. -/
structure ValidatesOnce (completion : Validation)
    (conversation : Conversation Validation Answered) : Prop where
  retries : Retries conversation.exchanged
  once : ∃ isValid, conversation.completions = [.validated completion isValid]
  requested : ∀ attempt ∈ conversation.exchanged, attempt.task.isAttempt = true →
    ∃ token, attempt.task.request = meRequest token
  valid : conversation.completions = [.validated completion true] ↔
    (lastAttempt conversation.exchanged).bind (fun attempt => attempt.result.statusCode) =
      some 200

/-- When the refresh token changes, a denied refresh is the last exchange, and the
removal that it queued takes the token away. -/
def ChangesByRemoval (before : Conversation Validation Answered) (action : Action)
    (after : Conversation Validation Answered) : Prop :=
  after.defaults.refreshToken ≠ before.defaults.refreshToken →
    action = .removeTokens ∧ after.defaults.refreshToken = none ∧
      ∃ done refresh, before.exchanged = done ++ [refresh] ∧
        refresh.task.isAttempt = false ∧ grantedAccessToken refresh.result = none

variable {retried : Retried Validation Answered} {defaults : UserDefaults}
  {actions : List Action} {conversation : Conversation Validation Answered}

/-! ### The alternation -/

private theorem attempt_bearer (token : String) :
    (retried.attempt token).request.bearer = some token := by
  cases retried <;> rfl

private theorem attempt_of_exchanged
    (arrived : run step (start retried defaults) actions = some conversation)
    {attempt : Exchanged Validation Answered} (member : attempt ∈ conversation.exchanged)
    (attempts : attempt.task.isAttempt = true) :
    ∃ token, attempt.task = retried.attempt token := by
  obtain ⟨done, later, splits⟩ := List.append_of_mem member
  have sends := sends_of_exchanged arrived splits
  generalize attempt.task = task at sends attempts
  cases sends with
  | first _ => exact ⟨_, rfl⟩
  | refresh _ _ => cases attempts
  | again _ => exact ⟨_, rfl⟩

private theorem retries_of_run
    (arrived : run step (start retried defaults) actions = some conversation) :
    Retries conversation.exchanged := by
  have following : ∀ done exchange later next, conversation.exchanged =
      done ++ exchange :: next :: later → Sends retried defaults (done ++ [exchange]) next.task := by
    intro done exchange later next splits
    have regrouped : conversation.exchanged = (done ++ [exchange]) ++ next :: later := by
      rw [splits, List.append_assoc]
      rfl
    exact sends_of_exchanged arrived regrouped
  constructor
  case refused =>
    intro done attempt later splits attempts followed
    obtain ⟨next, rest, rfl⟩ := List.exists_cons_of_ne_nil followed
    rcases sends_after (following done attempt rest next splits) with
      ⟨_, refused, _⟩ | ⟨refreshes, _⟩
    · exact refused
    · rw [attempts] at refreshes
      cases refreshes
  case renewed =>
    intro done attempt later splits attempts preceded
    obtain rfl | ⟨earlier, refresh, rfl⟩ := List.eq_nil_or_concat' done
    · exact absurd rfl preceded
    · rcases sends_after (sends_of_exchanged arrived splits) with
        ⟨_, _, _, _, same⟩ | ⟨refreshes, token, granted, same⟩
      · rw [same] at attempts
        cases attempts
      · exact ⟨earlier, refresh, token, rfl, refreshes, granted, by rw [same, attempt_bearer]⟩
  case final =>
    intro done refresh later splits refreshes denied
    cases later with
    | nil => rfl
    | cons next rest =>
        rcases sends_after (following done refresh rest next splits) with
          ⟨attempts, _⟩ | ⟨_, token, granted, _⟩
        · rw [refreshes] at attempts
          cases attempts
        · rw [denied] at granted
          cases granted

private theorem beginsStored_of_run
    (arrived : run step (start retried defaults) actions = some conversation)
    (completed : conversation.Completed) : BeginsStored defaults conversation.exchanged := by
  obtain ⟨effects, ends, _⟩ := ends_of_completed (traced_run arrived) completed
  unfold BeginsStored
  cases exchanged : conversation.exchanged with
  | nil =>
      rw [exchanged] at ends
      rw [(ends_first ends).1]
  | cons first later =>
      have splits : conversation.exchanged = [] ++ first :: later := exchanged
      have sends := sends_of_exchanged arrived splits
      generalize begins : ([] : List (Exchanged Validation Answered)) = done at sends
      generalize sent : first.task = task at sends
      cases sends with
      | first stored =>
          rw [stored]
          refine ⟨first, later, rfl, ?_, ?_⟩
          · rw [sent]
            exact isAttempt_attempt _
          · rw [sent, attempt_bearer]
      | refresh _ _ => simp at begins
      | again _ => simp at begins

/-! ### The last attempt -/

private theorem lastAttempt_append (done : List (Exchanged Validation Answered))
    (exchange : Exchanged Validation Answered) :
    lastAttempt (done ++ [exchange]) =
      if exchange.task.isAttempt = true then some exchange else lastAttempt done := by
  unfold lastAttempt
  rw [List.filter_append]
  by_cases attempts : exchange.task.isAttempt = true
  · simp [attempts]
  · simp [attempts]

private theorem split_of_lastAttempt {exchanged : List (Exchanged Validation Answered)}
    {attempt : Exchanged Validation Answered} (last : lastAttempt exchanged = some attempt) :
    attempt.task.isAttempt = true ∧ ∃ done later, exchanged = done ++ attempt :: later := by
  obtain ⟨member, attempts⟩ := List.mem_filter.mp (List.mem_of_getLast? last)
  exact ⟨attempts, List.append_of_mem member⟩

private theorem Retries.last_of_accepted {exchanged : List (Exchanged Validation Answered)}
    (retries : Retries exchanged) {attempt : Exchanged Validation Answered}
    (last : lastAttempt exchanged = some attempt)
    (accepted : attempt.result.statusCode ≠ some 401) :
    attempt.task.isAttempt = true ∧ ∃ done, exchanged = done ++ [attempt] := by
  obtain ⟨attempts, done, later, splits⟩ := split_of_lastAttempt last
  cases later with
  | nil => exact ⟨attempts, done, splits⟩
  | cons next rest =>
      exact absurd (retries.refused done attempt (next :: rest) splits attempts
        (List.cons_ne_nil next rest)) accepted

private theorem Retries.refused_before {done : List (Exchanged Validation Answered)}
    {refresh attempt : Exchanged Validation Answered} (retries : Retries (done ++ [refresh]))
    (last : lastAttempt done = some attempt) : attempt.result.statusCode = some 401 := by
  obtain ⟨attempts, earlier, later, rfl⟩ := split_of_lastAttempt last
  refine retries.refused earlier attempt (later ++ [refresh]) ?_ attempts (by simp)
  exact List.append_assoc earlier (attempt :: later) [refresh]

/-! ### The outcome -/

private theorem deliversOneOutcome {call : AuthorizedCall Answered}
    (arrived : run step (start (.performAuthorizedRequest call) defaults) actions =
      some conversation)
    (completed : conversation.Completed) : DeliversOneOutcome call conversation := by
  obtain ⟨effects, ends, called⟩ := ends_of_completed (traced_run arrived) completed
  have retries := retries_of_run arrived
  have ending : ∀ done exchange, conversation.exchanged = done ++ [exchange] →
      Ends (.performAuthorizedRequest call) defaults (done ++ [exchange]) effects := by
    intro done exchange splits
    rw [← splits]
    exact ends
  constructor
  case retries => exact retries
  case once =>
    rw [called]
    generalize conversation.exchanged = exchanged at ends
    cases ends <;> exact ⟨_, rfl⟩
  case repeated =>
    intro attempt member attempts
    obtain ⟨token, same⟩ := attempt_of_exchanged arrived member attempts
    rw [same]
    exact ⟨rfl, rfl, rfl⟩
  case delivered =>
    intro attempt last accepted
    obtain ⟨attempts, done, splits⟩ := retries.last_of_accepted last accepted
    rcases ends_after (ending done attempt splits) with
      ⟨_, _, rfl⟩ | ⟨_, refused, _⟩ | ⟨refreshes, _⟩
    · exact called
    · exact absurd refused accepted
    · rw [attempts] at refreshes
      cases refreshes
  case failed =>
    intro done refresh splits refreshes denied
    rcases ends_after (ending done refresh splits) with
      ⟨attempts, _⟩ | ⟨attempts, _⟩ | ⟨_, _, response, rfl⟩
    · rw [refreshes] at attempts
      cases attempts
    · rw [refreshes] at attempts
      cases attempts
    · exact ⟨response, called⟩
  case unrefreshed =>
    intro done attempt splits attempts refused
    rcases ends_after (ending done attempt splits) with
      ⟨_, accepted, _⟩ | ⟨_, _, rfl⟩ | ⟨refreshes, _⟩
    · exact absurd refused accepted
    · exact called
    · rw [attempts] at refreshes
      cases refreshes
  case unauthorized =>
    intro nothing
    rw [nothing] at ends
    cases (ends_first ends).2
    exact called

private theorem validatesOnce {completion : Validation}
    (arrived : run step (start (.validateToken completion) defaults) actions = some conversation)
    (completed : conversation.Completed) : ValidatesOnce completion conversation := by
  obtain ⟨effects, ends, called⟩ := ends_of_completed (traced_run arrived) completed
  have retries := retries_of_run arrived
  constructor
  case retries => exact retries
  case once =>
    rw [called]
    generalize conversation.exchanged = exchanged at ends
    cases ends <;> exact ⟨_, rfl⟩
  case requested =>
    intro attempt member attempts
    obtain ⟨token, same⟩ := attempt_of_exchanged arrived member attempts
    exact ⟨token, by rw [same]; rfl⟩
  case valid =>
    rw [called]
    obtain nothing | ⟨done, exchange, splits⟩ := List.eq_nil_or_concat' conversation.exchanged
    · rw [nothing] at ends ⊢
      cases (ends_first ends).2
      change [Effect.validated completion false] = _ ↔ none = some 200
      simp
    · rw [splits] at ends retries ⊢
      rw [ends_valid_iff ends, lastAttempt_append]
      by_cases attempts : exchange.task.isAttempt = true
      · rw [if_pos attempts]
        simp [attempts]
      · rw [if_neg attempts]
        apply iff_of_false
        · intro accepted
          exact attempts accepted.1
        · cases last : lastAttempt done with
          | none => simp
          | some attempt => simp [retries.refused_before last]

private theorem changesByRemoval {completion : Validation}
    (arrived : run step (start (.validateToken completion) defaults) actions = some conversation)
    {action : Action} {next : Conversation Validation Answered}
    (taken : step conversation action = some next) :
    ChangesByRemoval conversation action next := by
  intro changed
  cases action with
  | answered index result =>
      obtain ⟨task, _, rfl⟩ := step_answered taken
      exact absurd (answered_refreshToken task result conversation.defaults) changed
  | removeTokens =>
      obtain ⟨removals, queued, rfl⟩ := step_removeTokens taken
      refine ⟨rfl, rfl, ?_⟩
      cases traced_run arrived with
      | waits sends => cases queued
      | cleared ends _ => cases queued
      | ended ends =>
          cases ends with
          | unauthorized _ => cases queued
          | delivered _ => cases queued
          | unrefreshed _ absent => exact absurd absent.symm changed
          | failed denied => exact ⟨_, _, rfl, rfl, denied⟩

/-! ### Every completed call -/

/-- From any stored keys, along any answers and at any moment of the main queue. -/
theorem authorizedRetry (defaults : UserDefaults) (actions : List Action)
    (conversation : Conversation Validation Answered) :
    (∀ call : AuthorizedCall Answered,
      run step (start (.performAuthorizedRequest call) defaults) actions = some conversation →
        conversation.Completed → BeginsStored defaults conversation.exchanged ∧
          DeliversOneOutcome call conversation) ∧
    (∀ completion : Validation,
      run step (start (.validateToken completion) defaults) actions = some conversation →
        (conversation.Completed → BeginsStored defaults conversation.exchanged ∧
          ValidatesOnce completion conversation) ∧
        ∀ action next, step conversation action = some next →
          ChangesByRemoval conversation action next) := by
  constructor
  · intro call arrived completed
    exact ⟨beginsStored_of_run arrived completed, deliversOneOutcome arrived completed⟩
  · intro completion arrived
    constructor
    · intro completed
      exact ⟨beginsStored_of_run arrived completed, validatesOnce arrived completed⟩
    · intro action next taken
      exact changesByRemoval arrived taken

def bearers (conversation : Conversation Validation Answered) : List (Option String) :=
  conversation.exchanged.map fun exchange => exchange.task.request.bearer

def saving : AuthorizedCall Unit :=
  { url := "https://api.smartmeal.kz/v1/auth/saved-recipes/", method := "POST", body := none,
    completion := () }

/-- A refused attempt is repeated under the token that was granted. -/
theorem authorizedRetry_repeated :
    ∃ posted validated : Conversation Unit Unit,
      bearers posted = [some "access", none, some "granted"] ∧
      DeliversOneOutcome saving posted ∧
      bearers validated = [some "access", none, some "granted"] ∧
      ValidatesOnce () validated := by
  let defaults : UserDefaults := ⟨some "access", some "refresh", none⟩
  let actions : List Action :=
    [.answered 0 (bareStatus 401), .answered 0 (grantBody "granted"), .answered 0 (bareStatus 200)]
  obtain ⟨posted, postedEq⟩ : ∃ posted : Conversation Unit Unit,
      run step (start (.performAuthorizedRequest saving) defaults) actions = some posted := ⟨_, rfl⟩
  obtain ⟨validated, validatedEq⟩ : ∃ validated : Conversation Unit Unit,
      run step (start (.validateToken ()) defaults) actions = some validated := ⟨_, rfl⟩
  have postedDone : posted.waiting = [] := by cases postedEq; rfl
  have validatedDone : validated.waiting = [] := by cases validatedEq; rfl
  refine ⟨posted, validated, ?_, ?_, ?_, ?_⟩
  · cases postedEq; rfl
  · exact ((authorizedRetry defaults actions posted).1 _ postedEq (.inl postedDone)).2
  · cases validatedEq; rfl
  · exact (((authorizedRetry defaults actions validated).2 () validatedEq).1
      (.inl validatedDone)).2

end SmartMeal.AuthorizedRetry
