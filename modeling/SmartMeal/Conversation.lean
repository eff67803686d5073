/-
One call of an authorized request, followed to its end.

The server answers what is in flight, the main queue removes the tokens when it was
asked to, and nobody else writes the token keys.  The completions called and the answers
exchanged are history: the call never reads them.

Every state that is reached is of one of three forms: a request waits, the call has
ended, or the removal that a failed validation queued has run since.
-/

import SmartMeal.RefreshTermination
import SmartMeal.Library.History

namespace SmartMeal

open PartialStep RefreshTermination

variable {Validation Answered : Type}

structure Exchanged (Validation Answered : Type) where
  task : DataTask Validation Answered
  result : TaskResult

structure Conversation (Validation Answered : Type) where
  defaults : UserDefaults
  waiting : List (DataTask Validation Answered)
  removals : Nat
  completions : List (Effect Validation Answered)
  exchanged : List (Exchanged Validation Answered)

/-- Every task but that of `refreshAccessToken` attempts the request of the call. -/
def DataTask.isAttempt (task : DataTask Validation Answered) : Bool :=
  match task.handler with
  | .refreshAccessToken _ => false
  | _ => true

def Exchanged.grant (exchange : Exchanged Validation Answered) : Option String :=
  if exchange.task.isAttempt then none else grantedAccessToken exchange.result

namespace Conversation

inductive Action where
  | answered (index : Nat) (result : TaskResult)
  | removeTokens

def perform (conversation : Conversation Validation Answered)
    (outcome : Outcome Validation Answered) : Conversation Validation Answered :=
  { conversation with
    defaults := outcome.1
    waiting := conversation.waiting ++ resumed outcome.2
    removals := conversation.removals + (queuedRemovals outcome.2).length
    completions := conversation.completions ++ outcome.2.filter Effect.completes }

def start (retried : Retried Validation Answered) (defaults : UserDefaults) :
    Conversation Validation Answered :=
  perform { defaults := defaults, waiting := [], removals := 0, completions := [], exchanged := [] }
    (retried.start defaults)

def deliver (conversation : Conversation Validation Answered) (index : Nat)
    (task : DataTask Validation Answered) (result : TaskResult) :
    Conversation Validation Answered :=
  perform
    { conversation with
      waiting := conversation.waiting.eraseIdx index
      exchanged := conversation.exchanged ++ [{ task := task, result := result }] }
    (task.answered result conversation.defaults)

def step : Transition (Conversation Validation Answered) Action
  | conversation, .answered index result =>
      conversation.waiting[index]?.map fun task => conversation.deliver index task result
  | conversation, .removeTokens =>
      match conversation.removals with
      | 0 => none
      | removals + 1 =>
          some { conversation with
            defaults := SmartMeal.removeTokens conversation.defaults, removals := removals }

end Conversation

/-! ### What one answer leads to -/

namespace RefreshTermination.Retried

def refresh (retried : Retried Validation Answered) (response : Option URLResponse)
    (refreshToken : String) : DataTask Validation Answered :=
  ⟨refreshRequest refreshToken, .refreshAccessToken
    (match retried with
    | .validateToken completion => .validateToken completion
    | .performAuthorizedRequest call => .performAuthorizedRequest call response)⟩

def unauthorized (retried : Retried Validation Answered) : Effect Validation Answered :=
  match retried with
  | .validateToken completion => .validated completion false
  | .performAuthorizedRequest call =>
      .answered call.completion ⟨none, none, some noAccessToken⟩

def delivered (retried : Retried Validation Answered) (result : TaskResult) :
    Effect Validation Answered :=
  match retried with
  | .validateToken completion => .validated completion (result.statusCode == some 200)
  | .performAuthorizedRequest call => .answered call.completion result

/-- What follows when a refresh fails after an attempt with this response. -/
def failed (retried : Retried Validation Answered) (response : Option URLResponse) :
    List (Effect Validation Answered) :=
  match retried with
  | .validateToken completion => [.mainAsyncRemoveTokens, .validated completion false]
  | .performAuthorizedRequest call =>
      [.answered call.completion ⟨none, response, some failedToRefreshToken⟩]

variable (retried : Retried Validation Answered) (defaults : UserDefaults) (result : TaskResult)

private theorem start_eq :
    retried.start defaults =
      (defaults, defaults.authToken.elim [retried.unauthorized]
        fun token => [.resume (retried.attempt token)]) := by
  cases retried with
  | validateToken completion =>
      unfold Retried.start SmartMeal.validateToken
      cases defaults.authToken <;> rfl
  | performAuthorizedRequest call =>
      unfold Retried.start SmartMeal.performAuthorizedRequest
      cases defaults.authToken <;> rfl

theorem attempt_answered_of_accepted {token : String} (accepted : result.statusCode ≠ some 401) :
    (retried.attempt token).answered result defaults = (defaults, [retried.delivered result]) := by
  cases retried with
  | validateToken completion =>
      change validateTokenAnswered completion result defaults = _
      unfold validateTokenAnswered delivered
      cases status : result.statusCode with
      | none => rfl
      | some statusCode =>
          rw [status] at accepted
          by_cases valid : statusCode = 200
          · simp [valid]
          · have other : statusCode ≠ 401 := fun same => accepted (congrArg some same)
            simp [valid, other]
  | performAuthorizedRequest call =>
      change performAuthorizedRequestAnswered call result defaults = _
      unfold performAuthorizedRequestAnswered
      rw [if_neg accepted]
      rfl

theorem attempt_answered_of_refused {token : String} (refused : result.statusCode = some 401) :
    (retried.attempt token).answered result defaults =
      (defaults, defaults.refreshToken.elim (retried.failed result.response)
        fun refreshToken => [.resume (retried.refresh result.response refreshToken)]) := by
  cases retried with
  | validateToken completion =>
      change validateTokenAnswered completion result defaults = _
      unfold validateTokenAnswered refreshAccessToken
      rw [refused]
      cases defaults.refreshToken <;> rfl
  | performAuthorizedRequest call =>
      change performAuthorizedRequestAnswered call result defaults = _
      unfold performAuthorizedRequestAnswered refreshAccessToken
      rw [if_pos refused]
      cases defaults.refreshToken <;> rfl

theorem refresh_answered_of_granted {response : Option URLResponse} {refreshToken token : String}
    (granted : grantedAccessToken result = some token) :
    (retried.refresh response refreshToken).answered result defaults =
      ({ defaults with authToken := some token }, [.resume (retried.attempt token)]) := by
  change refreshAccessTokenAnswered _ result defaults = _
  rw [refreshAccessTokenAnswered_eq, granted]
  cases retried <;> rfl

theorem refresh_answered_of_denied {response : Option URLResponse} {refreshToken : String}
    (denied : grantedAccessToken result = none) :
    (retried.refresh response refreshToken).answered result defaults =
      (defaults, retried.failed response) := by
  change refreshAccessTokenAnswered _ result defaults = _
  rw [refreshAccessTokenAnswered_eq, denied]
  cases retried <;> rfl

end RefreshTermination.Retried

/-! ### The three forms of a reached state -/

namespace Conversation

def lastGrant (exchanged : List (Exchanged Validation Answered)) : Option String :=
  (exchanged.filterMap Exchanged.grant).getLast?

def held (defaults : UserDefaults) (exchanged : List (Exchanged Validation Answered)) :
    UserDefaults :=
  { defaults with authToken := (lastGrant exchanged).or defaults.authToken }

/-- The task that waits after these exchanges. -/
inductive Sends (retried : Retried Validation Answered) (defaults : UserDefaults) :
    List (Exchanged Validation Answered) → DataTask Validation Answered → Prop
  | first {token : String} (stored : defaults.authToken = some token) :
      Sends retried defaults [] (retried.attempt token)
  | refresh {done : List (Exchanged Validation Answered)} {token refreshToken : String}
      {result : TaskResult} (refused : result.statusCode = some 401)
      (stored : defaults.refreshToken = some refreshToken) :
      Sends retried defaults (done ++ [⟨retried.attempt token, result⟩])
        (retried.refresh result.response refreshToken)
  | again {done : List (Exchanged Validation Answered)} {response : Option URLResponse}
      {refreshToken token : String} {result : TaskResult}
      (granted : grantedAccessToken result = some token) :
      Sends retried defaults (done ++ [⟨retried.refresh response refreshToken, result⟩])
        (retried.attempt token)

/-- The effects with which the call ends after these exchanges. -/
inductive Ends (retried : Retried Validation Answered) (defaults : UserDefaults) :
    List (Exchanged Validation Answered) → List (Effect Validation Answered) → Prop
  | unauthorized (absent : defaults.authToken = none) :
      Ends retried defaults [] [retried.unauthorized]
  | delivered {done : List (Exchanged Validation Answered)} {token : String} {result : TaskResult}
      (accepted : result.statusCode ≠ some 401) :
      Ends retried defaults (done ++ [⟨retried.attempt token, result⟩]) [retried.delivered result]
  | unrefreshed {done : List (Exchanged Validation Answered)} {token : String}
      {result : TaskResult} (refused : result.statusCode = some 401)
      (absent : defaults.refreshToken = none) :
      Ends retried defaults (done ++ [⟨retried.attempt token, result⟩])
        (retried.failed result.response)
  | failed {done : List (Exchanged Validation Answered)} {response : Option URLResponse}
      {refreshToken : String} {result : TaskResult} (denied : grantedAccessToken result = none) :
      Ends retried defaults (done ++ [⟨retried.refresh response refreshToken, result⟩])
        (retried.failed response)

inductive Traced (retried : Retried Validation Answered) (defaults : UserDefaults) :
    Conversation Validation Answered → Prop
  | waits {exchanged : List (Exchanged Validation Answered)}
      {task : DataTask Validation Answered} (sends : Sends retried defaults exchanged task) :
      Traced retried defaults
        { defaults := held defaults exchanged, waiting := [task], removals := 0,
          completions := [], exchanged := exchanged }
  | ended {exchanged : List (Exchanged Validation Answered)}
      {effects : List (Effect Validation Answered)} (ends : Ends retried defaults exchanged effects) :
      Traced retried defaults
        { defaults := held defaults exchanged, waiting := [],
          removals := (queuedRemovals effects).length,
          completions := effects.filter Effect.completes, exchanged := exchanged }
  | cleared {exchanged : List (Exchanged Validation Answered)}
      {effects : List (Effect Validation Answered)} (ends : Ends retried defaults exchanged effects)
      (queued : queuedRemovals effects ≠ []) :
      Traced retried defaults
        { defaults := SmartMeal.removeTokens (held defaults exchanged), waiting := [],
          removals := 0, completions := effects.filter Effect.completes, exchanged := exchanged }

variable {retried : Retried Validation Answered} {defaults : UserDefaults}
  {conversation next : Conversation Validation Answered}

@[simp]
theorem isAttempt_attempt (token : String) : (retried.attempt token).isAttempt = true := by
  cases retried <;> rfl

@[simp]
theorem isAttempt_refresh (response : Option URLResponse) (refreshToken : String) :
    (retried.refresh response refreshToken).isAttempt = false := rfl

private theorem grant_attempt (token : String) (result : TaskResult) :
    (⟨retried.attempt token, result⟩ : Exchanged Validation Answered).grant = none := by
  simp [Exchanged.grant]

private theorem grant_refresh (response : Option URLResponse) (refreshToken : String)
    (result : TaskResult) :
    (⟨retried.refresh response refreshToken, result⟩ : Exchanged Validation Answered).grant =
      grantedAccessToken result := by
  simp [Exchanged.grant]

theorem held_append_of_none {exchanged : List (Exchanged Validation Answered)}
    {exchange : Exchanged Validation Answered} (denied : exchange.grant = none) :
    held defaults (exchanged ++ [exchange]) = held defaults exchanged := by
  simp [held, lastGrant, denied]

private theorem held_append_of_some {exchanged : List (Exchanged Validation Answered)}
    {exchange : Exchanged Validation Answered} {token : String}
    (granted : exchange.grant = some token) :
    held defaults (exchanged ++ [exchange]) =
      { held defaults exchanged with authToken := some token } := by
  simp [held, lastGrant, granted]

/-! ### One step -/

theorem step_answered {index : Nat} {result : TaskResult}
    (taken : step conversation (.answered index result) = some next) :
    ∃ task, conversation.waiting[index]? = some task ∧
      next = conversation.deliver index task result := by
  obtain ⟨task, found, same⟩ := Option.map_eq_some_iff.mp taken
  exact ⟨task, found, same.symm⟩

theorem step_removeTokens (taken : step conversation .removeTokens = some next) :
    ∃ removals, conversation.removals = removals + 1 ∧
      next = { conversation with
        defaults := SmartMeal.removeTokens conversation.defaults, removals := removals } := by
  cases queued : conversation.removals with
  | zero => simp only [step, queued] at taken; cases taken
  | succ removals =>
      simp only [step, queued] at taken
      exact ⟨removals, rfl, (Option.some.inj taken).symm⟩

theorem start_of_stored {token : String} (stored : defaults.authToken = some token) :
    start retried defaults =
      { defaults := defaults, waiting := [retried.attempt token], removals := 0,
        completions := [], exchanged := [] } := by
  unfold start
  rw [Retried.start_eq, stored]
  rfl

theorem traced_start (retried : Retried Validation Answered) (defaults : UserDefaults) :
    Traced retried defaults (start retried defaults) := by
  cases stored : defaults.authToken with
  | none =>
      have ends : Ends retried defaults [] [retried.unauthorized] := .unauthorized stored
      have ended := Traced.ended ends
      unfold start
      rw [Retried.start_eq, stored]
      cases retried <;> exact ended
  | some token =>
      rw [start_of_stored stored]
      exact Traced.waits (Sends.first stored)

private theorem traced_attempt (exchanged : List (Exchanged Validation Answered)) (token : String)
    (result : TaskResult) :
    Traced retried defaults
      (perform
        { defaults := held defaults exchanged, waiting := [], removals := 0, completions := [],
          exchanged := exchanged ++ [⟨retried.attempt token, result⟩] }
        ((retried.attempt token).answered result (held defaults exchanged))) := by
  have keysKept : held defaults (exchanged ++ [⟨retried.attempt token, result⟩]) =
      held defaults exchanged := held_append_of_none (grant_attempt token result)
  rw [← keysKept]
  by_cases refused : result.statusCode = some 401
  · rw [Retried.attempt_answered_of_refused _ _ _ refused]
    cases stored : defaults.refreshToken with
    | none =>
        have ends : Ends retried defaults (exchanged ++ [⟨retried.attempt token, result⟩])
            (retried.failed result.response) := .unrefreshed refused stored
        have ended := Traced.ended ends
        rw [show (held defaults _).refreshToken = none from stored]
        cases retried <;> exact ended
    | some refreshToken =>
        rw [show (held defaults _).refreshToken = some refreshToken from stored]
        exact Traced.waits (Sends.refresh refused stored)
  · rw [Retried.attempt_answered_of_accepted _ _ _ refused]
    have ends : Ends retried defaults (exchanged ++ [⟨retried.attempt token, result⟩])
        [retried.delivered result] := .delivered refused
    have ended := Traced.ended ends
    cases retried <;> exact ended

private theorem traced_refresh (exchanged : List (Exchanged Validation Answered))
    (response : Option URLResponse) (refreshToken : String) (result : TaskResult) :
    Traced retried defaults
      (perform
        { defaults := held defaults exchanged, waiting := [], removals := 0, completions := [],
          exchanged := exchanged ++ [⟨retried.refresh response refreshToken, result⟩] }
        ((retried.refresh response refreshToken).answered result (held defaults exchanged))) := by
  have grantEq : (⟨retried.refresh response refreshToken, result⟩ :
      Exchanged Validation Answered).grant = grantedAccessToken result :=
    grant_refresh response refreshToken result
  cases granted : grantedAccessToken result with
  | none =>
      rw [Retried.refresh_answered_of_denied _ _ _ granted,
        ← held_append_of_none (grantEq.trans granted)]
      have ends : Ends retried defaults
          (exchanged ++ [⟨retried.refresh response refreshToken, result⟩])
          (retried.failed response) := .failed granted
      have ended := Traced.ended ends
      cases retried <;> exact ended
  | some token =>
      rw [Retried.refresh_answered_of_granted _ _ _ granted,
        ← held_append_of_some (grantEq.trans granted)]
      exact Traced.waits (Sends.again granted)

private theorem eq_of_getElem?_singleton {index : Nat} {task waits : DataTask Validation Answered}
    (found : [waits][index]? = some task) : index = 0 ∧ waits = task := by
  simpa [List.getElem?_singleton] using found

private theorem traced_deliver {index : Nat} {task waits : DataTask Validation Answered}
    {exchanged : List (Exchanged Validation Answered)} (result : TaskResult)
    (sends : Sends retried defaults exchanged waits) (found : [waits][index]? = some task) :
    Traced retried defaults
      (deliver
        { defaults := held defaults exchanged, waiting := [waits], removals := 0,
          completions := [], exchanged := exchanged } index task result) := by
  obtain ⟨rfl, rfl⟩ := eq_of_getElem?_singleton found
  cases sends with
  | first stored => exact traced_attempt _ _ result
  | refresh refused stored => exact traced_refresh _ _ _ result
  | again granted => exact traced_attempt _ _ result

private theorem queuedRemovals_of_ends {exchanged : List (Exchanged Validation Answered)}
    {effects : List (Effect Validation Answered)}
    (ends : Ends retried defaults exchanged effects) (queued : queuedRemovals effects ≠ []) :
    (queuedRemovals effects).length = 1 := by
  cases ends <;> cases retried <;> first | rfl | exact absurd rfl queued

theorem traced_step {action : Action} (traced : Traced retried defaults conversation)
    (taken : step conversation action = some next) : Traced retried defaults next := by
  cases action with
  | answered index result =>
      obtain ⟨task, found, rfl⟩ := step_answered taken
      cases traced with
      | waits sends => exact traced_deliver result sends found
      | ended ends => cases found
      | cleared ends queued => cases found
  | removeTokens =>
      obtain ⟨removals, queued, rfl⟩ := step_removeTokens taken
      cases traced with
      | waits sends => cases queued
      | cleared ends _ => cases queued
      | ended ends =>
          have counted : (queuedRemovals _).length = removals + 1 := queued
          have nonempty := List.ne_nil_of_length_eq_add_one counted
          obtain rfl : removals = 0 := by
            have one := queuedRemovals_of_ends ends nonempty
            omega
          exact Traced.cleared ends nonempty

theorem traced_run {actions : List Action}
    (arrived : run step (start retried defaults) actions = some conversation) :
    Traced retried defaults conversation := by
  refine run_invariant (Traced retried defaults) ?_ (traced_start retried defaults) arrived
  intro before action after traced taken
  exact traced_step traced taken

/-! ### The exchanges -/

private theorem records_exchanged :
    Records (step : Transition (Conversation Validation Answered) Action) exchanged := by
  intro before action after taken
  cases action with
  | answered index result =>
      obtain ⟨task, _, rfl⟩ := step_answered taken
      exact Or.inr ⟨⟨task, result⟩, rfl⟩
  | removeTokens =>
      obtain ⟨removals, _, rfl⟩ := step_removeTokens taken
      exact Or.inl rfl

/-- Every exchange answers the task that the exchanges before it send. -/
theorem sends_of_exchanged {actions : List Action}
    (arrived : run step (start retried defaults) actions = some conversation)
    {done later : List (Exchanged Validation Answered)} {exchange : Exchanged Validation Answered}
    (splits : conversation.exchanged = done ++ exchange :: later) :
    Sends retried defaults done exchange.task := by
  obtain ⟨before, action, after, traced, taken, earlier, appended⟩ :=
    records_exchanged.appended_under (Traced retried defaults)
      (fun _ _ _ traced taken => traced_step traced taken) (traced_start retried defaults) rfl
      arrived splits
  cases action with
  | answered index result =>
      obtain ⟨task, found, rfl⟩ := step_answered taken
      have answered : [exchange] = [⟨task, result⟩] := by
        apply List.append_cancel_left
        rw [← appended, ← earlier]
        rfl
      obtain rfl := List.singleton_inj.mp answered
      cases traced with
      | waits sends =>
          cases earlier
          obtain ⟨_, rfl⟩ := eq_of_getElem?_singleton found
          exact sends
      | ended ends => cases found
      | cleared ends queued => cases found
  | removeTokens =>
      obtain ⟨removals, _, rfl⟩ := step_removeTokens taken
      rw [show before.exchanged = done ++ [exchange] from appended] at earlier
      simp at earlier

/-! ### What follows an exchange -/

variable {done : List (Exchanged Validation Answered)} {exchange : Exchanged Validation Answered}

theorem sends_after {task : DataTask Validation Answered}
    (sends : Sends retried defaults (done ++ [exchange]) task) :
    (exchange.task.isAttempt = true ∧ exchange.result.statusCode = some 401 ∧
      ∃ refreshToken, defaults.refreshToken = some refreshToken ∧
        task = retried.refresh exchange.result.response refreshToken) ∨
    (exchange.task.isAttempt = false ∧
      ∃ token, grantedAccessToken exchange.result = some token ∧ task = retried.attempt token) := by
  generalize splits : done ++ [exchange] = exchanged at sends
  cases sends with
  | first _ => simp at splits
  | refresh refused stored =>
      obtain ⟨_, rfl⟩ := List.append_singleton_inj.mp splits
      exact Or.inl ⟨isAttempt_attempt _, refused, _, stored, rfl⟩
  | again granted =>
      obtain ⟨_, rfl⟩ := List.append_singleton_inj.mp splits
      exact Or.inr ⟨rfl, _, granted, rfl⟩

theorem ends_first {effects : List (Effect Validation Answered)}
    (ends : Ends retried defaults [] effects) :
    defaults.authToken = none ∧ effects = [retried.unauthorized] := by
  generalize begins : ([] : List (Exchanged Validation Answered)) = exchanged at ends
  cases ends with
  | unauthorized absent => exact ⟨absent, rfl⟩
  | delivered _ => simp at begins
  | unrefreshed _ _ => simp at begins
  | failed _ => simp at begins

/-- The last exchange of a call is an attempt that was not refused, one that was and
could not be refreshed, or a refresh that was denied. -/
theorem ends_after {effects : List (Effect Validation Answered)}
    (ends : Ends retried defaults (done ++ [exchange]) effects) :
    (exchange.task.isAttempt = true ∧ exchange.result.statusCode ≠ some 401 ∧
      effects = [retried.delivered exchange.result]) ∨
    (exchange.task.isAttempt = true ∧ exchange.result.statusCode = some 401 ∧
      effects = retried.failed exchange.result.response) ∨
    (exchange.task.isAttempt = false ∧ grantedAccessToken exchange.result = none ∧
      ∃ response, effects = retried.failed response) := by
  generalize splits : done ++ [exchange] = exchanged at ends
  cases ends with
  | unauthorized _ => simp at splits
  | delivered accepted =>
      obtain ⟨_, rfl⟩ := List.append_singleton_inj.mp splits
      exact Or.inl ⟨isAttempt_attempt _, accepted, rfl⟩
  | unrefreshed refused _ =>
      obtain ⟨_, rfl⟩ := List.append_singleton_inj.mp splits
      exact Or.inr (Or.inl ⟨isAttempt_attempt _, refused, rfl⟩)
  | failed denied =>
      obtain ⟨_, rfl⟩ := List.append_singleton_inj.mp splits
      exact Or.inr (Or.inr ⟨rfl, denied, _, rfl⟩)

theorem ends_valid_iff {completion : Validation} {effects : List (Effect Validation Answered)}
    (ends : Ends (.validateToken completion) defaults (done ++ [exchange]) effects) :
    effects.filter Effect.completes = [.validated completion true] ↔
      exchange.task.isAttempt = true ∧ exchange.result.statusCode = some 200 := by
  rcases ends_after ends with
    ⟨attempts, _, rfl⟩ | ⟨_, refused, rfl⟩ | ⟨refreshes, _, response, rfl⟩
  · change [Effect.validated completion (exchange.result.statusCode == some 200)] = _ ↔ _
    simp [attempts]
  · change [Effect.validated completion false] = _ ↔ _
    simp [refused]
  · change [Effect.validated completion false] = _ ↔ _
    simp [refreshes]

def Completed (conversation : Conversation Validation Answered) : Prop :=
  conversation.waiting = [] ∨ conversation.completions ≠ []

theorem ends_of_completed (traced : Traced retried defaults conversation)
    (completed : conversation.Completed) :
    ∃ effects, Ends retried defaults conversation.exchanged effects ∧
      conversation.completions = effects.filter Effect.completes := by
  cases traced with
  | waits sends =>
      rcases completed with halted | called
      · cases halted
      · exact absurd rfl called
  | ended ends => exact ⟨_, ends, rfl⟩
  | cleared ends _ => exact ⟨_, ends, rfl⟩

end Conversation

end SmartMeal
