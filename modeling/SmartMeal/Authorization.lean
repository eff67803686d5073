/-
The authorized requests: token refresh, token validation, and the request that
retries itself after a refresh.

Closures are named by the function that passes them, so that a waiting data task
is a value.  A function maps the stored keys to the new stored keys and to its
effects in the order of the source.  The completions of `validateToken` and of
`performAuthorizedRequest` belong to their callers and stay arbitrary here.
-/

import SmartMeal.Network

namespace SmartMeal

variable {Validation Answered : Type}

/-- The arguments of `performAuthorizedRequest`, captured by its closures. -/
structure AuthorizedCall (Answered : Type) where
  url : String
  method : String
  body : Option Data
  completion : Answered

inductive RefreshCompletion (Validation Answered : Type) where
  | validateToken (completion : Validation)
  | performAuthorizedRequest (call : AuthorizedCall Answered) (response : Option URLResponse)

inductive TaskHandler (Validation Answered : Type) where
  | refreshAccessToken (completion : RefreshCompletion Validation Answered)
  | validateToken (completion : Validation)
  | performAuthorizedRequest (call : AuthorizedCall Answered)

structure DataTask (Validation Answered : Type) where
  request : URLRequest
  handler : TaskHandler Validation Answered

inductive Effect (Validation Answered : Type) where
  | resume (task : DataTask Validation Answered)
  | mainAsyncRemoveTokens
  | validated (completion : Validation) (isValid : Bool)
  | answered (completion : Answered) (result : TaskResult)

abbrev Outcome (Validation Answered : Type) :=
  UserDefaults × List (Effect Validation Answered)

/-! ### The requests -/

def meRequest (token : String) : URLRequest :=
  { url := "https://api.smartmeal.kz/v1/auth/me/", httpMethod := "GET", bearer := some token,
    contentType := none, httpBody := none }

def refreshRequest (refreshToken : String) : URLRequest :=
  { url := "https://api.smartmeal.kz/v1/auth/token/refresh/", httpMethod := "POST",
    bearer := none, contentType := some "application/json",
    httpBody := some ⟨some (.object [("refresh", .string refreshToken)])⟩ }

def authorizedRequest (token : String) (call : AuthorizedCall Answered) : URLRequest :=
  { url := call.url, httpMethod := call.method, bearer := some token,
    contentType := call.body.map fun _ => "application/json", httpBody := call.body }

def noAccessToken : NSError :=
  { domain := "AuthError", code := 401, localizedDescription := "No access token" }

def failedToRefreshToken : NSError :=
  { domain := "AuthError", code := 401, localizedDescription := "Failed to refresh token" }

/-! ### Starting a request -/

def validateToken (completion : Validation) (defaults : UserDefaults) :
    Outcome Validation Answered :=
  match defaults.authToken with
  | none => (defaults, [.validated completion false])
  | some token => (defaults, [.resume ⟨meRequest token, .validateToken completion⟩])

def performAuthorizedRequest (call : AuthorizedCall Answered) (defaults : UserDefaults) :
    Outcome Validation Answered :=
  match defaults.authToken with
  | none => (defaults, [.answered call.completion ⟨none, none, some noAccessToken⟩])
  | some token =>
      (defaults, [.resume ⟨authorizedRequest token call, .performAuthorizedRequest call⟩])

/-- The closures passed to `refreshAccessToken`, applied to its one Boolean. -/
def RefreshCompletion.call :
    RefreshCompletion Validation Answered → Bool → UserDefaults → Outcome Validation Answered
  | .validateToken completion, true, defaults =>
      SmartMeal.validateToken completion defaults
  | .validateToken completion, false, defaults =>
      (defaults, [.mainAsyncRemoveTokens, .validated completion false])
  | .performAuthorizedRequest call _, true, defaults =>
      SmartMeal.performAuthorizedRequest call defaults
  | .performAuthorizedRequest call response, false, defaults =>
      (defaults, [.answered call.completion ⟨none, response, some failedToRefreshToken⟩])

def refreshAccessToken (completion : RefreshCompletion Validation Answered)
    (defaults : UserDefaults) : Outcome Validation Answered :=
  match defaults.refreshToken with
  | none => completion.call false defaults
  | some refreshToken =>
      (defaults, [.resume ⟨refreshRequest refreshToken, .refreshAccessToken completion⟩])

/-! ### Handling an answer -/

def refreshAccessTokenAnswered (completion : RefreshCompletion Validation Answered)
    (result : TaskResult) (defaults : UserDefaults) : Outcome Validation Answered :=
  match result.data, result.statusCode with
  | some data, some 200 =>
      match Json.jsonObject data with
      | none => completion.call false defaults
      | some json =>
          match (json.asDictionary.bind fun fields => fields.lookup "access").bind
            Json.asString with
          | some newAccessToken =>
              completion.call true { defaults with authToken := some newAccessToken }
          | none => completion.call false defaults
  | _, _ => completion.call false defaults

def validateTokenAnswered (completion : Validation) (result : TaskResult)
    (defaults : UserDefaults) : Outcome Validation Answered :=
  match result.statusCode with
  | some statusCode =>
      if statusCode = 200 then (defaults, [.validated completion true])
      else if statusCode = 401 then refreshAccessToken (.validateToken completion) defaults
      else (defaults, [.validated completion false])
  | none => (defaults, [.validated completion false])

def performAuthorizedRequestAnswered (call : AuthorizedCall Answered) (result : TaskResult)
    (defaults : UserDefaults) : Outcome Validation Answered :=
  if result.statusCode = some 401 then
    refreshAccessToken (.performAuthorizedRequest call result.response) defaults
  else (defaults, [.answered call.completion result])

def DataTask.answered (task : DataTask Validation Answered) (result : TaskResult)
    (defaults : UserDefaults) : Outcome Validation Answered :=
  match task.handler with
  | .refreshAccessToken completion => refreshAccessTokenAnswered completion result defaults
  | .validateToken completion => validateTokenAnswered completion result defaults
  | .performAuthorizedRequest call => performAuthorizedRequestAnswered call result defaults

/-! ### What an answer can do -/

def sentRefreshToken (request : URLRequest) : Option String :=
  (((request.httpBody.bind Json.jsonObject).bind Json.asDictionary).bind
    fun fields => fields.lookup "refresh").bind Json.asString

def grantedAccessToken (result : TaskResult) : Option String :=
  match result.data, result.statusCode with
  | some data, some 200 =>
      (((Json.jsonObject data).bind Json.asDictionary).bind
        fun fields => fields.lookup "access").bind Json.asString
  | _, _ => none

def grantBody (access : String) : TaskResult :=
  { data := some ⟨some (.object [("access", .string access)])⟩, response := some (.http 200),
    error := none }

theorem refreshAccessTokenAnswered_eq (completion : RefreshCompletion Validation Answered)
    (result : TaskResult) (defaults : UserDefaults) :
    refreshAccessTokenAnswered completion result defaults =
      match grantedAccessToken result with
      | some newAccessToken =>
          completion.call true { defaults with authToken := some newAccessToken }
      | none => completion.call false defaults := by
  unfold refreshAccessTokenAnswered grantedAccessToken
  split
  · rename_i data _ _
    cases parsed : Json.jsonObject data with
    | none => rfl
    | some json => rfl
  · rfl

@[simp]
theorem validateToken_defaults (completion : Validation) (defaults : UserDefaults) :
    (validateToken completion defaults : Outcome Validation Answered).1 = defaults := by
  unfold validateToken
  split <;> rfl

@[simp]
theorem performAuthorizedRequest_defaults (call : AuthorizedCall Answered)
    (defaults : UserDefaults) :
    (performAuthorizedRequest call defaults : Outcome Validation Answered).1 = defaults := by
  unfold performAuthorizedRequest
  split <;> rfl

@[simp]
theorem RefreshCompletion.call_defaults (completion : RefreshCompletion Validation Answered)
    (isRefreshed : Bool) (defaults : UserDefaults) :
    (completion.call isRefreshed defaults).1 = defaults := by
  cases completion <;> cases isRefreshed <;> simp [RefreshCompletion.call]

@[simp]
theorem refreshAccessToken_defaults (completion : RefreshCompletion Validation Answered)
    (defaults : UserDefaults) : (refreshAccessToken completion defaults).1 = defaults := by
  unfold refreshAccessToken
  split <;> simp

@[simp]
theorem validateTokenAnswered_defaults (completion : Validation) (result : TaskResult)
    (defaults : UserDefaults) :
    (validateTokenAnswered completion result defaults : Outcome Validation Answered).1 =
      defaults := by
  unfold validateTokenAnswered
  split
  · split
    · rfl
    · split <;> simp
  · rfl

@[simp]
theorem performAuthorizedRequestAnswered_defaults (call : AuthorizedCall Answered)
    (result : TaskResult) (defaults : UserDefaults) :
    (performAuthorizedRequestAnswered call result defaults : Outcome Validation Answered).1 =
      defaults := by
  unfold performAuthorizedRequestAnswered
  split <;> simp

theorem DataTask.answered_defaults (task : DataTask Validation Answered) (result : TaskResult)
    (defaults : UserDefaults) :
    (task.answered result defaults).1 = defaults ∨
      ∃ completion token, task.handler = .refreshAccessToken completion ∧
        grantedAccessToken result = some token ∧
        (task.answered result defaults).1 = { defaults with authToken := some token } := by
  unfold DataTask.answered
  cases hHandler : task.handler with
  | refreshAccessToken completion =>
      cases granted : grantedAccessToken result with
      | none =>
          left
          simp [refreshAccessTokenAnswered_eq, granted]
      | some token =>
          right
          exact ⟨completion, token, rfl, rfl, by simp [refreshAccessTokenAnswered_eq, granted]⟩
  | validateToken completion =>
      left
      exact validateTokenAnswered_defaults completion result defaults
  | performAuthorizedRequest call =>
      left
      exact performAuthorizedRequestAnswered_defaults call result defaults

/-! ### What an answer resumes and queues -/

def Effect.resumedTask : Effect Validation Answered → Option (DataTask Validation Answered)
  | .resume task => some task
  | _ => none

def Effect.queuedRemoval : Effect Validation Answered → Bool
  | .mainAsyncRemoveTokens => true
  | _ => false

def resumed (effects : List (Effect Validation Answered)) :
    List (DataTask Validation Answered) :=
  effects.filterMap Effect.resumedTask

def queuedRemovals (effects : List (Effect Validation Answered)) :
    List (Effect Validation Answered) :=
  effects.filter Effect.queuedRemoval

theorem resumed_validateToken (completion : Validation) (defaults : UserDefaults) :
    resumed (validateToken completion defaults : Outcome Validation Answered).2 =
      defaults.authToken.toList.map fun token =>
        ⟨meRequest token, .validateToken completion⟩ := by
  unfold validateToken
  cases defaults.authToken <;> rfl

theorem resumed_performAuthorizedRequest (call : AuthorizedCall Answered)
    (defaults : UserDefaults) :
    resumed (performAuthorizedRequest call defaults : Outcome Validation Answered).2 =
      defaults.authToken.toList.map fun token =>
        ⟨authorizedRequest token call, .performAuthorizedRequest call⟩ := by
  unfold performAuthorizedRequest
  cases defaults.authToken <;> rfl

private theorem resumed_call_false (completion : RefreshCompletion Validation Answered)
    (defaults : UserDefaults) : resumed (completion.call false defaults).2 = [] := by
  cases completion <;> rfl

theorem resumed_refreshAccessToken (completion : RefreshCompletion Validation Answered)
    (defaults : UserDefaults) :
    resumed (refreshAccessToken completion defaults).2 =
      defaults.refreshToken.toList.map fun refreshToken =>
        ⟨refreshRequest refreshToken, .refreshAccessToken completion⟩ := by
  unfold refreshAccessToken
  cases defaults.refreshToken with
  | none => exact resumed_call_false completion defaults
  | some refreshToken => rfl

theorem resumed_validateTokenAnswered (completion : Validation) (result : TaskResult)
    (defaults : UserDefaults) :
    resumed (validateTokenAnswered completion result defaults :
        Outcome Validation Answered).2 =
      if result.statusCode = some 401 then
        defaults.refreshToken.toList.map fun refreshToken =>
          ⟨refreshRequest refreshToken, .refreshAccessToken (.validateToken completion)⟩
      else [] := by
  unfold validateTokenAnswered
  cases hStatus : result.statusCode with
  | none => rfl
  | some statusCode =>
      by_cases accepted : statusCode = 200
      · subst statusCode
        rfl
      · by_cases refused : statusCode = 401
        · subst statusCode
          exact resumed_refreshAccessToken _ _
        · simp only [if_neg accepted, if_neg refused, Option.some.injEq]
          rfl

theorem resumed_performAuthorizedRequestAnswered (call : AuthorizedCall Answered)
    (result : TaskResult) (defaults : UserDefaults) :
    resumed (performAuthorizedRequestAnswered call result defaults :
        Outcome Validation Answered).2 =
      if result.statusCode = some 401 then
        defaults.refreshToken.toList.map fun refreshToken =>
          ⟨refreshRequest refreshToken,
            .refreshAccessToken (.performAuthorizedRequest call result.response)⟩
      else [] := by
  unfold performAuthorizedRequestAnswered
  by_cases refused : result.statusCode = some 401
  · rw [if_pos refused, if_pos refused]
    exact resumed_refreshAccessToken _ _
  · rw [if_neg refused, if_neg refused]
    rfl

def RefreshCompletion.repeated (completion : RefreshCompletion Validation Answered)
    (token : String) : DataTask Validation Answered :=
  match completion with
  | .validateToken completion => ⟨meRequest token, .validateToken completion⟩
  | .performAuthorizedRequest call _ =>
      ⟨authorizedRequest token call, .performAuthorizedRequest call⟩

theorem resumed_refreshAccessTokenAnswered
    (completion : RefreshCompletion Validation Answered) (result : TaskResult)
    (defaults : UserDefaults) :
    resumed (refreshAccessTokenAnswered completion result defaults).2 =
      (grantedAccessToken result).toList.map completion.repeated := by
  rw [refreshAccessTokenAnswered_eq]
  cases grantedAccessToken result with
  | none => exact resumed_call_false completion defaults
  | some token => cases completion <;> rfl

/-- A task is resumed only by a 401, which sends the stored refresh token, or by
a granted refresh, which repeats the request with the granted token. -/
theorem DataTask.mem_resumed {task next : DataTask Validation Answered} {result : TaskResult}
    {defaults : UserDefaults} (member : next ∈ resumed (task.answered result defaults).2) :
    (∃ refreshToken completion, result.statusCode = some 401 ∧
        defaults.refreshToken = some refreshToken ∧
        next = ⟨refreshRequest refreshToken, .refreshAccessToken completion⟩ ∧
        ((∃ caller, task.handler = .validateToken caller ∧
            completion = .validateToken caller) ∨
          (∃ call, task.handler = .performAuthorizedRequest call ∧
            completion = .performAuthorizedRequest call result.response))) ∨
    (∃ completion token, task.handler = .refreshAccessToken completion ∧
        grantedAccessToken result = some token ∧ next = completion.repeated token) := by
  rcases task with ⟨request, handler⟩
  cases handler with
  | validateToken caller =>
      change next ∈ resumed (validateTokenAnswered caller result defaults).2 at member
      rw [resumed_validateTokenAnswered] at member
      split at member
      · rename_i refused
        obtain ⟨refreshToken, stored, same⟩ := List.mem_map.mp member
        exact Or.inl ⟨refreshToken, _, refused, Option.mem_toList.mp stored, same.symm,
          Or.inl ⟨caller, rfl, rfl⟩⟩
      · cases member
  | performAuthorizedRequest call =>
      change next ∈ resumed (performAuthorizedRequestAnswered call result defaults).2 at member
      rw [resumed_performAuthorizedRequestAnswered] at member
      split at member
      · rename_i refused
        obtain ⟨refreshToken, stored, same⟩ := List.mem_map.mp member
        exact Or.inl ⟨refreshToken, _, refused, Option.mem_toList.mp stored, same.symm,
          Or.inr ⟨call, rfl, rfl⟩⟩
      · cases member
  | refreshAccessToken completion =>
      change next ∈ resumed (refreshAccessTokenAnswered completion result defaults).2 at member
      rw [resumed_refreshAccessTokenAnswered] at member
      obtain ⟨token, granted, same⟩ := List.mem_map.mp member
      exact Or.inr ⟨completion, token, rfl, Option.mem_toList.mp granted, same.symm⟩

theorem queuedRemovals_validateToken (completion : Validation) (defaults : UserDefaults) :
    queuedRemovals (validateToken completion defaults : Outcome Validation Answered).2 = [] := by
  unfold validateToken
  split <;> rfl

theorem queuedRemovals_performAuthorizedRequest (call : AuthorizedCall Answered)
    (defaults : UserDefaults) :
    queuedRemovals (performAuthorizedRequest call defaults : Outcome Validation Answered).2 =
      [] := by
  unfold performAuthorizedRequest
  split <;> rfl

theorem queuedRemovals_refreshAccessToken (completion : RefreshCompletion Validation Answered)
    (defaults : UserDefaults) (stored : defaults.refreshToken ≠ none) :
    queuedRemovals (refreshAccessToken completion defaults).2 = [] := by
  unfold refreshAccessToken
  split
  · exact absurd (by assumption) stored
  · rfl

/-- A removal is queued only when a refresh started by `validateToken` fails: with
no refresh token stored, or by an answer that grants nothing. -/
theorem DataTask.queues_removal {task : DataTask Validation Answered} {result : TaskResult}
    {defaults : UserDefaults} (stored : defaults.refreshToken ≠ none)
    (queued : queuedRemovals (task.answered result defaults).2 ≠ []) :
    ∃ caller, task.handler = .refreshAccessToken (.validateToken caller) ∧
      grantedAccessToken result = none := by
  rcases task with ⟨request, handler⟩
  cases handler with
  | validateToken caller =>
      refine absurd ?_ queued
      change queuedRemovals (validateTokenAnswered caller result defaults).2 = []
      unfold validateTokenAnswered
      split
      · split
        · rfl
        · split
          · exact queuedRemovals_refreshAccessToken _ _ stored
          · rfl
      · rfl
  | performAuthorizedRequest call =>
      refine absurd ?_ queued
      change queuedRemovals (performAuthorizedRequestAnswered call result defaults).2 = []
      unfold performAuthorizedRequestAnswered
      split
      · exact queuedRemovals_refreshAccessToken _ _ stored
      · rfl
  | refreshAccessToken completion =>
      change queuedRemovals (refreshAccessTokenAnswered completion result defaults).2 ≠ []
        at queued
      rw [refreshAccessTokenAnswered_eq] at queued
      cases granted : grantedAccessToken result with
      | none =>
          rw [granted] at queued
          cases completion with
          | validateToken caller => exact ⟨caller, rfl, rfl⟩
          | performAuthorizedRequest call response => exact absurd rfl queued
      | some token =>
          rw [granted] at queued
          cases completion with
          | validateToken caller =>
              exact absurd (queuedRemovals_validateToken caller _) queued
          | performAuthorizedRequest call response =>
              exact absurd (queuedRemovals_performAuthorizedRequest call _) queued

end SmartMeal
