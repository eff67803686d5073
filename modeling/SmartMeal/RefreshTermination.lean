/-
Whether a request that is refused for its token ever completes.

`validateToken` and `performAuthorizedRequest` call themselves when a refresh was
granted.  Followed on its own, such a call is the retry loop: it attempts its
request, sends the stored refresh token after a 401, and attempts its request
again with the token it was granted.  It completes exactly when the server does
not refuse every attempt and grant every refresh.
-/

import SmartMeal.Authorization
import SmartMeal.Library.RetryLoop

namespace SmartMeal.RefreshTermination

variable {Validation Answered : Type}

inductive Retried (Validation Answered : Type) where
  | validateToken (completion : Validation)
  | performAuthorizedRequest (call : AuthorizedCall Answered)

def Retried.start (retried : Retried Validation Answered) (defaults : UserDefaults) :
    Outcome Validation Answered :=
  match retried with
  | .validateToken completion => SmartMeal.validateToken completion defaults
  | .performAuthorizedRequest call => SmartMeal.performAuthorizedRequest call defaults

def Retried.attempt (retried : Retried Validation Answered) (token : String) :
    DataTask Validation Answered :=
  match retried with
  | .validateToken completion => ⟨meRequest token, .validateToken completion⟩
  | .performAuthorizedRequest call =>
      ⟨authorizedRequest token call, .performAuthorizedRequest call⟩

/-! ### One call against a server -/

structure Exchange (Validation Answered : Type) where
  defaults : UserDefaults
  effects : List (Effect Validation Answered)
  requests : List URLRequest

def Exchange.start (retried : Retried Validation Answered) (defaults : UserDefaults) :
    Exchange Validation Answered :=
  ⟨(retried.start defaults).1, (retried.start defaults).2, []⟩

/-- Send the request that waits and handle its answer, which the server chooses by
all requests so far; without one nothing is left to do. -/
def Exchange.step (server : List URLRequest → TaskResult)
    (exchange : Exchange Validation Answered) : Exchange Validation Answered :=
  match resumed exchange.effects with
  | [] => exchange
  | task :: _ =>
      let requests := exchange.requests ++ [task.request]
      let outcome := task.answered (server requests) exchange.defaults
      ⟨outcome.1, outcome.2, requests⟩

def Effect.completes : Effect Validation Answered → Bool
  | .validated _ _ => true
  | .answered _ _ => true
  | _ => false

def completionCalls (effects : List (Effect Validation Answered)) : Nat :=
  effects.countP Effect.completes

/-- After finitely many requests none is left to send, and the completion has been
called once. -/
def Terminates (server : List URLRequest → TaskResult)
    (retried : Retried Validation Answered) (defaults : UserDefaults) : Prop :=
  ∃ count, let reached := (Exchange.step server)^[count] (.start retried defaults)
    resumed reached.effects = [] ∧ completionCalls reached.effects = 1

/-! ### Every function hands over once -/

def HandsOver (effects : List (Effect Validation Answered)) : Prop :=
  (resumed effects).length + completionCalls effects = 1

private theorem handsOver_start (retried : Retried Validation Answered) (defaults : UserDefaults) :
    HandsOver (retried.start defaults).2 := by
  cases retried with
  | validateToken completion =>
      unfold Retried.start validateToken
      cases defaults.authToken <;> rfl
  | performAuthorizedRequest call =>
      unfold Retried.start performAuthorizedRequest
      cases defaults.authToken <;> rfl

private theorem handsOver_call (completion : RefreshCompletion Validation Answered)
    (isRefreshed : Bool)
    (defaults : UserDefaults) : HandsOver (completion.call isRefreshed defaults).2 := by
  cases completion with
  | validateToken completion =>
      cases isRefreshed with
      | false => rfl
      | true => exact handsOver_start (.validateToken completion) defaults
  | performAuthorizedRequest call response =>
      cases isRefreshed with
      | false => rfl
      | true => exact handsOver_start (.performAuthorizedRequest call) defaults

private theorem handsOver_refreshAccessToken (completion : RefreshCompletion Validation Answered)
    (defaults : UserDefaults) : HandsOver (refreshAccessToken completion defaults).2 := by
  unfold refreshAccessToken
  cases defaults.refreshToken with
  | none => exact handsOver_call completion false defaults
  | some refreshToken => rfl

private theorem handsOver_answered (task : DataTask Validation Answered) (result : TaskResult)
    (defaults : UserDefaults) : HandsOver (task.answered result defaults).2 := by
  unfold DataTask.answered
  cases task.handler with
  | refreshAccessToken completion =>
      simp only [refreshAccessTokenAnswered_eq]
      cases grantedAccessToken result with
      | none => exact handsOver_call completion false _
      | some token => exact handsOver_call completion true _
  | validateToken completion =>
      simp only [validateTokenAnswered]
      split
      · split
        · rfl
        · split
          · exact handsOver_refreshAccessToken _ defaults
          · rfl
      · rfl
  | performAuthorizedRequest call =>
      simp only [performAuthorizedRequestAnswered]
      split
      · exact handsOver_refreshAccessToken _ defaults
      · rfl

/-! ### The retry loop behind the functions -/

def Retried.protocol (retried : Retried Validation Answered) (refreshToken : Option String) :
    RetryLoop.Protocol String URLRequest TaskResult :=
  { attempt := fun token => (retried.attempt token).request
    renewal := refreshToken.map refreshRequest
    refuses := fun result => result.statusCode == some 401
    grants := grantedAccessToken }

def Awaits (retried : Retried Validation Answered) (tasks : List (DataTask Validation Answered)) :
    RetryLoop.Phase String URLRequest → Prop
  | .attempting token => tasks = [retried.attempt token]
  | .renewing renewal =>
      ∃ completion : RefreshCompletion Validation Answered,
        tasks = [⟨renewal, .refreshAccessToken completion⟩] ∧
          ∀ token, completion.repeated token = retried.attempt token
  | .finished => tasks = []

structure Follows (retried : Retried Validation Answered) (refreshToken : Option String)
    (exchange : Exchange Validation Answered) (state : RetryLoop.State String URLRequest) :
    Prop where
  stored : exchange.defaults.refreshToken = refreshToken
  sent : exchange.requests = state.requests
  handsOver : HandsOver exchange.effects
  awaits : Awaits retried (resumed exchange.effects) state.phase

private theorem resumed_attempt_answered (retried : Retried Validation Answered) (token : String)
    (result : TaskResult) (defaults : UserDefaults) :
    ∃ completion : RefreshCompletion Validation Answered,
      (∀ token, completion.repeated token = retried.attempt token) ∧
      resumed ((retried.attempt token).answered result defaults).2 =
        if result.statusCode = some 401 then
          defaults.refreshToken.toList.map fun refreshToken =>
            ⟨refreshRequest refreshToken, .refreshAccessToken completion⟩
        else [] := by
  cases retried with
  | validateToken completion =>
      exact ⟨.validateToken completion, fun _ => rfl,
        resumed_validateTokenAnswered completion result defaults⟩
  | performAuthorizedRequest call =>
      exact ⟨.performAuthorizedRequest call result.response, fun _ => rfl,
        resumed_performAuthorizedRequestAnswered call result defaults⟩

theorem answered_refreshToken (task : DataTask Validation Answered) (result : TaskResult)
    (defaults : UserDefaults) :
    (task.answered result defaults).1.refreshToken = defaults.refreshToken := by
  rcases task.answered_defaults result defaults with kept | ⟨_, _, _, _, changed⟩
  · rw [kept]
  · rw [changed]

private theorem follows_attempted {retried : Retried Validation Answered}
    {refreshToken : Option String}
    {defaults : UserDefaults} {requests : List URLRequest} {token : String}
    (server : List URLRequest → TaskResult) (stored : defaults.refreshToken = refreshToken) :
    let sent := requests ++ [(retried.attempt token).request]
    let outcome := (retried.attempt token).answered (server sent) defaults
    Follows retried refreshToken ⟨outcome.1, outcome.2, sent⟩
      (RetryLoop.step (retried.protocol refreshToken) server ⟨.attempting token, requests⟩) := by
  intro sent outcome
  have storedNext : outcome.1.refreshToken = refreshToken :=
    (answered_refreshToken _ _ _).trans stored
  have handsOver : HandsOver outcome.2 := handsOver_answered _ _ _
  obtain ⟨completion, repeats, resumes⟩ :=
    resumed_attempt_answered retried token (server sent) defaults
  rw [stored] at resumes
  by_cases refused : (server sent).statusCode = some 401
  · rw [if_pos refused] at resumes
    cases refreshToken with
    | none =>
        rw [RetryLoop.step_attempting_of_not_renewed (Or.inl rfl)]
        exact ⟨storedNext, rfl, handsOver, resumes⟩
    | some refreshToken =>
        have refuses : (retried.protocol (some refreshToken)).refuses (server sent) = true :=
          beq_iff_eq.mpr refused
        rw [RetryLoop.step_attempting_of_refused rfl refuses]
        exact ⟨storedNext, rfl, handsOver, completion, resumes, repeats⟩
  · rw [if_neg refused] at resumes
    have accepts : (retried.protocol refreshToken).refuses (server sent) = false :=
      beq_eq_false_iff_ne.mpr refused
    rw [RetryLoop.step_attempting_of_not_renewed (Or.inr accepts)]
    exact ⟨storedNext, rfl, handsOver, resumes⟩

private theorem follows_refreshed {retried : Retried Validation Answered}
    {refreshToken : Option String}
    {completion : RefreshCompletion Validation Answered} {defaults : UserDefaults}
    {requests : List URLRequest} {renewal : URLRequest}
    (server : List URLRequest → TaskResult) (stored : defaults.refreshToken = refreshToken)
    (repeats : ∀ token, completion.repeated token = retried.attempt token) :
    let sent := requests ++ [renewal]
    let outcome := refreshAccessTokenAnswered completion (server sent) defaults
    Follows retried refreshToken ⟨outcome.1, outcome.2, sent⟩
      (RetryLoop.step (retried.protocol refreshToken) server ⟨.renewing renewal, requests⟩) := by
  intro sent outcome
  have storedNext : outcome.1.refreshToken = refreshToken :=
    (answered_refreshToken ⟨renewal, .refreshAccessToken completion⟩ _ _).trans stored
  have handsOver : HandsOver outcome.2 :=
    handsOver_answered ⟨renewal, .refreshAccessToken completion⟩ _ _
  have resumes : resumed outcome.2 =
      (grantedAccessToken (server sent)).toList.map completion.repeated :=
    resumed_refreshAccessTokenAnswered completion (server sent) defaults
  cases granted : grantedAccessToken (server sent) with
  | none =>
      have failed : (retried.protocol refreshToken).grants (server sent) = none := granted
      rw [RetryLoop.step_renewing_of_not_granted failed]
      rw [granted] at resumes
      exact ⟨storedNext, rfl, handsOver, resumes⟩
  | some token =>
      have grants : (retried.protocol refreshToken).grants (server sent) = some token := granted
      rw [RetryLoop.step_renewing_of_granted grants]
      rw [granted] at resumes
      exact ⟨storedNext, rfl, handsOver,
        resumes.trans (congrArg (fun task => [task]) (repeats token))⟩

private theorem follows_step {retried : Retried Validation Answered} {refreshToken : Option String}
    {exchange : Exchange Validation Answered} {state : RetryLoop.State String URLRequest}
    (server : List URLRequest → TaskResult)
    (follows : Follows retried refreshToken exchange state) :
    Follows retried refreshToken (exchange.step server)
      (RetryLoop.step (retried.protocol refreshToken) server state) := by
  rcases exchange with ⟨defaults, effects, sent⟩
  rcases state with ⟨phase, requests⟩
  obtain ⟨stored, sentEq, handsOver, awaits⟩ := follows
  cases sentEq
  cases phase with
  | finished =>
      have halted : resumed effects = [] := awaits
      simp only [Exchange.step, halted]
      exact ⟨stored, rfl, handsOver, awaits⟩
  | attempting token =>
      have waiting : resumed effects = [retried.attempt token] := awaits
      simp only [Exchange.step, waiting]
      exact follows_attempted server stored
  | renewing renewal =>
      obtain ⟨completion, waiting, repeats⟩ := awaits
      simp only [Exchange.step, waiting]
      exact follows_refreshed server stored repeats

private theorem follows_iterate {retried : Retried Validation Answered}
    {refreshToken : Option String}
    {exchange : Exchange Validation Answered} {state : RetryLoop.State String URLRequest}
    (server : List URLRequest → TaskResult)
    (follows : Follows retried refreshToken exchange state) (count : Nat) :
    Follows retried refreshToken ((Exchange.step server)^[count] exchange)
      ((RetryLoop.step (retried.protocol refreshToken) server)^[count] state) := by
  induction count with
  | zero => exact follows
  | succ count ih =>
      rw [Function.iterate_succ_apply', Function.iterate_succ_apply']
      exact follows_step server ih

private theorem follows_start (retried : Retried Validation Answered) {defaults : UserDefaults}
    {access : String} (stored : defaults.authToken = some access) :
    Follows retried defaults.refreshToken (.start retried defaults) ⟨.attempting access, []⟩ := by
  cases retried with
  | validateToken completion =>
      refine ⟨by simp [Exchange.start, Retried.start], rfl, handsOver_start _ _, ?_⟩
      change resumed (validateToken completion defaults).2 = _
      rw [resumed_validateToken, stored]
      rfl
  | performAuthorizedRequest call =>
      refine ⟨by simp [Exchange.start, Retried.start], rfl, handsOver_start _ _, ?_⟩
      change resumed (performAuthorizedRequest call defaults).2 = _
      rw [resumed_performAuthorizedRequest, stored]
      rfl

/-! ### Termination -/

private theorem halted_iff {retried : Retried Validation Answered} {refreshToken : Option String}
    {exchange : Exchange Validation Answered} {state : RetryLoop.State String URLRequest}
    (follows : Follows retried refreshToken exchange state) :
    (resumed exchange.effects = [] ∧ completionCalls exchange.effects = 1) ↔
      state.phase = .finished := by
  obtain ⟨_, _, handsOver, awaits⟩ := follows
  constructor
  · rintro ⟨halted, _⟩
    cases phase : state.phase with
    | finished => rfl
    | attempting token =>
        rw [phase, halted] at awaits
        cases awaits
    | renewing renewal =>
        rw [phase, halted] at awaits
        obtain ⟨_, impossible, _⟩ := awaits
        cases impossible
  · intro finished
    rw [finished] at awaits
    have halted : resumed exchange.effects = [] := awaits
    unfold HandsOver at handsOver
    rw [halted] at handsOver
    exact ⟨halted, by simpa using handsOver⟩

/-- With both tokens stored, the server refuses every attempt with a 401 and grants
every refresh. -/
def RefusedForEver (server : List URLRequest → TaskResult)
    (retried : Retried Validation Answered) (defaults : UserDefaults) : Prop :=
  ∃ access, defaults.authToken = some access ∧
    RetryLoop.Endless (retried.protocol defaults.refreshToken) server access

private theorem terminates_iff_finishes {server : List URLRequest → TaskResult}
    (retried : Retried Validation Answered) {defaults : UserDefaults} {access : String}
    (stored : defaults.authToken = some access) :
    Terminates server retried defaults ↔
      ∃ count, ((RetryLoop.step (retried.protocol defaults.refreshToken) server)^[count]
        ⟨.attempting access, []⟩).phase = .finished :=
  exists_congr fun count =>
    halted_iff (follows_iterate server (follows_start retried stored) count)

/-- Whatever the server answers, the call completes after finitely many requests
exactly when it is not refused for ever. -/
theorem terminates_iff_not_refusedForEver (server : List URLRequest → TaskResult)
    (retried : Retried Validation Answered) (defaults : UserDefaults) :
    Terminates server retried defaults ↔ ¬ RefusedForEver server retried defaults := by
  cases stored : defaults.authToken with
  | none =>
      refine iff_of_true ⟨0, ?_⟩ ?_
      · cases retried with
        | validateToken completion =>
            change resumed (validateToken completion defaults).2 = [] ∧
              completionCalls (validateToken completion defaults).2 = 1
            unfold validateToken
            rw [stored]
            exact ⟨rfl, rfl⟩
        | performAuthorizedRequest call =>
            change resumed (performAuthorizedRequest call defaults).2 = [] ∧
              completionCalls (performAuthorizedRequest call defaults).2 = 1
            unfold performAuthorizedRequest
            rw [stored]
            exact ⟨rfl, rfl⟩
      · rintro ⟨access, present, _⟩
        rw [stored] at present
        cases present
  | some access =>
      rw [terminates_iff_finishes retried stored, RetryLoop.finishes_iff]
      refine not_congr ⟨fun endless => ⟨access, stored, endless⟩, ?_⟩
      rintro ⟨other, present, endless⟩
      rw [stored] at present
      cases present
      exact endless

/-- A server that honours refresh tokens and rejects the access tokens it grants. -/
def rejectsItsGrants (requests : List URLRequest) : TaskResult :=
  match requests.getLast? with
  | some request => if request.httpMethod = "POST" then grantBody "access" else bareStatus 401
  | none => bareStatus 401

theorem not_terminates_rejectsItsGrants :
    ¬ ∀ (server : List URLRequest → TaskResult) (retried : Retried Unit Unit)
      (defaults : UserDefaults), Terminates server retried defaults := by
  intro always
  have ends := always rejectsItsGrants (.validateToken ()) ⟨some "access", some "refresh", none⟩
  rw [terminates_iff_finishes _ rfl, RetryLoop.finishes_iff] at ends
  refine ends ⟨refreshRequest "refresh", fun _ => "access", rfl, rfl, fun round => ⟨?_, ?_⟩⟩
  · simp [rejectsItsGrants, Retried.protocol, Retried.attempt, meRequest, bareStatus,
      TaskResult.statusCode]
  · have honoured : ∀ requests : List URLRequest, rejectsItsGrants
        (requests ++ [meRequest "access", refreshRequest "refresh"]) = grantBody "access" := by
      simp [rejectsItsGrants, refreshRequest]
    exact congrArg grantedAccessToken (honoured _)

end SmartMeal.RefreshTermination
