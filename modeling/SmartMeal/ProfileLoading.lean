/-
Which token loads the profile, and which answers fill it.

`fetchUserData` captures the stored token, validates, and requests the profile with the
captured token whatever the validation said.  A validation that refreshed the token has
replaced it by then.  The status of the profile's own answer is never read: any body that
is a dictionary fills both fields, with empty texts where it lacks them.
-/

import SmartMeal.Conversation

namespace SmartMeal.ProfileLoading

open PartialStep RefreshTermination Conversation

structure ProfileViewModel where
  fullName : String
  email : String

inductive Assignment where
  | fullName (value : String)
  | email (value : String)

def ProfileViewModel.assign (viewModel : ProfileViewModel) (assignments : List Assignment) :
    ProfileViewModel :=
  assignments.foldl
    (fun viewModel assignment =>
      match assignment with
      | .fullName value => { viewModel with fullName := value }
      | .email value => { viewModel with email := value })
    viewModel

def userData (result : TaskResult) : Option Fields :=
  (result.data.bind Json.jsonObject).bind Json.asDictionary

/-- The block that the answer queues; without error and without data it traps. -/
def userDataAnswered (result : TaskResult) : Option (List Assignment) :=
  if result.error.isSome then some []
  else
    result.data.map fun data =>
      match (Json.jsonObject data).bind Json.asDictionary with
      | some json =>
          [.fullName (((json.lookup "username").bind Json.asString).getD ""),
            .email (((json.lookup "email").bind Json.asString).getD "")]
      | none => []

/-- The request of the profile, the result of the validation before it, and the access
token stored when it was sent. -/
structure Sent where
  request : URLRequest
  isValid : Bool
  stored : Option String

structure Handled where
  result : TaskResult
  assignments : List Assignment
  before : ProfileViewModel
  after : ProfileViewModel

/-- One call of `fetchUserData`.  The completion of its validation is the captured token;
`sent` and `handled` are history. -/
structure Loading where
  viewModel : ProfileViewModel
  conversation : Conversation String Unit
  inFlight : List URLRequest
  blocks : List TaskResult
  sent : List Sent
  handled : List Handled

namespace Loading

inductive Action where
  | validation (action : Conversation.Action)
  | answered (index : Nat) (result : TaskResult)
  | runBlock

/-- The closure passed to `validateToken`, which ignores the result of the validation. -/
def completed (stored : Option String) : Effect String Unit → Option Sent
  | .validated token isValid => some ⟨meRequest token, isValid, stored⟩
  | _ => none

def validated (loading : Loading) (next : Conversation String Unit) : Loading :=
  let called := next.completions.drop loading.conversation.completions.length
  let sent := called.filterMap (completed next.defaults.authToken)
  { loading with
    conversation := next
    inFlight := loading.inFlight ++ sent.map Sent.request
    sent := loading.sent ++ sent }

def fetchUserData (viewModel : ProfileViewModel) (defaults : UserDefaults) : Loading :=
  let idle : Loading :=
    { viewModel := viewModel
      conversation :=
        { defaults := defaults, waiting := [], removals := 0, completions := [], exchanged := [] }
      inFlight := [], blocks := [], sent := [], handled := [] }
  match defaults.authToken with
  | none => idle
  | some token => idle.validated (start (.validateToken token) defaults)

def step : Transition Loading Action
  | loading, .validation action =>
      (Conversation.step loading.conversation action).map loading.validated
  | loading, .answered index result =>
      loading.inFlight[index]?.map fun _ =>
        { loading with
          inFlight := loading.inFlight.eraseIdx index
          blocks := loading.blocks ++ [result] }
  | loading, .runBlock =>
      match loading.blocks with
      | [] => none
      | result :: rest =>
          (userDataAnswered result).map fun assignments =>
            let after := loading.viewModel.assign assignments
            { loading with
              viewModel := after
              blocks := rest
              handled := loading.handled ++ [⟨result, assignments, loading.viewModel, after⟩] }

end Loading

open Loading

/-- After a validation that ended with true, the request carries the token stored then. -/
def SendsStoredToken (loading : Loading) : Prop :=
  ∀ sent ∈ loading.sent, sent.isValid = true → sent.request.bearer = sent.stored

/-- An answer that is no success assigns nothing and keeps both values. -/
def AssignsOnSuccess (loading : Loading) : Prop :=
  ∀ handled ∈ loading.handled, handled.result.statusCode ≠ some 200 →
    handled.assignments = [] ∧ handled.after = handled.before

/-- When the last answer accepts an attempt, no refresh was granted before it, or the last
one granted the token that was stored at first. -/
def GrantsStoredToken (defaults : UserDefaults) (exchanged : List (Exchanged String Unit)) :
    Prop :=
  ∀ done attempt token, exchanged = done ++ [attempt] → attempt.task.isAttempt = true →
    attempt.result.statusCode = some 200 → lastGrant done = some token →
      defaults.authToken = some token

def SucceedsOrBringsNothing (handled : List Handled) : Prop :=
  ∀ block ∈ handled, block.result.statusCode = some 200 ∨ block.result.error.isSome = true ∨
    userData block.result = none

/-! ### The validation -/

variable {defaults : UserDefaults} {token : String} {exchanged : List (Exchanged String Unit)}
  {effects : List (Effect String Unit)} {conversation next : Conversation String Unit}

private theorem ends_validated (ends : Ends (.validateToken token) defaults exchanged effects) :
    ∃ isValid, effects.filter Effect.completes = [.validated token isValid] ∧
      (isValid = true → queuedRemovals effects = []) := by
  cases ends with
  | unauthorized _ => exact ⟨false, rfl, fun _ => rfl⟩
  | delivered _ => exact ⟨_, rfl, fun _ => rfl⟩
  | unrefreshed _ _ => exact ⟨false, rfl, fun impossible => by cases impossible⟩
  | failed _ => exact ⟨false, rfl, fun impossible => by cases impossible⟩

private theorem completions_of_traced
    (traced : Traced (.validateToken token) defaults conversation) :
    conversation.completions = [] ∨
      (conversation.waiting = [] ∧ ∃ isValid,
        conversation.completions = [.validated token isValid] ∧
          (isValid = true → conversation.removals = 0)) := by
  cases traced with
  | waits _ => exact Or.inl rfl
  | ended ends =>
      obtain ⟨isValid, called, queued⟩ := ends_validated ends
      exact Or.inr ⟨rfl, isValid, called, fun valid => by simp [queued valid]⟩
  | cleared ends _ =>
      obtain ⟨isValid, called, _⟩ := ends_validated ends
      exact Or.inr ⟨rfl, isValid, called, fun _ => rfl⟩

/-- A validation ends with true exactly when its last exchange accepts an attempt, and it
leaves the last token granted in place. -/
private theorem valid_iff (traced : Traced (.validateToken token) defaults conversation)
    {done : List (Exchanged String Unit)} {attempt : Exchanged String Unit}
    (splits : conversation.exchanged = done ++ [attempt]) :
    conversation.completions = [.validated token true] ↔
      attempt.task.isAttempt = true ∧ attempt.result.statusCode = some 200 := by
  cases traced with
  | waits sends =>
      cases splits
      apply iff_of_false (by simp)
      rintro ⟨attempts, accepted⟩
      rcases sends_after sends with ⟨_, refused, _⟩ | ⟨refreshes, _⟩
      · rw [accepted] at refused
        cases refused
      · rw [attempts] at refreshes
        cases refreshes
  | ended ends =>
      cases splits
      exact ends_valid_iff ends
  | cleared ends _ =>
      cases splits
      exact ends_valid_iff ends

private theorem held_of_valid (traced : Traced (.validateToken token) defaults conversation)
    (valid : conversation.completions = [.validated token true]) :
    conversation.defaults = held defaults conversation.exchanged := by
  cases traced with
  | waits _ => rfl
  | ended _ => rfl
  | cleared ends queued =>
      obtain ⟨isValid, called, kept⟩ := ends_validated ends
      cases called.symm.trans valid
      exact absurd (kept rfl) queued

private theorem exchanged_of_valid (traced : Traced (.validateToken token) defaults conversation)
    (valid : conversation.completions = [.validated token true]) :
    conversation.exchanged ≠ [] := by
  intro nothing
  cases traced with
  | waits _ => cases valid
  | ended ends =>
      cases nothing
      cases (ends_first ends).2
      cases valid
  | cleared ends queued =>
      cases nothing
      cases (ends_first ends).2
      cases valid

/-! ### The request of the profile -/

inductive Validating (defaults : UserDefaults) : Conversation String Unit → List Sent → Prop
  | idle (absent : defaults.authToken = none) :
      Validating defaults
        { defaults := defaults, waiting := [], removals := 0, completions := [], exchanged := [] }
        []
  | waiting {token : String} {conversation : Conversation String Unit}
      (captured : defaults.authToken = some token)
      (traced : Traced (.validateToken token) defaults conversation)
      (unfinished : conversation.completions = []) : Validating defaults conversation []
  | requested {token : String} {conversation : Conversation String Unit} {isValid : Bool}
      {stored : Option String} (captured : defaults.authToken = some token)
      (traced : Traced (.validateToken token) defaults conversation)
      (called : conversation.completions = [.validated token isValid])
      (current : isValid = true → stored = conversation.defaults.authToken) :
      Validating defaults conversation [⟨meRequest token, isValid, stored⟩]

private theorem validating_step {sent : List Sent} {action : Conversation.Action}
    (validating : Validating defaults conversation sent)
    (taken : Conversation.step conversation action = some next) :
    Validating defaults next
      (sent ++ (next.completions.drop conversation.completions.length).filterMap
        (completed next.defaults.authToken)) := by
  cases validating with
  | idle absent =>
      cases action with
      | answered index result =>
          obtain ⟨task, found, _⟩ := step_answered taken
          cases found
      | removeTokens =>
          obtain ⟨removals, queued, _⟩ := step_removeTokens taken
          cases queued
  | waiting captured traced unfinished =>
      have tracedNext := traced_step traced taken
      rw [unfinished]
      rcases completions_of_traced tracedNext with still | ⟨_, isValid, called, _⟩
      · rw [still]
        exact .waiting captured tracedNext still
      · rw [called]
        exact .requested captured tracedNext called fun _ => rfl
  | requested captured traced called current =>
      have tracedNext := traced_step traced taken
      rcases completions_of_traced traced with unfinished | ⟨halted, isValid, calledSame, kept⟩
      · rw [unfinished] at called
        cases called
      · cases called.symm.trans calledSame
        cases action with
        | answered index result =>
            obtain ⟨task, found, _⟩ := step_answered taken
            rw [halted] at found
            cases found
        | removeTokens =>
            obtain ⟨removals, queued, rfl⟩ := step_removeTokens taken
            rw [List.drop_length]
            refine .requested captured tracedNext called fun valid => ?_
            rw [kept valid] at queued
            cases queued

private theorem sendsStoredToken_iff {loading : Loading}
    (validating : Validating defaults loading.conversation loading.sent) :
    SendsStoredToken loading ↔ GrantsStoredToken defaults loading.conversation.exchanged := by
  unfold SendsStoredToken GrantsStoredToken
  generalize loading.conversation = conversation at validating
  generalize loading.sent = sent at validating
  cases validating with
  | idle absent => simp
  | waiting captured traced unfinished =>
      apply iff_of_true (by simp)
      intro done attempt token splits attempts accepted
      have valid := (valid_iff traced splits).mpr ⟨attempts, accepted⟩
      rw [unfinished] at valid
      cases valid
  | requested captured traced called current =>
      rename_i token isValid stored
      cases isValid with
      | false =>
          apply iff_of_true (by simp)
          intro done attempt token splits attempts accepted
          have valid := (valid_iff traced splits).mpr ⟨attempts, accepted⟩
          rw [called] at valid
          cases valid
      | true =>
          obtain nothing | ⟨done, attempt, splits⟩ :=
            List.eq_nil_or_concat' conversation.exchanged
          · exact absurd nothing (exchanged_of_valid traced called)
          · obtain ⟨attempts, accepted⟩ := (valid_iff traced splits).mp called
            have ungranted : attempt.grant = none := by simp [Exchanged.grant, attempts]
            have storedEq : stored = (lastGrant done).or (some token) := by
              rw [current rfl, held_of_valid traced called, splits,
                held_append_of_none ungranted, ← captured]
              rfl
            rw [splits, captured, storedEq]
            constructor
            · intro carries done' attempt' token' splits' _ _ granted
              obtain ⟨rfl, _⟩ := List.append_singleton_inj.mp splits'
              have bearerEq := carries _ (List.mem_singleton_self _) rfl
              rw [granted] at bearerEq
              exact bearerEq
            · intro grants sent member _
              obtain rfl := List.mem_singleton.mp member
              change some token = _
              cases granted : lastGrant done with
              | none => rfl
              | some token' => exact grants done attempt token' rfl attempts accepted granted

/-! ### The answer to it -/

private theorem userDataAnswered_nil_iff {result : TaskResult} {assignments : List Assignment}
    (answered : userDataAnswered result = some assignments) :
    assignments = [] ↔ result.error.isSome = true ∨ userData result = none := by
  unfold userDataAnswered at answered
  unfold userData
  by_cases failed : result.error.isSome = true
  · rw [if_pos failed] at answered
    cases answered
    exact iff_of_true rfl (Or.inl failed)
  · rw [if_neg failed] at answered
    obtain ⟨data, delivered, rfl⟩ := Option.map_eq_some_iff.mp answered
    rw [delivered, Option.bind_some]
    cases (Json.jsonObject data).bind Json.asDictionary with
    | none => exact iff_of_true rfl (Or.inr rfl)
    | some fields => simp [failed]

def Faithful (handled : Handled) : Prop :=
  userDataAnswered handled.result = some handled.assignments ∧
    handled.after = handled.before.assign handled.assignments

private theorem assignsOnSuccess_iff {loading : Loading}
    (faithful : ∀ handled ∈ loading.handled, Faithful handled) :
    AssignsOnSuccess loading ↔ SucceedsOrBringsNothing loading.handled := by
  refine forall₂_congr fun handled member => ?_
  obtain ⟨answered, assigned⟩ := faithful handled member
  rw [← userDataAnswered_nil_iff answered]
  constructor
  · intro keeps
    by_cases succeeds : handled.result.statusCode = some 200
    · exact Or.inl succeeds
    · exact Or.inr (keeps succeeds).1
  · rintro (succeeds | nothing) fails
    · exact absurd succeeds fails
    · refine ⟨nothing, ?_⟩
      rw [assigned, nothing]
      rfl

/-! ### Whole runs -/

structure Loads (defaults : UserDefaults) (loading : Loading) : Prop where
  validating : Validating defaults loading.conversation loading.sent
  faithful : ∀ handled ∈ loading.handled, Faithful handled

private theorem loads_fetchUserData (viewModel : ProfileViewModel) (defaults : UserDefaults) :
    Loads defaults (fetchUserData viewModel defaults) := by
  unfold fetchUserData
  cases captured : defaults.authToken with
  | none => exact ⟨.idle captured, by simp⟩
  | some token =>
      constructor
      case validating =>
        have traced := traced_start (.validateToken token : Retried String Unit) defaults
        dsimp only
        rw [start_of_stored captured] at traced ⊢
        exact .waiting captured traced rfl
      case faithful => simp [validated]

private theorem loads_step {loading next : Loading} {action : Loading.Action}
    (loads : Loads defaults loading)
    (taken : Loading.step loading action = some next) : Loads defaults next := by
  obtain ⟨validating, faithful⟩ := loads
  cases action with
  | validation action =>
      obtain ⟨conversation, stepped, rfl⟩ := Option.map_eq_some_iff.mp taken
      exact ⟨validating_step validating stepped, faithful⟩
  | answered index result =>
      obtain ⟨request, _, rfl⟩ := Option.map_eq_some_iff.mp taken
      exact ⟨validating, faithful⟩
  | runBlock =>
      unfold Loading.step at taken
      cases queued : loading.blocks with
      | nil => simp only [queued] at taken; cases taken
      | cons result rest =>
          simp only [queued] at taken
          obtain ⟨assignments, answered, rfl⟩ := Option.map_eq_some_iff.mp taken
          refine ⟨validating, fun handled member => ?_⟩
          rcases List.mem_append.mp member with earlier | added
          · exact faithful handled earlier
          · obtain rfl := List.mem_singleton.mp added
            exact ⟨answered, rfl⟩

/-- With any tokens stored and along any answers, the profile is requested with the valid
token and filled by successes only exactly when the refreshes grant the token that was
stored at first, and no error status brings a dictionary. -/
theorem loadsProfile_iff (viewModel : ProfileViewModel) (defaults : UserDefaults)
    (actions : List Loading.Action) (loading : Loading)
    (arrived : run Loading.step (fetchUserData viewModel defaults) actions = some loading) :
    (SendsStoredToken loading ∧ AssignsOnSuccess loading) ↔
      (GrantsStoredToken defaults loading.conversation.exchanged ∧
        SucceedsOrBringsNothing loading.handled) := by
  have loads : Loads defaults loading := by
    refine run_invariant (Loads defaults) ?_ (loads_fetchUserData viewModel defaults) arrived
    intro before action after here taken
    exact loads_step here taken
  exact and_congr (sendsStoredToken_iff loads.validating) (assignsOnSuccess_iff loads.faithful)

def refreshed : List Loading.Action :=
  [.validation (.answered 0 (bareStatus 401)), .validation (.answered 0 (grantBody "granted")),
    .validation (.answered 0 (bareStatus 200))]

def profileBody (statusCode : Int) (fields : Fields) : TaskResult :=
  { data := some ⟨some (.object fields)⟩, response := some (.http statusCode), error := none }

/-- A token that is accepted at once, and a successful answer. -/
theorem loadsProfile_accepted :
    ∃ loading : Loading, loading.viewModel = ⟨"Aidana", ""⟩ ∧
      SendsStoredToken loading ∧ AssignsOnSuccess loading := by
  let defaults : UserDefaults := ⟨some "access", some "refresh", none⟩
  let actions : List Loading.Action :=
    [.validation (.answered 0 (bareStatus 200)),
      .answered 0 (profileBody 200 [("username", .string "Aidana")]), .runBlock]
  obtain ⟨loading, arrived⟩ :
      ∃ loading, run Loading.step (fetchUserData ⟨"", ""⟩ defaults) actions = some loading :=
    ⟨_, rfl⟩
  refine ⟨loading, by cases arrived; rfl,
    (loadsProfile_iff ⟨"", ""⟩ defaults actions loading arrived).mpr ⟨?_, ?_⟩⟩
  · intro done attempt token splits _ _ granted
    have counted : loading.conversation.exchanged.length = 1 := by cases arrived; rfl
    rw [splits, List.length_append, List.length_singleton] at counted
    obtain rfl := List.length_eq_zero_iff.mp (Nat.succ.inj counted)
    cases granted
  · intro block member
    have statuses : loading.handled.map (fun block => block.result.statusCode) = [some 200] := by
      cases arrived; rfl
    have status : block.result.statusCode ∈
        loading.handled.map (fun block => block.result.statusCode) := List.mem_map_of_mem member
    rw [statuses] at status
    exact Or.inl (List.mem_singleton.mp status)

/-- After a refresh the profile is requested with the token that was refused. -/
theorem not_loadsProfile_after_refresh :
    ¬ ∀ (viewModel : ProfileViewModel) (defaults : UserDefaults)
        (actions : List Loading.Action) (loading : Loading),
      run Loading.step (fetchUserData viewModel defaults) actions = some loading →
        SendsStoredToken loading ∧ AssignsOnSuccess loading := by
  intro always
  have sends := (always ⟨"", ""⟩ ⟨some "expired", some "refresh", none⟩ refreshed _ rfl).1
  have carries := sends ⟨meRequest "expired", true, some "granted"⟩ (List.mem_singleton_self _) rfl
  exact absurd carries (by decide)

end SmartMeal.ProfileLoading
