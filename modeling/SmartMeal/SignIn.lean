/-
Login and registration.

The two view models write the same call out with other texts, and read the tokens of
the response from another place: a login at its top level, a registration under
`tokens`.  Every answer ends the loading and then calls back once, and the tokens are
stored, both of the same response, exactly on the way to `onSuccess`.
-/

import SmartMeal.FavoritesManager

namespace SmartMeal.SignIn

inductive Signal where
  | isLoading (loading : Bool)
  | onSuccess
  | onError (message : String)

/-- `signals` and `sent` log one call. -/
structure Call where
  defaults : UserDefaults
  signals : List Signal
  sent : List URLRequest

namespace Call

def start (defaults : UserDefaults) : Call := { defaults := defaults, signals := [], sent := [] }

def signal (signal : Signal) (call : Call) : Call :=
  { call with signals := call.signals ++ [signal] }

private theorem signals_signal (signal : Signal) (call : Call) :
    (call.signal signal).signals = call.signals ++ [signal] := rfl

def send (request : URLRequest) (call : Call) : Call :=
  { call with sent := call.sent ++ [request] }

/-- The call when its block runs; other flows may have changed the stored values. -/
def resumed (defaults : UserDefaults) (call : Call) : Call := { call with defaults := defaults }

end Call

/-- `JSONSerialization.data(withJSONObject:)`, which throws unless the value is an array
or an object. -/
def serialized : Json → Option Data
  | .array elements => some ⟨some (.array elements)⟩
  | .object fields => some ⟨some (.object fields)⟩
  | _ => none

def postRequest (url : String) (httpBody : Data) : URLRequest :=
  { url := url
    httpMethod := "POST"
    bearer := none
    contentType := some "application/json"
    httpBody := some httpBody }

/-! ### The requests -/

/-- `LoginViewModel.login`; a body that cannot be serialized ends it without a callback. -/
def login (userName password : String) (call : Call) : Call :=
  let loading := call.signal (.isLoading true)
  match serialized (.object [("username", .string userName), ("password", .string password)]) with
  | none => loading.signal (.isLoading false)
  | some httpBody =>
      loading.send (postRequest "https://api.smartmeal.kz/v1/auth/login/" httpBody)

def register (fullname email password : String) (call : Call) : Call :=
  let loading := call.signal (.isLoading true)
  match serialized (.object [("username", .string fullname), ("email", .string email),
      ("password", .string password)]) with
  | none => (loading.signal (.isLoading false)).signal (.onError "error3")
  | some httpBody =>
      loading.send (postRequest "https://api.smartmeal.kz/v1/auth/register/" httpBody)

/-! ### The blocks that the answers queue -/

def storeTokens (tokens : Option Fields) (refused : String) (call : Call) : Call :=
  match tokens.bind fun fields => Fields.string? fields "access",
      tokens.bind fun fields => Fields.string? fields "refresh" with
  | some access, some refresh =>
      { call with defaults := saveToken access refresh call.defaults }.signal .onSuccess
  | _, _ => call.signal (.onError refused)

/-- `json?` of a login, and `json?["tokens"]` of a registration. -/
def loginFields (json : Json) : Option Fields := json.asDictionary

def registrationFields (json : Json) : Option Fields :=
  (json.asDictionary.bind fun fields => fields.lookup "tokens").bind Json.asDictionary

def loginAnswered (result : TaskResult) (call : Call) : Option Call :=
  let loaded := call.signal (.isLoading false)
  match result.error with
  | some error => some (loaded.signal (.onError error.localizedDescription))
  | none => do
      let data ← result.data
      match Json.jsonObject data with
      | none => pure (loaded.signal (.onError "error 2"))
      | some json =>
          pure (storeTokens (loginFields json) "wrong username or password" loaded)

/-- The last line of the block prints the data and the response, unwrapping both. -/
def registerAnswered (result : TaskResult) (call : Call) : Option Call :=
  let loaded := call.signal (.isLoading false)
  match result.error with
  | some error => some (loaded.signal (.onError error.localizedDescription))
  | none => do
      let data ← result.data
      let finished ← match Json.jsonObject data with
        | none => pure (loaded.signal (.onError "error2"))
        | some json =>
            pure (storeTokens (registrationFields json) "user with this name already exists" loaded)
      let _ ← result.response
      pure finished

/-! ### The outcome -/

/-- What URLSession hands to a closure: an error, or data and a response without one. -/
def Delivered (result : TaskResult) : Prop :=
  result.error = none → result.data.isSome ∧ result.response.isSome

def bothTokens (tokens : Option Fields) : Option (String × String) := do
  let fields ← tokens
  let access ← Fields.string? fields "access"
  let refresh ← Fields.string? fields "refresh"
  pure (access, refresh)

def tokenPair (fields : Json → Option Fields) (result : TaskResult) : Option (String × String) :=
  match result.error with
  | some _ => none
  | none => bothTokens ((result.data.bind Json.jsonObject).bind fields)

/-- Loading is set and reset, and then `onSuccess` is called with both tokens stored, or
`onError` with the stored values unchanged. -/
inductive EndsOnce (before : UserDefaults) (finished : Call) : Option (String × String) → Prop where
  | success (access refresh : String)
      (signals : finished.signals = [.isLoading true, .isLoading false, .onSuccess])
      (stored : finished.defaults = saveToken access refresh before) :
      EndsOnce before finished (some (access, refresh))
  | failure (message : String)
      (signals : finished.signals = [.isLoading true, .isLoading false, .onError message])
      (stored : finished.defaults = before) :
      EndsOnce before finished none

private theorem endsOnce_onError {before : UserDefaults} {call : Call} (message : String)
    (signals : call.signals = [.isLoading true, .isLoading false])
    (stored : call.defaults = before) : EndsOnce before (call.signal (.onError message)) none := by
  refine EndsOnce.failure message ?_ stored
  rw [Call.signals_signal, signals]
  rfl

private theorem signals_loaded {call : Call} (signals : call.signals = [.isLoading true]) :
    (call.signal (.isLoading false)).signals = [.isLoading true, .isLoading false] := by
  rw [Call.signals_signal, signals]
  rfl

private theorem endsOnce_storeTokens {before : UserDefaults} {call : Call} (tokens : Option Fields)
    (refused : String) (signals : call.signals = [.isLoading true, .isLoading false])
    (stored : call.defaults = before) :
    EndsOnce before (storeTokens tokens refused call) (bothTokens tokens) := by
  unfold storeTokens bothTokens
  cases tokens with
  | none => exact endsOnce_onError refused signals stored
  | some fields =>
      simp only [Option.bind_some, Option.bind_eq_bind]
      cases Fields.string? fields "access" with
      | none => exact endsOnce_onError refused signals stored
      | some access =>
          cases Fields.string? fields "refresh" with
          | none => exact endsOnce_onError refused signals stored
          | some refresh =>
              refine EndsOnce.success access refresh ?_ (congrArg (saveToken access refresh) stored)
              rw [Call.signals_signal]
              change call.signals ++ [Signal.onSuccess] = _
              rw [signals]
              rfl

theorem loginAnswered_endsOnce {result : TaskResult} {call : Call} (delivered : Delivered result)
    (signals : call.signals = [.isLoading true]) :
    ∃ finished, loginAnswered result call = some finished ∧
      EndsOnce call.defaults finished (tokenPair loginFields result) := by
  have loaded := signals_loaded signals
  unfold loginAnswered
  cases failed : result.error with
  | some error =>
      unfold tokenPair
      rw [failed]
      exact ⟨_, rfl, endsOnce_onError error.localizedDescription loaded rfl⟩
  | none =>
      obtain ⟨data, received⟩ := Option.isSome_iff_exists.mp (delivered failed).1
      unfold tokenPair
      rw [failed, received]
      cases parsed : Json.jsonObject data with
      | none =>
          simp only [parsed, Option.bind_eq_bind, Option.bind_some, Option.bind_none]
          exact ⟨_, rfl, endsOnce_onError "error 2" loaded rfl⟩
      | some json =>
          simp only [parsed, Option.bind_eq_bind, Option.bind_some]
          exact ⟨_, rfl, endsOnce_storeTokens (loginFields json) _ loaded rfl⟩

theorem registerAnswered_endsOnce {result : TaskResult} {call : Call}
    (delivered : Delivered result) (signals : call.signals = [.isLoading true]) :
    ∃ finished, registerAnswered result call = some finished ∧
      EndsOnce call.defaults finished (tokenPair registrationFields result) := by
  have loaded := signals_loaded signals
  unfold registerAnswered
  cases failed : result.error with
  | some error =>
      unfold tokenPair
      rw [failed]
      exact ⟨_, rfl, endsOnce_onError error.localizedDescription loaded rfl⟩
  | none =>
      obtain ⟨data, received⟩ := Option.isSome_iff_exists.mp (delivered failed).1
      obtain ⟨response, answered⟩ := Option.isSome_iff_exists.mp (delivered failed).2
      unfold tokenPair
      rw [failed, received, answered]
      cases parsed : Json.jsonObject data with
      | none =>
          simp only [parsed, Option.bind_eq_bind, Option.bind_some, Option.bind_none]
          exact ⟨_, rfl, endsOnce_onError "error2" loaded rfl⟩
      | some json =>
          simp only [parsed, Option.bind_eq_bind, Option.bind_some]
          exact ⟨_, rfl, endsOnce_storeTokens (registrationFields json) _ loaded rfl⟩

private theorem sent_storeTokens (tokens : Option Fields) (refused : String) (call : Call) :
    (storeTokens tokens refused call).sent = call.sent := by
  unfold storeTokens
  split <;> rfl

private theorem sent_loginAnswered {result : TaskResult} {call finished : Call}
    (answered : loginAnswered result call = some finished) : finished.sent = call.sent := by
  unfold loginAnswered at answered
  split at answered
  · cases answered
    rfl
  · obtain ⟨data, _, read⟩ := Option.bind_eq_some_iff.mp answered
    split at read
    · cases read
      rfl
    · cases read
      exact sent_storeTokens _ _ _

private theorem sent_registerAnswered {result : TaskResult} {call finished : Call}
    (answered : registerAnswered result call = some finished) : finished.sent = call.sent := by
  unfold registerAnswered at answered
  split at answered
  · cases answered
    rfl
  · obtain ⟨data, _, read⟩ := Option.bind_eq_some_iff.mp answered
    cases parsed : Json.jsonObject data with
    | none =>
        simp only [parsed, Option.pure_def, Option.bind_eq_bind, Option.bind_some] at read
        obtain ⟨_, _, same⟩ := Option.bind_eq_some_iff.mp read
        cases same
        rfl
    | some json =>
        simp only [parsed, Option.pure_def, Option.bind_eq_bind, Option.bind_some] at read
        obtain ⟨_, _, same⟩ := Option.bind_eq_some_iff.mp read
        cases same
        exact sent_storeTokens _ _ _

/-- Whatever is entered and whatever URLSession delivers, a login and a registration send
one request and end once: with `onSuccess` and both tokens stored exactly if the answer is no
error and brings both of them, and with `onError` and nothing stored otherwise. -/
theorem signIn_endsOnce (fullname email password : String) (started before : UserDefaults)
    (result : TaskResult) (delivered : Delivered result) :
    (∃ finished,
      loginAnswered result ((login fullname password (.start started)).resumed before) =
        some finished ∧
      finished.sent = [postRequest "https://api.smartmeal.kz/v1/auth/login/"
        ⟨some (.object [("username", .string fullname), ("password", .string password)])⟩] ∧
      EndsOnce before finished (tokenPair loginFields result)) ∧
    ∃ finished,
      registerAnswered result ((register fullname email password (.start started)).resumed before) =
        some finished ∧
      finished.sent = [postRequest "https://api.smartmeal.kz/v1/auth/register/"
        ⟨some (.object [("username", .string fullname), ("email", .string email),
          ("password", .string password)])⟩] ∧
      EndsOnce before finished (tokenPair registrationFields result) := by
  constructor
  · obtain ⟨finished, answered, ends⟩ := @loginAnswered_endsOnce result
      ((login fullname password (.start started)).resumed before) delivered rfl
    exact ⟨finished, answered, sent_loginAnswered answered, ends⟩
  · obtain ⟨finished, answered, ends⟩ := @registerAnswered_endsOnce result
      ((register fullname email password (.start started)).resumed before) delivered rfl
    exact ⟨finished, answered, sent_registerAnswered answered, ends⟩

def registered : TaskResult :=
  { data := some ⟨some (.object
      [("tokens", .object [("access", .string "first"), ("refresh", .string "second")])])⟩
    response := some (.http 201)
    error := none }

theorem signIn_endsOnce_registered :
    (∃ finished,
      loginAnswered registered ((login "ann" "pw" (.start ⟨none, none, none⟩)).resumed
        ⟨none, none, none⟩) = some finished ∧
      EndsOnce ⟨none, none, none⟩ finished none) ∧
    ∃ finished,
      registerAnswered registered ((register "ann" "ann@mail.kz" "pw"
        (.start ⟨none, none, none⟩)).resumed ⟨none, none, none⟩) = some finished ∧
      EndsOnce ⟨none, none, none⟩ finished (some ("first", "second")) := by
  obtain ⟨⟨login, loginAnswered, _, loginEnds⟩, register, registerAnswered, _, registerEnds⟩ :=
    signIn_endsOnce "ann" "ann@mail.kz" "pw" ⟨none, none, none⟩ ⟨none, none, none⟩ registered
      fun _ => ⟨rfl, rfl⟩
  exact ⟨⟨login, loginAnswered, loginEnds⟩, register, registerAnswered, registerEnds⟩

end SmartMeal.SignIn
