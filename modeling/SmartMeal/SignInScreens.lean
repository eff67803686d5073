/-
The login screen and the registration screens pushed over it.

A filled form starts a call, whose answer queues a block that ends it; the view model
calls back into its screen, which a registration screen does not survive once it has been
popped and released.  Every call is sent once and ends at most once, and a flow is started
only with the two tokens that the call has just brought.
-/

import SmartMeal.SignIn
import SmartMeal.Library.Run
import SmartMeal.Library.Custody
import Mathlib.Tactic.Abel

namespace SmartMeal.SignInScreens

open PartialStep SignIn Custody

/-- A registration screen, by the order in which it was pushed. -/
inductive Screen where
  | login
  | registration (id : Nat)
  deriving DecidableEq

abbrev Answer := { result : TaskResult // Delivered result }

/-- A call that was sent; `tap` counts the filled forms before it. -/
structure PendingCall where
  screen : Screen
  tap : Nat
  call : Call

/-- A block on the main queue: that of an answer, that of the `isLoading` closure of a
screen, and that of `showLoading`. -/
inductive Block where
  | answered (flight : PendingCall) (answer : Answer)
  | isLoading (screen : Screen) (loading : Bool)
  | showLoading (screen : Screen) (loading : Bool)

/-- What a callback comes to; it is lost where the screen has been released. -/
inductive Outcome where
  | showAlert (message : String)
  | start (defaults : UserDefaults)
  | lost

structure Ending where
  screen : Screen
  tap : Nat
  answer : Answer
  outcome : Outcome

/-- `registrations` is the navigation stack over the login screen, top first, and
`controllers` has the registration screens that are not released.  `alerts`, `forms`,
`sent` and `endings` are history. -/
structure AuthScreens where
  defaults : UserDefaults
  shown : Bool
  registrations : List Nat
  controllers : List Nat
  created : Nat
  isHidden : Screen → Bool
  isAnimating : Screen → Bool
  mainQueue : List Block
  inFlight : List PendingCall
  alerts : List (Screen × String)
  forms : List Screen
  sent : List (Nat × URLRequest)
  endings : List Ending

namespace AuthScreens

def launch (defaults : UserDefaults) : AuthScreens :=
  { defaults := defaults
    shown := true
    registrations := []
    controllers := []
    created := 0
    isHidden := fun _ => true
    isAnimating := fun _ => false
    mainQueue := []
    inFlight := []
    alerts := []
    forms := []
    sent := []
    endings := [] }

/-- The login screen is never released: its `onError` closure holds it. -/
def isLive (controllers : List Nat) : Screen → Bool
  | .login => true
  | .registration id => controllers.contains id

def alive (screens : AuthScreens) (screen : Screen) : Bool := isLive screens.controllers screen

def queue (block : Block) (screens : AuthScreens) : AuthScreens :=
  { screens with mainQueue := screens.mainQueue ++ [block] }

def showAlert (screen : Screen) (message : String) (screens : AuthScreens) : AuthScreens :=
  { screens with alerts := screens.alerts ++ [(screen, message)] }

def start (screen : Screen) (call : Call) (screens : AuthScreens) : AuthScreens :=
  let loading := call.signals.foldl (fun screens signal =>
    match signal with
    | .isLoading loading => screens.queue (.isLoading screen loading)
    | _ => screens) screens
  { loading with
    forms := loading.forms ++ [screen]
    sent := loading.sent ++ call.sent.map fun request => (screens.forms.length, request)
    inFlight := loading.inFlight ++
      call.sent.map fun _ => ⟨screen, screens.forms.length, call⟩ }

/-- A callback of the view model in the block of an answer; `onSuccess` starts the flow
that replaces this one in the window. -/
def perform (flight : PendingCall) (answer : Answer) (screens : AuthScreens) :
    Signal → AuthScreens
  | .isLoading loading => screens.queue (.isLoading flight.screen loading)
  | .onSuccess =>
      if screens.alive flight.screen then
        { screens with
          shown := false
          endings := screens.endings ++
            [⟨flight.screen, flight.tap, answer, .start screens.defaults⟩] }
      else
        { screens with
          endings := screens.endings ++ [⟨flight.screen, flight.tap, answer, .lost⟩] }
  | .onError message =>
      if screens.alive flight.screen then
        { screens.showAlert flight.screen message with
          endings := screens.endings ++
            [⟨flight.screen, flight.tap, answer, .showAlert message⟩] }
      else
        { screens with
          endings := screens.endings ++ [⟨flight.screen, flight.tap, answer, .lost⟩] }

end AuthScreens

def answered : Screen → TaskResult → Call → Option Call
  | .login => loginAnswered
  | .registration _ => registerAnswered

namespace AuthScreens

def runs (screens : AuthScreens) : Block → Option AuthScreens
  | .answered flight answer =>
      (answered flight.screen answer.val (flight.call.resumed screens.defaults)).map
        fun finished =>
          (finished.signals.drop flight.call.signals.length).foldl
            (AuthScreens.perform flight answer) { screens with defaults := finished.defaults }
  | .isLoading screen loading =>
      if screens.alive screen then
        some ({ screens with isHidden := Function.update screens.isHidden screen !loading }.queue
          (.showLoading screen loading))
      else some screens
  | .showLoading screen loading =>
      some { screens with isAnimating := Function.update screens.isAnimating screen loading }

/-- `goToRegister` pushes a new screen, and `goToLogin` pops the one on top. -/
def textButtonTapped (screens : AuthScreens) : AuthScreens :=
  match screens.registrations with
  | [] =>
      { screens with
        registrations := [screens.created]
        controllers := screens.created :: screens.controllers
        created := screens.created + 1
        isHidden := Function.update screens.isHidden (.registration screens.created) true
        isAnimating := Function.update screens.isAnimating (.registration screens.created) false }
  | _ :: rest => { screens with registrations := rest }

end AuthScreens

def filled (text : Option String) : Option String := text.filter fun string => !string.isEmpty

/-- Only the screen on top is tapped, and only while this flow is shown.  A popped screen
is released once no `showLoading` block holds it.  Other flows change the stored values,
and replace this one in the window. -/
inductive Action where
  | signIn (fullName passwordText : Option String)
  | signInButtonTapped (emailText passwordText nameText : Option String)
  | textButtonTapped
  | release (id : Nat)
  | answer (index : Nat) (answer : Answer)
  | runBlock
  | store (defaults : UserDefaults)
  | replace

def holds (screen : Screen) : Block → Bool
  | .showLoading held _ => held == screen
  | _ => false

def step : Transition AuthScreens Action := fun screens action =>
  match action with
  | .signIn fullName passwordText =>
      if screens.shown && screens.registrations.isEmpty then
        match filled fullName, filled passwordText with
        | some userName, some password =>
            some (screens.start .login (login userName password (.start screens.defaults)))
        | _, _ => some (screens.showAlert .login "Full all fields")
      else none
  | .signInButtonTapped emailText passwordText nameText =>
      match screens.registrations with
      | [] => none
      | id :: _ =>
          if screens.shown then
            match filled emailText, filled passwordText, filled nameText with
            | some email, some password, some fullName =>
                some (screens.start (.registration id)
                  (register fullName email password (.start screens.defaults)))
            | _, _, _ => some (screens.showAlert (.registration id) "Full all fields")
          else none
  | .textButtonTapped => if screens.shown then some screens.textButtonTapped else none
  | .release id =>
      if screens.registrations.contains id || screens.mainQueue.any (holds (.registration id)) then
        none
      else some { screens with controllers := screens.controllers.erase id }
  | .answer index answer =>
      (screens.inFlight[index]?).map fun flight =>
        { screens with inFlight := screens.inFlight.eraseIdx index }.queue
          (.answered flight answer)
  | .runBlock =>
      match screens.mainQueue with
      | [] => none
      | block :: rest => { screens with mainQueue := rest }.runs block
  | .store defaults => some { screens with defaults := defaults }
  | .replace => some { screens with shown := false }

/-! ### What holds of a run -/

def Block.tap : Block → Option Nat
  | .answered flight _ => some flight.tap
  | _ => none

def tokenFields : Screen → Json → Option Fields
  | .login => loginFields
  | .registration _ => registrationFields

/-- A flow is started with the tokens of the answer, an alert is shown for an answer
without both, and what is lost was for a screen that has been released. -/
def Explained (screens : AuthScreens) (ending : Ending) : Prop :=
  screens.forms[ending.tap]? = some ending.screen ∧
    match ending.outcome with
    | .start defaults => ∃ access refresh,
        tokenPair (tokenFields ending.screen) ending.answer.val = some (access, refresh) ∧
          defaults.authToken = some access ∧ defaults.refreshToken = some refresh
    | .showAlert _ => tokenPair (tokenFields ending.screen) ending.answer.val = none
    | .lost => ∃ id, ending.screen = .registration id ∧ id < screens.created ∧
        id ∉ screens.controllers

/-- Every filled form has sent one request, and its call is in flight, waits on the main
queue, or has ended. -/
structure Accounted (screens : AuthScreens) : Prop where
  sent : screens.sent.map Prod.fst = List.range screens.forms.length
  taps : (↑(List.range screens.forms.length) : Multiset Nat) =
    held (fun flight => some flight.tap) screens.inFlight + held Block.tap screens.mainQueue +
      held (fun ending => some ending.tap) screens.endings

structure Started (screens : AuthScreens) (flight : PendingCall) : Prop where
  form : screens.forms[flight.tap]? = some flight.screen
  signals : flight.call.signals = [.isLoading true]

structure Sound (screens : AuthScreens) : Prop where
  accounted : Accounted screens
  pushed : ∀ id ∈ screens.registrations, id < screens.created
  known : ∀ id, .registration id ∈ screens.forms → id < screens.created
  flights : ∀ flight ∈ screens.inFlight, Started screens flight
  queued : ∀ flight answer, .answered flight answer ∈ screens.mainQueue → Started screens flight
  explained : ∀ ending ∈ screens.endings, Explained screens ending

/-! ### What the later states keep -/

structure Extends (screens next : AuthScreens) : Prop where
  forms : screens.forms <+: next.forms
  created : screens.created ≤ next.created
  controllers : ∀ id < screens.created, id ∈ next.controllers → id ∈ screens.controllers

variable {screens next : AuthScreens}

private theorem Extends.of_same (forms : next.forms = screens.forms)
    (created : next.created = screens.created)
    (controllers : next.controllers = screens.controllers) : Extends screens next where
  forms := ⟨[], by rw [List.append_nil, forms]⟩
  created := Nat.le_of_eq created.symm
  controllers := by
    intro id _ member
    rw [controllers] at member
    exact member

private theorem Extends.form {tap : Nat} {screen : Screen} (grows : Extends screens next)
    (form : screens.forms[tap]? = some screen) : next.forms[tap]? = some screen := by
  obtain ⟨rest, same⟩ := grows.forms
  rw [← same, List.getElem?_append_left (List.getElem?_eq_some_iff.mp form).1]
  exact form

private theorem Started.kept {flight : PendingCall} (started : Started screens flight)
    (grows : Extends screens next) : Started next flight :=
  ⟨grows.form started.form, started.signals⟩

private theorem Explained.kept {ending : Ending} (explained : Explained screens ending)
    (grows : Extends screens next) : Explained next ending := by
  obtain ⟨form, why⟩ := explained
  refine ⟨grows.form form, ?_⟩
  cases outcome : ending.outcome with
  | start defaults => rw [outcome] at why; exact why
  | showAlert message => rw [outcome] at why; exact why
  | lost =>
      rw [outcome] at why
      obtain ⟨id, screen, older, released⟩ := why
      refine ⟨id, screen, Nat.lt_of_lt_of_le older grows.created, ?_⟩
      intro member
      exact released (grows.controllers id older member)

/-! ### What a form and an answer do -/

theorem start_eq {screen : Screen} {call : Call} {request : URLRequest}
    (signals : call.signals = [.isLoading true]) (sent : call.sent = [request]) :
    screens.start screen call =
      { screens with
        mainQueue := screens.mainQueue ++ [.isLoading screen true]
        forms := screens.forms ++ [screen]
        sent := screens.sent ++ [(screens.forms.length, request)]
        inFlight := screens.inFlight ++ [⟨screen, screens.forms.length, call⟩] } := by
  unfold AuthScreens.start
  rw [signals, sent]
  rfl

private theorem answered_endsOnce {screen : Screen} {call : Call} (answer : Answer)
    (signals : call.signals = [.isLoading true]) :
    ∃ finished, answered screen answer.val call = some finished ∧
      EndsOnce call.defaults finished (tokenPair (tokenFields screen) answer.val) := by
  cases screen with
  | login => exact loginAnswered_endsOnce answer.property signals
  | registration id => exact registerAnswered_endsOnce answer.property signals

/-- A screen that is not alive is a registration screen that was released. -/
private theorem released_of_dead {flight : PendingCall} (started : Started screens flight)
    (known : ∀ id, .registration id ∈ screens.forms → id < screens.created)
    (dead : screens.alive flight.screen = false) :
    ∃ id, flight.screen = .registration id ∧ id < screens.created ∧ id ∉ screens.controllers := by
  cases screen : flight.screen with
  | login =>
      rw [screen] at dead
      cases dead
  | registration id =>
      rw [screen] at dead
      refine ⟨id, rfl, known id ?_, ?_⟩
      · rw [← screen]
        exact List.mem_of_getElem? started.form
      · intro member
        change screens.controllers.contains id = false at dead
        rw [List.contains_iff_mem.mpr member] at dead
        cases dead

theorem runs_answered {flight : PendingCall} (answer : Answer) (started : Started screens flight)
    (known : ∀ id, .registration id ∈ screens.forms → id < screens.created) :
    ∃ defaults shown alerts ending,
      screens.runs (.answered flight answer) =
        some { screens with
          defaults := defaults
          shown := shown
          mainQueue := screens.mainQueue ++ [.isLoading flight.screen false]
          alerts := alerts
          endings := screens.endings ++ [ending] } ∧
      ending.tap = flight.tap ∧ Explained screens ending := by
  obtain ⟨finished, ended, once⟩ :=
    @answered_endsOnce flight.screen (flight.call.resumed screens.defaults) answer started.signals
  unfold AuthScreens.runs
  simp only [ended, Option.map_some, started.signals]
  generalize pair : tokenPair (tokenFields flight.screen) answer.val = tokens at once
  cases once with
  | success access refresh signals stored =>
      rw [signals]
      cases live : AuthScreens.isLive screens.controllers flight.screen with
      | true =>
          refine ⟨finished.defaults, false, screens.alerts,
            ⟨flight.screen, flight.tap, answer, .start finished.defaults⟩, ?_, rfl, started.form,
            access, refresh, pair, ?_, ?_⟩
          · simp [AuthScreens.perform, AuthScreens.queue, AuthScreens.alive, live]
          · rw [stored]; rfl
          · rw [stored]; rfl
      | false =>
          refine ⟨finished.defaults, screens.shown, screens.alerts,
            ⟨flight.screen, flight.tap, answer, .lost⟩, ?_, rfl, started.form,
            released_of_dead started known live⟩
          simp [AuthScreens.perform, AuthScreens.queue, AuthScreens.alive, live]
  | failure message signals stored =>
      rw [signals]
      cases live : AuthScreens.isLive screens.controllers flight.screen with
      | true =>
          refine ⟨finished.defaults, screens.shown, screens.alerts ++ [(flight.screen, message)],
            ⟨flight.screen, flight.tap, answer, .showAlert message⟩, ?_, rfl, started.form, pair⟩
          simp [AuthScreens.perform, AuthScreens.queue, AuthScreens.showAlert,
            AuthScreens.alive, live]
      | false =>
          refine ⟨finished.defaults, screens.shown, screens.alerts,
            ⟨flight.screen, flight.tap, answer, .lost⟩, ?_, rfl, started.form,
            released_of_dead started known live⟩
          simp [AuthScreens.perform, AuthScreens.queue, AuthScreens.alive, live]

/-! ### What the steps do -/

def Filled (request : URLRequest) : Screen → Prop
  | .login => ∃ userName password, userName ≠ "" ∧ password ≠ "" ∧
      request = postRequest "https://api.smartmeal.kz/v1/auth/login/"
        ⟨some (.object [("username", .string userName), ("password", .string password)])⟩
  | .registration _ => ∃ fullname email password, fullname ≠ "" ∧ email ≠ "" ∧ password ≠ "" ∧
      request = postRequest "https://api.smartmeal.kz/v1/auth/register/"
        ⟨some (.object [("username", .string fullname), ("email", .string email),
          ("password", .string password)])⟩

inductive Submits (screens : AuthScreens) : AuthScreens → Prop where
  | refused (screen : Screen) (message : String) : Submits screens (screens.showAlert screen message)
  | started (screen : Screen) (call : Call) (request : URLRequest)
      (known : ∀ id, screen = .registration id → id ∈ screens.registrations)
      (signals : call.signals = [.isLoading true]) (sent : call.sent = [request])
      (filled : Filled request screen) : Submits screens (screens.start screen call)

private theorem ne_empty_of_filled {text : Option String} {string : String}
    (kept : filled text = some string) : string ≠ "" := by
  have nonempty := (Option.filter_eq_some_iff.mp kept).2
  intro empty
  subst empty
  cases nonempty

theorem step_signIn {fullName passwordText : Option String}
    (taken : step screens (.signIn fullName passwordText) = some next) : Submits screens next := by
  simp only [step] at taken
  split at taken
  · split at taken
    · rename_i userName password first second
      rw [← Option.some.inj taken]
      refine Submits.started .login _ _ ?_ rfl rfl
        ⟨userName, password, ne_empty_of_filled first, ne_empty_of_filled second, rfl⟩
      intro id impossible
      cases impossible
    · rw [← Option.some.inj taken]
      exact Submits.refused .login _
  · cases taken

theorem step_signInButtonTapped {emailText passwordText nameText : Option String}
    (taken : step screens (.signInButtonTapped emailText passwordText nameText) = some next) :
    Submits screens next := by
  simp only [step] at taken
  split at taken
  · cases taken
  · rename_i top rest stack
    split at taken
    · split at taken
      · rename_i email password fullName first second third
        rw [← Option.some.inj taken]
        refine Submits.started (.registration top) _ _ ?_ rfl rfl
          ⟨fullName, email, password, ne_empty_of_filled third, ne_empty_of_filled first,
            ne_empty_of_filled second, rfl⟩
        intro id same
        cases same
        rw [stack]
        exact List.mem_cons_self
      · rw [← Option.some.inj taken]
        exact Submits.refused (.registration top) _
    · cases taken

theorem step_textButtonTapped (taken : step screens .textButtonTapped = some next) :
    next = screens.textButtonTapped := by
  simp only [step] at taken
  split at taken
  · exact (Option.some.inj taken).symm
  · cases taken

theorem step_release {id : Nat} (taken : step screens (.release id) = some next) :
    next = { screens with controllers := screens.controllers.erase id } := by
  simp only [step] at taken
  split at taken
  · cases taken
  · exact (Option.some.inj taken).symm

theorem step_answer {index : Nat} {answer : Answer}
    (taken : step screens (.answer index answer) = some next) :
    ∃ flight, screens.inFlight[index]? = some flight ∧
      next = { screens with
        inFlight := screens.inFlight.eraseIdx index
        mainQueue := screens.mainQueue ++ [.answered flight answer] } := by
  obtain ⟨flight, found, same⟩ := Option.map_eq_some_iff.mp taken
  exact ⟨flight, found, same.symm⟩

theorem step_runBlock (taken : step screens .runBlock = some next) :
    ∃ block rest, screens.mainQueue = block :: rest ∧
      { screens with mainQueue := rest }.runs block = some next := by
  simp only [step] at taken
  split at taken
  · cases taken
  · rename_i block rest queued
    exact ⟨block, rest, queued, taken⟩

/-! ### Every step is sound -/

private theorem Sound.of_same_calls (sound : Sound screens) (grows : Extends screens next)
    (calls : next.forms = screens.forms ∧ next.sent = screens.sent ∧
      next.inFlight = screens.inFlight ∧ next.mainQueue = screens.mainQueue ∧
        next.endings = screens.endings)
    (pushed : ∀ id ∈ next.registrations, id < next.created) : Sound next := by
  obtain ⟨forms, sent, inFlight, mainQueue, endings⟩ := calls
  constructor
  · constructor
    · rw [forms, sent]
      exact sound.accounted.sent
    · rw [forms, inFlight, mainQueue, endings]
      exact sound.accounted.taps
  · exact pushed
  · intro id member
    rw [forms] at member
    exact Nat.lt_of_lt_of_le (sound.known id member) grows.created
  · intro flight member
    rw [inFlight] at member
    exact (sound.flights flight member).kept grows
  · intro flight answer member
    rw [mainQueue] at member
    exact (sound.queued flight answer member).kept grows
  · intro ending member
    rw [endings] at member
    exact (sound.explained ending member).kept grows

private theorem accounted_start {screen : Screen} {call : Call} {request : URLRequest}
    (accounted : Accounted screens) (signals : call.signals = [.isLoading true])
    (sent : call.sent = [request]) : Accounted (screens.start screen call) := by
  rw [start_eq signals sent]
  constructor
  · simp only [List.map_append, List.length_append, accounted.sent]
    exact List.range_succ.symm
  · have one_more : (↑(List.range (screens.forms.length + 1)) : Multiset Nat) =
        ↑(List.range screens.forms.length) + {screens.forms.length} := by
      rw [List.range_succ]
      rfl
    simp only [List.length_append, held_append]
    change (↑(List.range (screens.forms.length + 1)) : Multiset Nat) = _
    rw [one_more, accounted.taps]
    simp only [held_cons, held_nil, Block.tap, single_some, single_none]
    abel

private theorem sound_start {screen : Screen} {call : Call} {request : URLRequest}
    (sound : Sound screens)
    (shown : ∀ id, screen = .registration id → id ∈ screens.registrations)
    (signals : call.signals = [.isLoading true]) (sent : call.sent = [request]) :
    Sound (screens.start screen call) := by
  have accounted : Accounted (screens.start screen call) :=
    accounted_start sound.accounted signals sent
  have grows : Extends screens (screens.start screen call) := by
    rw [start_eq signals sent]
    exact ⟨List.prefix_append _ _, Nat.le_refl _, fun _ _ member => member⟩
  refine ⟨accounted, ?_, ?_, ?_, ?_, ?_⟩
  · rw [start_eq signals sent]
    exact sound.pushed
  · rw [start_eq signals sent]
    intro id member
    rcases List.mem_append.mp member with old | new
    · exact sound.known id old
    · exact sound.pushed id (shown id (List.mem_singleton.mp new).symm)
  · intro flight member
    rw [start_eq signals sent] at member
    rcases List.mem_append.mp member with old | new
    · exact (sound.flights flight old).kept grows
    · rw [List.mem_singleton.mp new, start_eq signals sent]
      exact ⟨List.getElem?_concat_length, signals⟩
  · intro flight answer member
    rw [start_eq signals sent] at member
    rcases List.mem_append.mp member with old | new
    · exact (sound.queued flight answer old).kept grows
    · cases List.mem_singleton.mp new
  · intro ending member
    rw [start_eq signals sent] at member
    exact (sound.explained ending member).kept grows

private theorem sound_submits (sound : Sound screens) (submits : Submits screens next) :
    Sound next := by
  cases submits with
  | refused screen message =>
      exact sound.of_same_calls (.of_same rfl rfl rfl) ⟨rfl, rfl, rfl, rfl, rfl⟩ sound.pushed
  | started screen call request known signals sent _ => exact sound_start sound known signals sent

private theorem sound_textButtonTapped (sound : Sound screens) :
    Sound screens.textButtonTapped := by
  unfold AuthScreens.textButtonTapped
  split
  · refine sound.of_same_calls ⟨List.prefix_refl _, Nat.le_succ _, ?_⟩ ⟨rfl, rfl, rfl, rfl, rfl⟩ ?_
    · intro id older member
      rcases List.mem_cons.mp member with same | old
      · omega
      · exact old
    · intro id member
      rw [List.mem_singleton.mp member]
      exact Nat.lt_succ_self _
  · rename_i top rest stack
    refine sound.of_same_calls (.of_same rfl rfl rfl) ⟨rfl, rfl, rfl, rfl, rfl⟩ ?_
    intro id member
    apply sound.pushed
    rw [stack]
    exact List.mem_cons_of_mem top member

private theorem sound_release (sound : Sound screens) (id : Nat) :
    Sound { screens with controllers := screens.controllers.erase id } := by
  have grows : Extends screens { screens with controllers := screens.controllers.erase id } :=
    ⟨List.prefix_refl _, Nat.le_refl _, fun _ _ member => List.mem_of_mem_erase member⟩
  exact sound.of_same_calls grows ⟨rfl, rfl, rfl, rfl, rfl⟩ sound.pushed

private theorem sound_answer {index : Nat} {flight : PendingCall} (answer : Answer)
    (sound : Sound screens)
    (found : screens.inFlight[index]? = some flight) :
    Sound { screens with
      inFlight := screens.inFlight.eraseIdx index
      mainQueue := screens.mainQueue ++ [.answered flight answer] } := by
  constructor
  · refine ⟨sound.accounted.sent, ?_⟩
    change (↑(List.range screens.forms.length) : Multiset Nat) = _
    rw [sound.accounted.taps, held_eraseIdx found]
    simp only [held_append, held_cons, held_nil, Block.tap]
    abel
  · exact sound.pushed
  · exact sound.known
  · intro other member
    exact (sound.flights other (List.mem_of_mem_eraseIdx member)).kept (.of_same rfl rfl rfl)
  · intro other delivered member
    rcases List.mem_append.mp member with old | new
    · exact (sound.queued other delivered old).kept (.of_same rfl rfl rfl)
    · cases List.mem_singleton.mp new
      exact (sound.flights flight (List.mem_of_getElem? found)).kept (.of_same rfl rfl rfl)
  · exact fun ending member => (sound.explained ending member).kept (.of_same rfl rfl rfl)

private theorem sound_displayed {block : Block} {rest added : List Block}
    {isHidden isAnimating : Screen → Bool}
    (sound : Sound screens) (queued : screens.mainQueue = block :: rest) (tapless : block.tap = none)
    (silent : ∀ other ∈ added, other.tap = none) :
    Sound { screens with
      mainQueue := rest ++ added, isHidden := isHidden, isAnimating := isAnimating } := by
  have taps := sound.accounted.taps
  rw [queued, held_cons, tapless, single_none, zero_add] at taps
  constructor
  · refine ⟨sound.accounted.sent, ?_⟩
    simp only [held_append]
    rw [held_eq_zero silent, add_zero]
    exact taps
  · exact sound.pushed
  · exact sound.known
  · exact fun flight member => (sound.flights flight member).kept (.of_same rfl rfl rfl)
  · intro flight answer member
    rcases List.mem_append.mp member with old | new
    · refine (sound.queued flight answer ?_).kept (.of_same rfl rfl rfl)
      rw [queued]
      exact List.mem_cons_of_mem block old
    · cases silent _ new
  · exact fun ending member => (sound.explained ending member).kept (.of_same rfl rfl rfl)

theorem Sound.started_head {flight : PendingCall} {answer : Answer} {rest : List Block}
    (sound : Sound screens) (queued : screens.mainQueue = .answered flight answer :: rest) :
    Started { screens with mainQueue := rest } flight := by
  have started : Started screens flight := by
    apply sound.queued flight answer
    rw [queued]
    exact List.mem_cons_self
  exact started.kept (.of_same rfl rfl rfl)

private theorem sound_answered {flight : PendingCall} {answer : Answer} {rest : List Block}
    (sound : Sound screens) (queued : screens.mainQueue = .answered flight answer :: rest)
    (taken : { screens with mainQueue := rest }.runs (.answered flight answer) = some next) :
    Sound next := by
  obtain ⟨defaults, shown, alerts, ending, ran, same, why⟩ :=
    runs_answered answer (sound.started_head queued) sound.known
  rw [ran] at taken
  cases taken
  have taps := sound.accounted.taps
  rw [queued, held_cons] at taps
  constructor
  · refine ⟨sound.accounted.sent, ?_⟩
    change (↑(List.range screens.forms.length) : Multiset Nat) = _
    rw [taps]
    simp only [held_append, held_cons, held_nil, Block.tap, same, single_none]
    abel
  · exact sound.pushed
  · exact sound.known
  · exact fun other member => (sound.flights other member).kept (.of_same rfl rfl rfl)
  · intro other delivered member
    rcases List.mem_append.mp member with old | new
    · refine (sound.queued other delivered ?_).kept (.of_same rfl rfl rfl)
      rw [queued]
      exact List.mem_cons_of_mem _ old
    · cases List.mem_singleton.mp new
  · intro other member
    rcases List.mem_append.mp member with old | new
    · exact (sound.explained other old).kept (.of_same rfl rfl rfl)
    · rw [List.mem_singleton.mp new]
      exact why.kept (.of_same rfl rfl rfl)

private theorem sound_runBlock {block : Block} {rest : List Block} (sound : Sound screens)
    (queued : screens.mainQueue = block :: rest)
    (taken : { screens with mainQueue := rest }.runs block = some next) : Sound next := by
  cases block with
  | answered flight answer => exact sound_answered sound queued taken
  | isLoading screen loading =>
      simp only [AuthScreens.runs] at taken
      split at taken
      · rw [← Option.some.inj taken]
        apply sound_displayed sound queued rfl
        intro other member
        rw [List.mem_singleton.mp member]
        rfl
      · rw [← Option.some.inj taken]
        have nothing : ∀ other ∈ ([] : List Block), other.tap = none := by
          intro other impossible
          cases impossible
        have dropped := @sound_displayed screens _ rest [] screens.isHidden screens.isAnimating
          sound queued rfl nothing
        rw [List.append_nil] at dropped
        exact dropped
  | showLoading screen loading =>
      cases taken
      have nothing : ∀ other ∈ ([] : List Block), other.tap = none := by
        intro other impossible
        cases impossible
      have shown := @sound_displayed screens _ rest [] screens.isHidden
        (Function.update screens.isAnimating screen loading) sound queued rfl nothing
      rw [List.append_nil] at shown
      exact shown

theorem sound_step {action : Action} (sound : Sound screens)
    (taken : step screens action = some next) : Sound next := by
  cases action with
  | signIn fullName passwordText => exact sound_submits sound (step_signIn taken)
  | signInButtonTapped emailText passwordText nameText =>
      exact sound_submits sound (step_signInButtonTapped taken)
  | textButtonTapped =>
      rw [step_textButtonTapped taken]
      exact sound_textButtonTapped sound
  | release id =>
      rw [step_release taken]
      exact sound_release sound id
  | answer index answer =>
      obtain ⟨flight, found, rfl⟩ := step_answer taken
      exact sound_answer answer sound found
  | runBlock =>
      obtain ⟨block, rest, queued, ran⟩ := step_runBlock taken
      exact sound_runBlock sound queued ran
  | store defaults =>
      cases taken
      exact sound.of_same_calls (.of_same rfl rfl rfl) ⟨rfl, rfl, rfl, rfl, rfl⟩ sound.pushed
  | replace =>
      cases taken
      exact sound.of_same_calls (.of_same rfl rfl rfl) ⟨rfl, rfl, rfl, rfl, rfl⟩ sound.pushed

theorem sound_launch (defaults : UserDefaults) : Sound (.launch defaults) where
  accounted := ⟨rfl, rfl⟩
  pushed := by intro id impossible; cases impossible
  known := by intro id impossible; cases impossible
  flights := by intro flight impossible; cases impossible
  queued := by intro flight answer impossible; cases impossible
  explained := by intro ending impossible; cases impossible

private theorem sound_run {defaults : UserDefaults} {actions : List Action} {reached : AuthScreens}
    (arrived : run step (.launch defaults) actions = some reached) : Sound reached := by
  have kept : ∀ (screens : AuthScreens) (action : Action) (next : AuthScreens),
      Sound screens → step screens action = some next → Sound next :=
    fun _ _ _ sound taken => sound_step sound taken
  exact run_invariant Sound kept (sound_launch defaults) arrived

theorem Accounted.perm (accounted : Accounted screens) :
    (List.range screens.forms.length).Perm
      (screens.inFlight.map PendingCall.tap ++ screens.mainQueue.filterMap Block.tap ++
        screens.endings.map Ending.tap) := by
  have taps := accounted.taps
  unfold held at taps
  rw [Multiset.coe_add, Multiset.coe_add] at taps
  have perm := Multiset.coe_eq_coe.mp taps
  have flights : screens.inFlight.filterMap (fun flight => some flight.tap) =
      screens.inFlight.map PendingCall.tap := congrFun List.filterMap_eq_map' _
  have endings : screens.endings.filterMap (fun ending => some ending.tap) =
      screens.endings.map Ending.tap := congrFun List.filterMap_eq_map' _
  rw [flights, endings] at perm
  exact perm

/-! ### Whole runs -/

/-- In every run, each filled form has sent one request, whose call is in flight, has its
answer queued, or has ended; and every ending is explained: a flow is started with the
tokens of the very answer, an alert is shown for one without both, and only the callback of
a registration screen that has been released is lost. -/
theorem calls_end_once (defaults : UserDefaults) (actions : List Action) (reached : AuthScreens)
    (arrived : run step (.launch defaults) actions = some reached) :
    reached.sent.map Prod.fst = List.range reached.forms.length ∧
      (List.range reached.forms.length).Perm
        (reached.inFlight.map PendingCall.tap ++ reached.mainQueue.filterMap Block.tap ++
          reached.endings.map Ending.tap) ∧
      ∀ ending ∈ reached.endings, Explained reached ending := by
  have sound := sound_run arrived
  exact ⟨sound.accounted.sent, sound.accounted.perm, sound.explained⟩

def loggedIn : Answer :=
  ⟨{ data := some ⟨some (.object [("access", .string "first"), ("refresh", .string "second")])⟩
     response := some (.http 200)
     error := none }, fun _ => ⟨rfl, rfl⟩⟩

def leftRegistration : List Action :=
  [.textButtonTapped, .signInButtonTapped (some "ann@mail.kz") (some "pw") (some "ann"),
    .textButtonTapped, .runBlock, .runBlock, .release 0, .signIn (some "ann") (some "pw"),
    .answer 0 ⟨networkError, fun impossible => by cases impossible⟩, .answer 0 loggedIn,
    .runBlock, .runBlock, .runBlock]

theorem calls_end_once_leftRegistration :
    ∃ reached, run step (.launch ⟨none, none, none⟩) leftRegistration = some reached ∧
      reached.sent.map Prod.fst = List.range reached.forms.length ∧
      (List.range reached.forms.length).Perm
        (reached.inFlight.map PendingCall.tap ++ reached.mainQueue.filterMap Block.tap ++
          reached.endings.map Ending.tap) ∧
      ∀ ending ∈ reached.endings, Explained reached ending := by
  obtain ⟨reached, arrived⟩ :
      ∃ reached, run step (.launch ⟨none, none, none⟩) leftRegistration = some reached := ⟨_, rfl⟩
  exact ⟨reached, arrived, calls_end_once _ leftRegistration reached arrived⟩

/-! ### What is sent -/

def AllFilled (screens : AuthScreens) : Prop :=
  ∀ entry ∈ screens.sent, ∃ screen, screens.forms[entry.1]? = some screen ∧ Filled entry.2 screen

private theorem step_submits_or_same {action : Action} (sound : Sound screens)
    (taken : step screens action = some next) :
    Submits screens next ∨ (next.forms = screens.forms ∧ next.sent = screens.sent) := by
  cases action with
  | signIn fullName passwordText => exact Or.inl (step_signIn taken)
  | signInButtonTapped emailText passwordText nameText =>
      exact Or.inl (step_signInButtonTapped taken)
  | textButtonTapped =>
      right
      rw [step_textButtonTapped taken]
      unfold AuthScreens.textButtonTapped
      split
      · exact ⟨rfl, rfl⟩
      · exact ⟨rfl, rfl⟩
  | release id =>
      rw [step_release taken]
      exact Or.inr ⟨rfl, rfl⟩
  | answer index answer =>
      obtain ⟨flight, _, rfl⟩ := step_answer taken
      exact Or.inr ⟨rfl, rfl⟩
  | runBlock =>
      right
      obtain ⟨block, rest, queued, ran⟩ := step_runBlock taken
      cases block with
      | answered flight answer =>
          obtain ⟨defaults, shown, alerts, ending, same, _⟩ :=
            runs_answered answer (sound.started_head queued) sound.known
          rw [same] at ran
          cases ran
          exact ⟨rfl, rfl⟩
      | isLoading screen loading =>
          simp only [AuthScreens.runs] at ran
          split at ran
          · rw [← Option.some.inj ran]
            exact ⟨rfl, rfl⟩
          · rw [← Option.some.inj ran]
            exact ⟨rfl, rfl⟩
      | showLoading screen loading =>
          cases ran
          exact ⟨rfl, rfl⟩
  | store defaults =>
      cases taken
      exact Or.inr ⟨rfl, rfl⟩
  | replace =>
      cases taken
      exact Or.inr ⟨rfl, rfl⟩

private theorem allFilled_step {action : Action} (sound : Sound screens) (all : AllFilled screens)
    (taken : step screens action = some next) : AllFilled next := by
  rcases step_submits_or_same sound taken with submits | ⟨forms, sent⟩
  · cases submits with
    | refused screen message => exact all
    | started screen call request _ signals sent filled =>
        rw [start_eq signals sent]
        intro entry member
        rcases List.mem_append.mp member with old | new
        · obtain ⟨owner, form, own⟩ := all entry old
          refine ⟨owner, ?_, own⟩
          rw [List.getElem?_append_left (List.getElem?_eq_some_iff.mp form).1]
          exact form
        · rw [List.mem_singleton.mp new]
          exact ⟨screen, List.getElem?_concat_length, filled⟩
  · unfold AllFilled
    rw [forms, sent]
    exact all

/-- In every run, each request that was sent is a login or a registration, as the screen of
its form makes it, with none of its fields empty. -/
theorem sent_filled (defaults : UserDefaults) (actions : List Action) (reached : AuthScreens)
    (arrived : run step (.launch defaults) actions = some reached) : AllFilled reached := by
  have kept : ∀ (screens : AuthScreens) (action : Action) (next : AuthScreens),
      Sound screens ∧ AllFilled screens → step screens action = some next →
        Sound next ∧ AllFilled next := by
    rintro screens action next ⟨sound, all⟩ taken
    exact ⟨sound_step sound taken, allFilled_step sound all taken⟩
  have launched : AllFilled (.launch defaults) := by
    intro entry impossible
    cases impossible
  exact (run_invariant _ kept ⟨sound_launch defaults, launched⟩ arrived).2

theorem sent_filled_leftRegistration :
    ∃ reached, run step (.launch ⟨none, none, none⟩) leftRegistration = some reached ∧
      AllFilled reached := by
  obtain ⟨reached, arrived⟩ :
      ∃ reached, run step (.launch ⟨none, none, none⟩) leftRegistration = some reached := ⟨_, rfl⟩
  exact ⟨reached, arrived, sent_filled _ leftRegistration reached arrived⟩

end SmartMeal.SignInScreens
