/-
Whether the root screen matches the stored token.

`MainCoordinator.start` chooses the screen from the stored keys, and a failed validation
of its own shows the login screen later, whatever the reason of the failure.  Nothing
shows the login screen when a validation of the profile removes the tokens.  The screen
stays right, or is about to be put right by a block that is queued, exactly as long as
no grant, removal or failed validation takes effect under the other screen.

The request that `fetchUserData` sends after its validation touches neither the tokens
nor the screens and is left out.
-/

import SmartMeal.Conversation

namespace SmartMeal.RootScreen

open PartialStep RefreshTermination

inductive Screen where
  | onboarding
  | tabBar
  | login

inductive Caller where
  | mainCoordinator
  | profileViewModel

inductive Block where
  | removeTokens
  | validated (isValid : Bool)

structure Navigation where
  hasSeenOnboarding : Bool
  defaults : UserDefaults
  rootViewController : Option Screen
  childCoordinators : List Screen
  inFlight : List (DataTask Caller Empty)
  mainQueue : List Block

namespace Navigation

inductive Action where
  | start
  | finishOnboarding
  | logIn (access refresh : String)
  | signOut
  | fetchUserData
  | answered (index : Nat) (result : TaskResult)
  | runBlock

def launch (hasSeenOnboarding : Bool) (defaults : UserDefaults) : Navigation :=
  { hasSeenOnboarding := hasSeenOnboarding, defaults := defaults, rootViewController := none,
    childCoordinators := [], inFlight := [], mainQueue := [] }

/-- The closure of `start` queues its result; that of `fetchUserData` queues nothing. -/
def block : Effect Caller Empty → Option Block
  | .mainAsyncRemoveTokens => some .removeTokens
  | .validated .mainCoordinator isValid => some (.validated isValid)
  | _ => none

def perform (navigation : Navigation) (outcome : Outcome Caller Empty) : Navigation :=
  { navigation with
    defaults := outcome.1
    inFlight := navigation.inFlight ++ resumed outcome.2
    mainQueue := navigation.mainQueue ++ outcome.2.filterMap block }

def present (screen : Screen) (navigation : Navigation) : Navigation :=
  { navigation with
    rootViewController := some screen
    childCoordinators := navigation.childCoordinators ++ [screen] }

def showAuth (navigation : Navigation) : Navigation := navigation.present .login

def showOnboardingScreen (navigation : Navigation) : Navigation := navigation.present .onboarding

def navigateToTabBar (navigation : Navigation) : Navigation := navigation.present .tabBar

def start (navigation : Navigation) : Navigation :=
  if navigation.hasSeenOnboarding = false then navigation.showOnboardingScreen
  else if navigation.defaults.authToken = none then navigation.showAuth
  else navigation.navigateToTabBar.perform (validateToken .mainCoordinator navigation.defaults)

def fetchUserData (navigation : Navigation) : Navigation :=
  match navigation.defaults.authToken with
  | none => navigation
  | some _ => navigation.perform (validateToken .profileViewModel navigation.defaults)

def runBlock (navigation : Navigation) : Block → Navigation
  | .removeTokens => { navigation with defaults := SmartMeal.removeTokens navigation.defaults }
  | .validated true => navigation
  | .validated false => navigation.showAuth

def step : Transition Navigation Action
  | navigation, .start => some navigation.start
  | navigation, .finishOnboarding => some { navigation with hasSeenOnboarding := true }.start
  | navigation, .logIn access refresh =>
      some { navigation with defaults := saveToken access refresh navigation.defaults }.start
  | navigation, .signOut =>
      some { navigation with defaults := SmartMeal.removeTokens navigation.defaults }.start
  | navigation, .fetchUserData => some navigation.fetchUserData
  | navigation, .answered index result =>
      navigation.inFlight[index]?.map fun task =>
        perform { navigation with inFlight := navigation.inFlight.eraseIdx index }
          (task.answered result navigation.defaults)
  | navigation, .runBlock =>
      match navigation.mainQueue with
      | [] => none
      | block :: rest => some ({ navigation with mainQueue := rest }.runBlock block)

end Navigation

open Navigation

structure RootMatches (navigation : Navigation) : Prop where
  onboarding : navigation.rootViewController = some .onboarding ↔
    navigation.hasSeenOnboarding = false
  tabBar : navigation.hasSeenOnboarding = true →
    (navigation.rootViewController = some .tabBar ↔ navigation.defaults.authToken ≠ none)
  login : navigation.hasSeenOnboarding = true →
    (navigation.rootViewController = some .login ↔ navigation.defaults.authToken = none)

/-- With nothing pending and some screen shown, the screen is the right one. -/
def Matches (navigation : Navigation) : Prop :=
  navigation.inFlight = [] → navigation.mainQueue = [] →
    navigation.rootViewController ≠ none → RootMatches navigation

def Grants (task : DataTask Caller Empty) (result : TaskResult) (token : String) : Prop :=
  (∃ completion, task.handler = .refreshAccessToken completion) ∧
    grantedAccessToken result = some token

/-- A grant lands under the login screen only if a token is stored or a removal is queued.
A removal takes a stored token under the tab bar only if the block of a failed validation
is queued behind it, and such a block leaves the tab bar only if no token is stored or a
removal is queued behind it. -/
def KeepsScreen (navigation : Navigation) : Action → Prop
  | .answered index result =>
      ∀ task token, navigation.inFlight[index]? = some task → Grants task result token →
        navigation.rootViewController = some .login →
          navigation.defaults.authToken ≠ none ∨ .removeTokens ∈ navigation.mainQueue
  | .runBlock =>
      navigation.rootViewController = some .tabBar → navigation.defaults.authToken ≠ none →
        (∀ rest, navigation.mainQueue = .removeTokens :: rest → .validated false ∈ rest) ∧
        (∀ rest, navigation.mainQueue = .validated false :: rest → .removeTokens ∈ rest)
  | _ => True

/-! ### What is settled and what is always so -/

/-- A screen that does not match the token is about to be replaced, or the token to be
removed, by a block that is queued. -/
structure Settled (navigation : Navigation) : Prop where
  tabBar : navigation.rootViewController = some .tabBar → navigation.defaults.authToken = none →
    .validated false ∈ navigation.mainQueue
  login : navigation.rootViewController = some .login → navigation.defaults.authToken ≠ none →
    .removeTokens ∈ navigation.mainQueue

def caller (task : DataTask Caller Empty) : Caller :=
  match task.handler with
  | .validateToken caller => caller
  | .refreshAccessToken (.validateToken caller) => caller
  | .refreshAccessToken (.performAuthorizedRequest call _) => call.completion.elim
  | .performAuthorizedRequest call => call.completion.elim

structure Unasked (navigation : Navigation) : Prop where
  inFlight : ∀ task ∈ navigation.inFlight, caller task = .profileViewModel
  mainQueue : ∀ isValid, .validated isValid ∉ navigation.mainQueue

structure Coherent (navigation : Navigation) : Prop where
  onboarding : navigation.rootViewController = some .onboarding →
    navigation.hasSeenOnboarding = false
  later : navigation.rootViewController = some .tabBar ∨
    navigation.rootViewController = some .login → navigation.hasSeenOnboarding = true
  unasked : navigation.hasSeenOnboarding = false ∨ navigation.rootViewController = none →
    Unasked navigation

variable {navigation next : Navigation}

private theorem matches_of_settled (coherent : Coherent navigation) (settled : Settled navigation) :
    Matches navigation := by
  intro _ idle shown
  have tabBar := settled.tabBar
  have login := settled.login
  rw [idle] at tabBar login
  obtain ⟨onboarding, later, _⟩ := coherent
  cases root : navigation.rootViewController with
  | none => exact absurd root shown
  | some screen =>
      rw [root] at tabBar login onboarding later
      cases screen with
      | onboarding =>
          have unseen := onboarding rfl
          constructor
          · simp [root, unseen]
          · simp [unseen]
          · simp [unseen]
      | tabBar =>
          have seen := later (Or.inl rfl)
          have stored : navigation.defaults.authToken ≠ none := by
            intro absent
            cases tabBar rfl absent
          constructor
          · simp [root, seen]
          · simp [root, stored]
          · simp [root, stored]
      | login =>
          have seen := later (Or.inr rfl)
          have absent : navigation.defaults.authToken = none := by
            by_contra stored
            cases login rfl stored
          constructor
          · simp [root, seen]
          · simp [root, absent]
          · simp [root, absent]

/-! ### Starting and answering -/

def validation (asker : Caller) (token : String) : DataTask Caller Empty :=
  ⟨meRequest token, .validateToken asker⟩

private theorem perform_validateToken {asker : Caller} {token : String}
    (stored : navigation.defaults.authToken = some token) :
    navigation.perform (validateToken asker navigation.defaults) =
      { navigation with inFlight := navigation.inFlight ++ [validation asker token] } := by
  unfold validateToken
  rw [stored]
  simp [perform, resumed, Effect.resumedTask, block, validation]

theorem start_cases (navigation : Navigation) :
    (navigation.hasSeenOnboarding = false ∧
      navigation.start = navigation.showOnboardingScreen) ∨
    (navigation.hasSeenOnboarding = true ∧ navigation.defaults.authToken = none ∧
      navigation.start = navigation.showAuth) ∨
    (navigation.hasSeenOnboarding = true ∧ ∃ token, navigation.defaults.authToken = some token ∧
      navigation.start =
        { navigation.navigateToTabBar with
          inFlight := navigation.inFlight ++ [validation .mainCoordinator token] }) := by
  unfold start
  cases seen : navigation.hasSeenOnboarding with
  | false => exact Or.inl ⟨rfl, if_pos rfl⟩
  | true =>
      right
      cases stored : navigation.defaults.authToken with
      | none => exact Or.inl ⟨rfl, rfl, rfl⟩
      | some token =>
          have performed : navigation.navigateToTabBar.perform
              (validateToken .mainCoordinator navigation.defaults) = _ :=
            perform_validateToken stored
          exact Or.inr ⟨rfl, token, rfl, performed⟩

theorem fetchUserData_cases (navigation : Navigation) :
    navigation.fetchUserData = navigation ∨
      ∃ token, navigation.defaults.authToken = some token ∧
        navigation.fetchUserData =
          { navigation with
            inFlight := navigation.inFlight ++ [validation .profileViewModel token] } := by
  unfold fetchUserData
  cases stored : navigation.defaults.authToken with
  | none => exact Or.inl rfl
  | some token => exact Or.inr ⟨token, rfl, perform_validateToken stored⟩

private theorem settled_start (navigation : Navigation) : Settled navigation.start := by
  rcases start_cases navigation with
    ⟨_, started⟩ | ⟨_, absent, started⟩ | ⟨_, token, stored, started⟩
  · rw [started]
    exact ⟨fun shown => (by cases shown), fun shown => (by cases shown)⟩
  · rw [started]
    exact ⟨fun shown => (by cases shown), fun _ stored => absurd absent stored⟩
  · rw [started]
    constructor
    · intro _ absent
      cases stored.symm.trans absent
    · intro shown
      cases shown

private theorem coherent_start
    (unasked : navigation.hasSeenOnboarding = false → Unasked navigation) :
    Coherent navigation.start := by
  rcases start_cases navigation with
    ⟨unseen, started⟩ | ⟨seen, absent, started⟩ | ⟨seen, token, stored, started⟩
  · rw [started]
    obtain ⟨inFlight, mainQueue⟩ := unasked unseen
    exact ⟨fun _ => unseen, fun shown => (by rcases shown with shown | shown <;> cases shown),
      fun _ => ⟨inFlight, mainQueue⟩⟩
  · rw [started]
    have late : ¬(navigation.hasSeenOnboarding = false ∨ some Screen.login = none) := by simp [seen]
    exact ⟨fun shown => (by cases shown), fun _ => seen, fun early => absurd early late⟩
  · rw [started]
    have late : ¬(navigation.hasSeenOnboarding = false ∨ some Screen.tabBar = none) := by simp [seen]
    exact ⟨fun shown => (by cases shown), fun _ => seen, fun early => absurd early late⟩

private theorem caller_of_resumed {task resumes : DataTask Caller Empty} {result : TaskResult}
    {defaults : UserDefaults} (member : resumes ∈ resumed (task.answered result defaults).2) :
    caller resumes = caller task := by
  rcases DataTask.mem_resumed member with
    ⟨_, _, _, _, rfl, ⟨asker, handled, rfl⟩ | ⟨call, _, _⟩⟩ | ⟨completion, token, handled, _, rfl⟩
  · unfold caller
    rw [handled]
  · exact call.completion.elim
  · cases completion with
    | validateToken asker =>
        unfold caller
        rw [handled]
        rfl
    | performAuthorizedRequest call response => exact call.completion.elim

private theorem answered_of_grants {task : DataTask Caller Empty} {result : TaskResult}
    {token : String}
    (defaults : UserDefaults) (grants : Grants task result token) :
    (task.answered result defaults).1 = { defaults with authToken := some token } ∧
      (task.answered result defaults).2.filterMap block = [] := by
  obtain ⟨⟨completion, handled⟩, granted⟩ := grants
  unfold DataTask.answered
  rw [handled]
  simp only [refreshAccessTokenAnswered_eq, granted]
  cases completion with
  | validateToken asker => exact ⟨rfl, rfl⟩
  | performAuthorizedRequest call response => exact call.completion.elim

private theorem answered_of_not_grants {task : DataTask Caller Empty} {result : TaskResult}
    (defaults : UserDefaults) (denied : ∀ token, ¬ Grants task result token) :
    (task.answered result defaults).1 = defaults := by
  rcases task.answered_defaults result defaults with same | ⟨completion, token, handled, granted, _⟩
  · exact same
  · exact absurd ⟨⟨completion, handled⟩, granted⟩ (denied token)

private theorem validated_of_answered {task : DataTask Caller Empty} {result : TaskResult}
    {defaults : UserDefaults} {asker : Caller} {isValid : Bool}
    (member : .validated asker isValid ∈ (task.answered result defaults).2) :
    asker = caller task := by
  rcases task with ⟨request, handler⟩
  cases handler with
  | performAuthorizedRequest call => exact call.completion.elim
  | validateToken other =>
      let retried : Retried Caller Empty := .validateToken other
      change .validated asker isValid ∈ ((retried.attempt "").answered result defaults).2 at member
      by_cases refused : result.statusCode = some 401
      · rw [retried.attempt_answered_of_refused _ _ refused] at member
        cases stored : defaults.refreshToken with
        | none =>
            obtain ⟨same, _⟩ : asker = other ∧ isValid = false := by
              simpa [stored, retried, Retried.failed] using member
            exact same
        | some refreshToken => simp [stored] at member
      · rw [retried.attempt_answered_of_accepted _ _ refused] at member
        obtain ⟨same, _⟩ : asker = other ∧ _ := by simpa [retried, Retried.delivered] using member
        exact same
  | refreshAccessToken completion =>
      cases completion with
      | performAuthorizedRequest call response => exact call.completion.elim
      | validateToken other =>
          let retried : Retried Caller Empty := .validateToken other
          change .validated asker isValid ∈
            ((retried.refresh none "").answered result defaults).2 at member
          cases granted : grantedAccessToken result with
          | none =>
              rw [retried.refresh_answered_of_denied _ _ granted] at member
              obtain ⟨same, _⟩ : asker = other ∧ isValid = false := by
                simpa [retried, Retried.failed] using member
              exact same
          | some token =>
              rw [retried.refresh_answered_of_granted _ _ granted] at member
              simp at member

private theorem effect_of_block {effect : Effect Caller Empty} {isValid : Bool}
    (blocks : block effect = some (.validated isValid)) :
    effect = .validated .mainCoordinator isValid := by
  cases effect with
  | validated asker result =>
      cases asker with
      | mainCoordinator =>
          cases blocks
          rfl
      | profileViewModel => cases blocks
  | resume task => cases blocks
  | mainAsyncRemoveTokens => cases blocks
  | answered completion result => exact completion.elim

/-! ### One step -/

variable {action : Action}

theorem step_answered {index : Nat} {result : TaskResult}
    (taken : step navigation (.answered index result) = some next) :
    ∃ task, navigation.inFlight[index]? = some task ∧
      next = perform { navigation with inFlight := navigation.inFlight.eraseIdx index }
        (task.answered result navigation.defaults) := by
  obtain ⟨task, found, same⟩ := Option.map_eq_some_iff.mp taken
  exact ⟨task, found, same.symm⟩

theorem step_runBlock (taken : step navigation .runBlock = some next) :
    ∃ block rest, navigation.mainQueue = block :: rest ∧
      next = { navigation with mainQueue := rest }.runBlock block := by
  cases queued : navigation.mainQueue with
  | nil => simp only [step, queued] at taken; cases taken
  | cons block rest =>
      simp only [step, queued] at taken
      exact ⟨block, rest, rfl, (Option.some.inj taken).symm⟩

private theorem unasked_answered {task : DataTask Caller Empty} {index : Nat} (result : TaskResult)
    (unasked : Unasked navigation) (found : navigation.inFlight[index]? = some task) :
    Unasked (perform { navigation with inFlight := navigation.inFlight.eraseIdx index }
      (task.answered result navigation.defaults)) := by
  obtain ⟨inFlight, mainQueue⟩ := unasked
  have profile : caller task = .profileViewModel := inFlight task (List.mem_of_getElem? found)
  constructor
  case inFlight =>
    intro other member
    rcases List.mem_append.mp member with waiting | resumes
    · exact inFlight other (List.mem_of_mem_eraseIdx waiting)
    · rw [caller_of_resumed resumes, profile]
  case mainQueue =>
    intro isValid member
    rcases List.mem_append.mp member with earlier | added
    · exact mainQueue isValid earlier
    · obtain ⟨effect, called, blocks⟩ := List.mem_filterMap.mp added
      rw [effect_of_block blocks] at called
      have asked := validated_of_answered called
      rw [profile] at asked
      cases asked

private theorem unasked_fetchUserData (unasked : Unasked navigation) :
    Unasked navigation.fetchUserData := by
  rcases fetchUserData_cases navigation with same | ⟨token, _, fetched⟩
  · rw [same]
    exact unasked
  · rw [fetched]
    refine ⟨fun task member => ?_, unasked.mainQueue⟩
    rcases List.mem_append.mp member with waiting | started
    · exact unasked.inFlight task waiting
    · obtain rfl := List.mem_singleton.mp started
      rfl

private theorem coherent_step (coherent : Coherent navigation)
    (taken : step navigation action = some next) :
    Coherent next := by
  have unasked : navigation.hasSeenOnboarding = false → Unasked navigation :=
    fun unseen => coherent.unasked (Or.inl unseen)
  cases action with
  | start => cases taken; exact coherent_start unasked
  | finishOnboarding => cases taken; exact coherent_start fun unseen => by cases unseen
  | logIn access refresh =>
      cases taken
      exact coherent_start fun unseen => ⟨(unasked unseen).inFlight, (unasked unseen).mainQueue⟩
  | signOut =>
      cases taken
      exact coherent_start fun unseen => ⟨(unasked unseen).inFlight, (unasked unseen).mainQueue⟩
  | fetchUserData =>
      cases taken
      have fetches := fun early => unasked_fetchUserData (coherent.unasked early)
      rcases fetchUserData_cases navigation with same | ⟨token, _, fetched⟩
      · rw [same]
        exact coherent
      · rw [fetched] at fetches ⊢
        exact ⟨coherent.onboarding, coherent.later, fetches⟩
  | answered index result =>
      obtain ⟨task, found, rfl⟩ := step_answered taken
      exact ⟨coherent.onboarding, coherent.later,
        fun early => unasked_answered result (coherent.unasked early) found⟩
  | runBlock =>
      obtain ⟨block, rest, queued, rfl⟩ := step_runBlock taken
      have shorter : Unasked navigation → ∀ isValid, .validated isValid ∉ rest := by
        intro unasked isValid member
        apply unasked.mainQueue isValid
        rw [queued]
        exact List.mem_cons_of_mem block member
      cases block with
      | removeTokens =>
          exact ⟨coherent.onboarding, coherent.later, fun early =>
            ⟨(coherent.unasked early).inFlight, shorter (coherent.unasked early)⟩⟩
      | validated isValid =>
          have asked : ¬(navigation.hasSeenOnboarding = false ∨
              navigation.rootViewController = none) := by
            intro early
            apply (coherent.unasked early).mainQueue isValid
            rw [queued]
            exact List.mem_cons_self
          cases isValid with
          | true => exact ⟨coherent.onboarding, coherent.later, fun early => absurd early asked⟩
          | false =>
              have seen : navigation.hasSeenOnboarding = true := by
                simpa using fun unseen => asked (Or.inl unseen)
              constructor
              · intro shown
                cases shown
              · intro _
                exact seen
              · rintro (unseen | hidden)
                · exact absurd (Or.inl unseen) asked
                · cases hidden

private theorem settled_answered_iff {task : DataTask Caller Empty} {index : Nat}
    (result : TaskResult)
    (settled : Settled navigation) (found : navigation.inFlight[index]? = some task) :
    Settled (perform { navigation with inFlight := navigation.inFlight.eraseIdx index }
        (task.answered result navigation.defaults)) ↔
      KeepsScreen navigation (.answered index result) := by
  by_cases granted : ∃ token, Grants task result token
  · obtain ⟨token, grants⟩ := granted
    obtain ⟨stores, silent⟩ := answered_of_grants navigation.defaults grants
    unfold perform
    rw [stores, silent, List.append_nil]
    constructor
    · intro after other token' _ _ root
      exact Or.inr (after.login root (Option.some_ne_none token))
    · intro keeps
      refine ⟨fun _ lost => (by cases lost), fun root _ => ?_⟩
      rcases keeps task token found grants root with stored | queued
      · exact settled.login root stored
      · exact queued
  · have denied : ∀ token, ¬ Grants task result token := not_exists.mp granted
    unfold perform
    rw [answered_of_not_grants navigation.defaults denied]
    apply iff_of_true
    · exact ⟨fun root absent => List.mem_append_left _ (settled.tabBar root absent),
        fun root stored => List.mem_append_left _ (settled.login root stored)⟩
    · intro other token foundOther grants
      cases Option.some.inj (found.symm.trans foundOther)
      exact absurd grants (denied token)

private theorem settled_removeTokens_iff {rest : List Block} (settled : Settled navigation)
    (queued : navigation.mainQueue = .removeTokens :: rest) :
    Settled ({ navigation with mainQueue := rest }.runBlock .removeTokens) ↔
      KeepsScreen navigation .runBlock := by
  constructor
  · intro after root _
    refine ⟨fun other same => ?_, fun other same => ?_⟩
    · cases queued.symm.trans same
      exact after.tabBar root rfl
    · cases queued.symm.trans same
  · intro keeps
    refine ⟨fun root _ => ?_, fun _ stored => absurd rfl stored⟩
    by_cases absent : navigation.defaults.authToken = none
    · have behind := settled.tabBar root absent
      rw [queued] at behind
      exact List.mem_of_ne_of_mem (fun same => by cases same) behind
    · exact (keeps root absent).1 rest queued

private theorem settled_validated_iff {rest : List Block} {isValid : Bool}
    (coherent : Coherent navigation)
    (settled : Settled navigation) (queued : navigation.mainQueue = .validated isValid :: rest) :
    Settled ({ navigation with mainQueue := rest }.runBlock (.validated isValid)) ↔
      KeepsScreen navigation .runBlock := by
  cases isValid with
  | true =>
      apply iff_of_true
      · constructor
        · intro root absent
          have behind := settled.tabBar root absent
          rw [queued] at behind
          exact List.mem_of_ne_of_mem (fun same => by cases same) behind
        · intro root stored
          have behind := settled.login root stored
          rw [queued] at behind
          exact List.mem_of_ne_of_mem (fun same => by cases same) behind
      · intro _ _
        exact ⟨fun other same => (by cases queued.symm.trans same),
          fun other same => (by cases queued.symm.trans same)⟩
  | false =>
      constructor
      · intro after root stored
        refine ⟨fun other same => ?_, fun other same => ?_⟩
        · cases queued.symm.trans same
        · cases queued.symm.trans same
          exact after.login rfl stored
      · intro keeps
        refine ⟨fun shown => (by cases shown), fun _ stored => ?_⟩
        have asked : ¬ Unasked navigation := by
          intro unasked
          apply unasked.mainQueue false
          rw [queued]
          exact List.mem_cons_self
        cases root : navigation.rootViewController with
        | none => exact absurd (coherent.unasked (Or.inr root)) asked
        | some screen =>
            cases screen with
            | onboarding =>
                exact absurd (coherent.unasked (Or.inl (coherent.onboarding root))) asked
            | tabBar => exact (keeps root stored).2 rest queued
            | login =>
                have behind := settled.login root stored
                rw [queued] at behind
                exact List.mem_of_ne_of_mem (fun same => by cases same) behind

private theorem settled_step (coherent : Coherent navigation) (settled : Settled navigation)
    (taken : step navigation action = some next) :
    Settled next ↔ KeepsScreen navigation action := by
  cases action with
  | start => cases taken; exact iff_of_true (settled_start _) trivial
  | finishOnboarding => cases taken; exact iff_of_true (settled_start _) trivial
  | logIn access refresh => cases taken; exact iff_of_true (settled_start _) trivial
  | signOut => cases taken; exact iff_of_true (settled_start _) trivial
  | fetchUserData =>
      cases taken
      refine iff_of_true ?_ trivial
      rcases fetchUserData_cases navigation with same | ⟨token, _, fetched⟩
      · rw [same]
        exact settled
      · rw [fetched]
        exact ⟨settled.tabBar, settled.login⟩
  | answered index result =>
      obtain ⟨task, found, rfl⟩ := step_answered taken
      exact settled_answered_iff result settled found
  | runBlock =>
      obtain ⟨block, rest, queued, rfl⟩ := step_runBlock taken
      cases block with
      | removeTokens => exact settled_removeTokens_iff settled queued
      | validated isValid => exact settled_validated_iff coherent settled queued

/-! ### Whole runs -/

private theorem coherent_launch (hasSeenOnboarding : Bool) (defaults : UserDefaults) :
    Coherent (launch hasSeenOnboarding defaults) := by
  constructor
  · intro shown
    cases shown
  · rintro (shown | shown) <;> cases shown
  · intro _
    exact ⟨fun task member => (by cases member), fun isValid member => (by cases member)⟩

/-- From any launch, every screen shown is settled exactly when every step keeps it so. -/
private theorem settled_throughout_iff (hasSeenOnboarding : Bool) (defaults : UserDefaults)
    (actions : List Action) :
    Throughout step Settled (launch hasSeenOnboarding defaults) actions ↔
      EachStep step KeepsScreen (launch hasSeenOnboarding defaults) actions := by
  refine throughout_iff_eachStep Coherent ?_ ?_ (eachStep_of_forall (fun _ _ => trivial) _ actions)
    (coherent_launch hasSeenOnboarding defaults) ?_
  · intro navigation action next coherent taken
    exact coherent_step coherent taken
  · intro navigation action next coherent settled _ taken
    exact settled_step coherent settled taken
  · exact ⟨fun shown => (by cases shown), fun shown => (by cases shown)⟩

/-- In every run whose steps keep the screen, the root screen matches the stored token
whenever nothing is pending. -/
theorem rootMatches_throughout (hasSeenOnboarding : Bool) (defaults : UserDefaults)
    (actions : List Action)
    (met : EachStep step KeepsScreen (launch hasSeenOnboarding defaults) actions) :
    Throughout step Matches (launch hasSeenOnboarding defaults) actions := by
  have settled := (throughout_iff_prefixes _ _).mp
    ((settled_throughout_iff hasSeenOnboarding defaults actions).mpr met)
  apply (throughout_iff_prefixes _ _).mpr
  intro done short reached arrived
  have coherent : Coherent reached := by
    refine run_invariant Coherent ?_ (coherent_launch hasSeenOnboarding defaults) arrived
    intro before action after here taken
    exact coherent_step here taken
  exact matches_of_settled coherent (settled done short reached arrived)

/-- A validation that is refused and cannot be refreshed removes the tokens and shows the
login screen. -/
theorem rootMatches_throughout_refused :
    Throughout step Matches (launch true ⟨some "access", none, none⟩)
      [.start, .answered 0 (bareStatus 401), .runBlock, .runBlock] := by
  apply rootMatches_throughout
  refine (eachStep_cons rfl).mpr ⟨trivial, ?_⟩
  refine (eachStep_cons rfl).mpr ⟨fun task token _ _ root => (by cases root), ?_⟩
  refine (eachStep_cons rfl).mpr ⟨fun _ _ => ⟨?_, ?_⟩, ?_⟩
  · intro rest queued
    cases queued
    exact List.mem_singleton_self _
  · intro rest queued
    cases queued
  · refine (eachStep_cons rfl).mpr ⟨fun _ stored => absurd rfl stored, trivial⟩

/-- A validation that fails without an answer shows the login screen over stored tokens. -/
theorem not_rootMatches_network_error :
    ¬ ∀ (hasSeenOnboarding : Bool) (defaults : UserDefaults) (actions : List Action),
      Throughout step Matches (launch hasSeenOnboarding defaults) actions := by
  intro always
  have matched := (throughout_iff_prefixes _ _).mp
    (always true ⟨some "access", some "refresh", none⟩
      [.start, .answered 0 networkError, .runBlock])
    _ (List.prefix_refl _) _ rfl
  have shown := matched rfl rfl (Option.some_ne_none Screen.login)
  have absent := (shown.login rfl).mp rfl
  cases absent

end SmartMeal.RootScreen
