/-
That the loading of the sign-in screens comes to rest.

The overlay and the indicator of a screen follow its `isLoading` calls one and two blocks
behind.  A call that ends stops the loading after every earlier signal of its screen, so a
screen without an open call is at rest once its blocks have run.  Left alone, the calls that
are open and the queued blocks come to an end.
-/

import SmartMeal.SignInScreens
import SmartMeal.Library.Countdown

namespace SmartMeal.SignInSettling

open PartialStep SignIn SignInScreens

/-! ### The loading of a screen -/

def Open (screens : AuthScreens) (screen : Screen) : Prop :=
  (∃ flight ∈ screens.inFlight, flight.screen = screen) ∨
    ∃ flight answer, .answered flight answer ∈ screens.mainQueue ∧ flight.screen = screen

def Block.passes : Block → Option (Screen × Bool)
  | .isLoading screen loading => some (screen, loading)
  | _ => none

def Block.draws : Block → Option (Screen × Bool)
  | .showLoading screen loading => some (screen, loading)
  | _ => none

def signals (kind : Block → Option (Screen × Bool)) (screen : Screen) (mainQueue : List Block) :
    List Bool :=
  mainQueue.filterMap fun block =>
    (kind block).bind fun signal => if signal.1 = screen then some signal.2 else none

/-- The overlay will be hidden and the indicator stopped once the queued blocks have run. -/
structure Resting (screens : AuthScreens) (screen : Screen) : Prop where
  overlay :
    (signals Block.passes screen screens.mainQueue).getLastD (!screens.isHidden screen) = false
  indicator :
    (signals Block.draws screen screens.mainQueue ++
      signals Block.passes screen screens.mainQueue).getLastD (screens.isAnimating screen) = false

/-- A screen that is still to be pushed has no block. -/
structure Rested (screens : AuthScreens) : Prop where
  fresh : ∀ id, screens.created ≤ id →
    signals Block.passes (.registration id) screens.mainQueue = [] ∧
      signals Block.draws (.registration id) screens.mainQueue = []
  resting : ∀ screen, screens.alive screen = true → ¬Open screens screen → Resting screens screen

/-! ### Queued signals -/

variable {kind : Block → Option (Screen × Bool)} {screen other : Screen} {block : Block}

private theorem signals_append (first second : List Block) :
    signals kind screen (first ++ second) =
      signals kind screen first ++ signals kind screen second :=
  List.filterMap_append

private theorem signals_cons_of_none (none : kind block = none) (rest : List Block) :
    signals kind screen (block :: rest) = signals kind screen rest := by
  unfold signals
  rw [List.filterMap_cons, none]
  rfl

private theorem signals_cons_of_ne {loading : Bool} (some : kind block = some (other, loading))
    (different : other ≠ screen) (rest : List Block) :
    signals kind screen (block :: rest) = signals kind screen rest := by
  unfold signals
  rw [List.filterMap_cons, some, Option.bind_some, if_neg different]

private theorem signals_cons_self {loading : Bool} (some : kind block = some (screen, loading))
    (rest : List Block) :
    signals kind screen (block :: rest) = loading :: signals kind screen rest := by
  unfold signals
  rw [List.filterMap_cons, some, Option.bind_some, if_pos rfl]

/-! ### What a step leaves at rest -/

variable {screens next : AuthScreens}

private theorem Resting.of_same (resting : Resting screens screen)
    (overlay : next.isHidden screen = screens.isHidden screen)
    (indicator : next.isAnimating screen = screens.isAnimating screen)
    (passes : signals Block.passes screen next.mainQueue =
      signals Block.passes screen screens.mainQueue)
    (draws : signals Block.draws screen next.mainQueue =
      signals Block.draws screen screens.mainQueue) : Resting next screen := by
  constructor
  · rw [overlay, passes]
    exact resting.overlay
  · rw [indicator, passes, draws]
    exact resting.indicator

private theorem resting_of_stopped {rest : List Block}
    (queued : next.mainQueue = rest ++ [.isLoading screen false]) : Resting next screen := by
  have last : signals Block.passes screen next.mainQueue =
      signals Block.passes screen rest ++ [false] := by
    rw [queued, signals_append, signals_cons_self rfl]
    rfl
  constructor
  · rw [last, List.getLastD_concat]
  · rw [last, ← List.append_assoc, List.getLastD_concat]

private theorem signals_append_of_none (queue : List Block) (none : kind block = none) :
    signals kind screen (queue ++ [block]) = signals kind screen queue := by
  rw [signals_append, signals_cons_of_none none]
  exact List.append_nil _

private theorem signals_append_of_ne (queue : List Block) {loading : Bool}
    (some : kind block = some (other, loading)) (different : other ≠ screen) :
    signals kind screen (queue ++ [block]) = signals kind screen queue := by
  rw [signals_append, signals_cons_of_ne some different]
  exact List.append_nil _

private theorem rested_start {call : Call} {request : URLRequest} (sound : Sound screens)
    (rested : Rested screens)
    (shown : ∀ id, screen = .registration id → id ∈ screens.registrations)
    (called : call.signals = [.isLoading true]) (sent : call.sent = [request]) :
    Rested (screens.start screen call) := by
  rw [start_eq called sent]
  constructor
  · intro id later
    have different : screen ≠ .registration id := by
      intro same
      have older := sound.pushed id (shown id same)
      change screens.created ≤ id at later
      omega
    rw [signals_append_of_ne _ rfl different, signals_append_of_none _ rfl]
    exact rested.fresh id later
  · intro other live closed
    have different : screen ≠ other := by
      intro same
      apply closed
      refine Or.inl ⟨_, List.mem_append_right _ (List.mem_singleton.mpr rfl), same⟩
    have before : ¬Open screens other := by
      rintro (⟨flight, member, own⟩ | ⟨flight, answer, member, own⟩)
      · exact closed (Or.inl ⟨flight, List.mem_append_left _ member, own⟩)
      · exact closed (Or.inr ⟨flight, answer, List.mem_append_left _ member, own⟩)
    refine (rested.resting other live before).of_same rfl rfl ?_ ?_
    · exact signals_append_of_ne _ rfl different
    · exact signals_append_of_none _ rfl

private theorem rested_showAlert (rested : Rested screens) (message : String) :
    Rested (screens.showAlert screen message) := by
  refine ⟨rested.fresh, ?_⟩
  intro other live closed
  obtain ⟨overlay, indicator⟩ := rested.resting other live closed
  exact ⟨overlay, indicator⟩

private theorem rested_textButtonTapped (rested : Rested screens) :
    Rested screens.textButtonTapped := by
  unfold AuthScreens.textButtonTapped
  split
  · constructor
    · intro id later
      exact rested.fresh id (Nat.le_of_succ_le later)
    · intro other live closed
      by_cases pushed : other = .registration screens.created
      · subst pushed
        obtain ⟨passes, draws⟩ := rested.fresh screens.created (Nat.le_refl _)
        constructor
        · rw [passes]
          change (!Function.update screens.isHidden _ true _) = false
          rw [Function.update_self]
          rfl
        · rw [passes, draws]
          exact Function.update_self _ _ _
      · have before : screens.alive other = true := by
          cases other with
          | login => rfl
          | registration id =>
              have held : id ∈ screens.created :: screens.controllers :=
                List.contains_iff_mem.mp live
              rcases List.mem_cons.mp held with same | old
              · exact absurd (congrArg Screen.registration same) pushed
              · exact List.contains_iff_mem.mpr old
        refine (rested.resting other before closed).of_same ?_ ?_ rfl rfl
        · exact Function.update_of_ne pushed _ _
        · exact Function.update_of_ne pushed _ _
  · refine ⟨rested.fresh, ?_⟩
    intro other live closed
    obtain ⟨overlay, indicator⟩ := rested.resting other live closed
    exact ⟨overlay, indicator⟩

private theorem rested_release (rested : Rested screens) (id : Nat) :
    Rested { screens with controllers := screens.controllers.erase id } := by
  refine ⟨rested.fresh, ?_⟩
  intro other live closed
  have before : screens.alive other = true := by
    cases other with
    | login => rfl
    | registration other =>
        exact List.contains_iff_mem.mpr (List.mem_of_mem_erase (List.contains_iff_mem.mp live))
  obtain ⟨overlay, indicator⟩ := rested.resting other before closed
  exact ⟨overlay, indicator⟩

private theorem rested_answer {index : Nat} {flight : PendingCall} (answer : Answer)
    (rested : Rested screens)
    (found : screens.inFlight[index]? = some flight) :
    Rested { screens with
      inFlight := screens.inFlight.eraseIdx index
      mainQueue := screens.mainQueue ++ [.answered flight answer] } := by
  constructor
  · intro id later
    rw [signals_append_of_none _ rfl, signals_append_of_none _ rfl]
    exact rested.fresh id later
  · intro other live closed
    have before : ¬Open screens other := by
      rintro (⟨otherFlight, member, own⟩ | ⟨otherFlight, delivered, member, own⟩)
      · obtain ⟨inside, same⟩ := List.getElem?_eq_some_iff.mp found
        have moved := (List.getElem_cons_eraseIdx_perm inside).mem_iff.mpr member
        rw [same] at moved
        rcases List.mem_cons.mp moved with rfl | left
        · exact closed (Or.inr
            ⟨otherFlight, answer, List.mem_append_right _ (List.mem_singleton.mpr rfl), own⟩)
        · exact closed (Or.inl ⟨otherFlight, left, own⟩)
      · exact closed (Or.inr ⟨otherFlight, delivered, List.mem_append_left _ member, own⟩)
    refine (rested.resting other live before).of_same rfl rfl ?_ ?_
    · exact signals_append_of_none _ rfl
    · exact signals_append_of_none _ rfl

private theorem rested_answered {flight : PendingCall} {answer : Answer} {rest : List Block}
    (sound : Sound screens) (rested : Rested screens)
    (queued : screens.mainQueue = .answered flight answer :: rest)
    (taken : { screens with mainQueue := rest }.runs (.answered flight answer) = some next) :
    Rested next := by
  have known : ∀ id, flight.screen = .registration id → id < screens.created := by
    intro id own
    apply sound.known id
    rw [← own]
    exact List.mem_of_getElem? (sound.started_head queued).form
  obtain ⟨defaults, shown, alerts, ending, ran, _⟩ :=
    runs_answered answer (sound.started_head queued) sound.known
  rw [ran] at taken
  cases taken
  constructor
  · intro id later
    have different : flight.screen ≠ .registration id := by
      intro own
      have older := known id own
      change screens.created ≤ id at later
      omega
    have before := rested.fresh id later
    rw [queued, signals_cons_of_none rfl, signals_cons_of_none rfl] at before
    rw [signals_append_of_ne _ rfl different, signals_append_of_none _ rfl]
    exact before
  · intro other live closed
    by_cases own : flight.screen = other
    · subst own
      exact resting_of_stopped rfl
    · have before : ¬Open screens other := by
        rintro (⟨otherFlight, member, same⟩ | ⟨otherFlight, delivered, member, same⟩)
        · exact closed (Or.inl ⟨otherFlight, member, same⟩)
        · rw [queued] at member
          rcases List.mem_cons.mp member with head | left
          · cases head
            exact own same
          · exact closed (Or.inr ⟨otherFlight, delivered, List.mem_append_left _ left, same⟩)
      refine (rested.resting other live before).of_same rfl rfl ?_ ?_
      · rw [queued, signals_cons_of_none rfl]
        exact signals_append_of_ne _ rfl own
      · rw [queued, signals_cons_of_none rfl]
        exact signals_append_of_none _ rfl

private theorem open_of_dropped {block : Block} {rest : List Block}
    (queued : screens.mainQueue = block :: rest) (tapless : block.tap = none)
    (kept : ∀ other ∈ rest, other ∈ next.mainQueue) (inFlight : next.inFlight = screens.inFlight)
    (before : Open screens screen) : Open next screen := by
  rcases before with ⟨flight, member, own⟩ | ⟨flight, answer, member, own⟩
  · left
    rw [inFlight]
    exact ⟨flight, member, own⟩
  · right
    rw [queued] at member
    rcases List.mem_cons.mp member with head | left
    · rw [← head] at tapless
      cases tapless
    · exact ⟨flight, answer, kept _ left, own⟩

private theorem resting_passed {loading : Bool} {rest : List Block}
    (resting : Resting screens screen)
    (queued : screens.mainQueue = .isLoading screen loading :: rest)
    (passed : next.mainQueue = rest ++ [.showLoading screen loading])
    (overlaid : next.isHidden screen = !loading)
    (animating : next.isAnimating screen = screens.isAnimating screen) : Resting next screen := by
  obtain ⟨overlay, indicator⟩ := resting
  rw [queued, signals_cons_self rfl, List.getLastD_cons] at overlay
  rw [queued, signals_cons_of_none rfl, signals_cons_self rfl] at indicator
  have passes : signals Block.passes screen next.mainQueue = signals Block.passes screen rest := by
    rw [passed]
    exact signals_append_of_none rest rfl
  have draws : signals Block.draws screen next.mainQueue =
      signals Block.draws screen rest ++ [loading] := by
    rw [passed, signals_append, signals_cons_self rfl]
    rfl
  constructor
  · rw [passes, overlaid, Bool.not_not]
    exact overlay
  · rw [passes, draws, animating, List.append_assoc]
    exact indicator

private theorem rested_isLoading {loading : Bool} {rest : List Block} (rested : Rested screens)
    (queued : screens.mainQueue = .isLoading screen loading :: rest)
    (taken : { screens with mainQueue := rest }.runs (.isLoading screen loading) = some next) :
    Rested next := by
  have fresh : ∀ id, screens.created ≤ id → screen ≠ .registration id ∧
      signals Block.passes (.registration id) rest = [] ∧
        signals Block.draws (.registration id) rest = [] := by
    intro id later
    have before := rested.fresh id later
    have different : screen ≠ .registration id := by
      intro same
      rw [queued, signals_cons_self (congrArg some (congrArg (·, loading) same))] at before
      cases before.1
    rw [queued, signals_cons_of_ne rfl different, signals_cons_of_none rfl] at before
    exact ⟨different, before⟩
  simp only [AuthScreens.runs] at taken
  split at taken
  · rw [← Option.some.inj taken]
    constructor
    · intro id later
      obtain ⟨different, passes, draws⟩ := fresh id later
      constructor
      · exact (signals_append_of_none rest rfl).trans passes
      · exact (signals_append_of_ne rest rfl different).trans draws
    · intro other live closed
      have before : ¬Open screens other := by
        intro opened
        apply closed
        exact open_of_dropped queued rfl (fun _ member => List.mem_append_left _ member) rfl opened
      have resting := rested.resting other live before
      by_cases own : other = screen
      · subst own
        exact resting_passed resting queued rfl (Function.update_self other _ _) rfl
      · refine resting.of_same ?_ rfl ?_ ?_
        · exact Function.update_of_ne own _ _
        · rw [queued, signals_cons_of_ne rfl (Ne.symm own)]
          exact signals_append_of_none _ rfl
        · rw [queued, signals_cons_of_none rfl]
          exact signals_append_of_ne _ rfl (Ne.symm own)
  · rename_i dead
    rw [← Option.some.inj taken]
    constructor
    · intro id later
      exact (fresh id later).2
    · intro other live closed
      have different : screen ≠ other := by
        intro same
        subst same
        exact dead live
      have before : ¬Open screens other := by
        intro opened
        exact closed (open_of_dropped queued rfl (fun _ member => member) rfl opened)
      refine (rested.resting other live before).of_same rfl rfl ?_ ?_
      · rw [queued, signals_cons_of_ne rfl different]
      · rw [queued, signals_cons_of_none rfl]

private theorem rested_showLoading {loading : Bool} {rest : List Block} (rested : Rested screens)
    (queued : screens.mainQueue = .showLoading screen loading :: rest) :
    Rested { screens with
      mainQueue := rest
      isAnimating := Function.update screens.isAnimating screen loading } := by
  constructor
  · intro id later
    have before := rested.fresh id later
    have different : screen ≠ .registration id := by
      intro same
      rw [queued, signals_cons_of_none rfl,
        signals_cons_self (congrArg some (congrArg (·, loading) same))] at before
      cases before.2
    rw [queued, signals_cons_of_none rfl, signals_cons_of_ne rfl different] at before
    exact before
  · intro other live closed
    have before : ¬Open screens other := by
      intro opened
      exact closed (open_of_dropped queued rfl (fun _ member => member) rfl opened)
    have resting := rested.resting other live before
    by_cases own : other = screen
    · subst own
      obtain ⟨overlay, indicator⟩ := resting
      rw [queued, signals_cons_of_none rfl] at overlay
      rw [queued, signals_cons_self rfl, signals_cons_of_none rfl, List.cons_append,
        List.getLastD_cons] at indicator
      refine ⟨overlay, ?_⟩
      change (signals Block.draws other rest ++ signals Block.passes other rest).getLastD
        (Function.update screens.isAnimating other loading other) = false
      rw [Function.update_self]
      exact indicator
    · refine resting.of_same rfl ?_ ?_ ?_
      · exact Function.update_of_ne own _ _
      · rw [queued, signals_cons_of_none rfl]
      · rw [queued, signals_cons_of_ne rfl (Ne.symm own)]

private theorem rested_step {action : Action} (sound : Sound screens) (rested : Rested screens)
    (taken : step screens action = some next) : Rested next := by
  have submitted : Submits screens next → Rested next := by
    intro submits
    cases submits with
    | refused screen message => exact rested_showAlert rested message
    | started screen call request known called sent _ =>
        exact rested_start sound rested known called sent
  cases action with
  | signIn fullName passwordText => exact submitted (step_signIn taken)
  | signInButtonTapped emailText passwordText nameText =>
      exact submitted (step_signInButtonTapped taken)
  | textButtonTapped =>
      rw [step_textButtonTapped taken]
      exact rested_textButtonTapped rested
  | release id =>
      rw [step_release taken]
      exact rested_release rested id
  | answer index answer =>
      obtain ⟨flight, found, rfl⟩ := step_answer taken
      exact rested_answer answer rested found
  | runBlock =>
      obtain ⟨block, rest, queued, ran⟩ := step_runBlock taken
      cases block with
      | answered flight answer => exact rested_answered sound rested queued ran
      | isLoading screen loading => exact rested_isLoading rested queued ran
      | showLoading screen loading =>
          cases ran
          have drawn := rested_showLoading rested queued
          exact drawn
  | store defaults =>
      cases taken
      refine ⟨rested.fresh, ?_⟩
      intro other live closed
      obtain ⟨overlay, indicator⟩ := rested.resting other live closed
      exact ⟨overlay, indicator⟩
  | replace =>
      cases taken
      refine ⟨rested.fresh, ?_⟩
      intro other live closed
      obtain ⟨overlay, indicator⟩ := rested.resting other live closed
      exact ⟨overlay, indicator⟩

private theorem rested_launch (defaults : UserDefaults) : Rested (.launch defaults) where
  fresh := fun _ _ => ⟨rfl, rfl⟩
  resting := fun _ _ _ => ⟨rfl, rfl⟩

/-! ### What is left -/

def quiet : Action → Bool
  | .answer _ _ => true
  | .runBlock => true
  | _ => false

/-- The user rests and no other flow interferes. -/
def quietStep : Transition AuthScreens Action :=
  fun screens action => if quiet action then step screens action else none

/-- The blocks that a block can still lead to, itself included. -/
def weight : Block → Nat
  | .answered _ _ => 3
  | .isLoading _ _ => 2
  | .showLoading _ _ => 1

def remaining (screens : AuthScreens) : Nat :=
  4 * screens.inFlight.length + (screens.mainQueue.map weight).sum

private theorem quietStep_eq_some {action : Action} (taken : quietStep screens action = some next) :
    quiet action = true ∧ step screens action = some next := by
  unfold quietStep at taken
  cases still : quiet action with
  | false => rw [still] at taken; cases taken
  | true => rw [still] at taken; exact ⟨rfl, taken⟩

private theorem remaining_answer {index : Nat} {answer : Answer}
    (taken : step screens (.answer index answer) = some next) :
    remaining next < remaining screens := by
  obtain ⟨flight, found, rfl⟩ := step_answer taken
  have shorter := List.length_eraseIdx_of_lt (List.getElem?_eq_some_iff.mp found).1
  have inside := (List.getElem?_eq_some_iff.mp found).1
  unfold remaining
  simp only [shorter, List.map_append, List.sum_append, List.map_cons, List.map_nil, weight,
    List.sum_cons, List.sum_nil]
  omega

private theorem remaining_runBlock (sound : Sound screens)
    (taken : step screens .runBlock = some next) :
    remaining next < remaining screens := by
  obtain ⟨block, rest, queued, ran⟩ := step_runBlock taken
  unfold remaining
  rw [queued, List.map_cons, List.sum_cons]
  cases block with
  | answered flight answer =>
      obtain ⟨defaults, shown, alerts, ending, same, _⟩ :=
        runs_answered answer (sound.started_head queued) sound.known
      rw [same] at ran
      cases ran
      simp only [List.map_append, List.sum_append, List.map_cons, List.map_nil, weight,
        List.sum_cons, List.sum_nil]
      omega
  | isLoading screen loading =>
      simp only [AuthScreens.runs] at ran
      split at ran
      · rw [← Option.some.inj ran]
        simp only [AuthScreens.queue, List.map_append, List.sum_append, List.map_cons,
          List.map_nil, weight, List.sum_cons, List.sum_nil]
        omega
      · rw [← Option.some.inj ran]
        simp only [weight]
        omega
  | showLoading screen loading =>
      cases ran
      simp only [weight]
      omega

private theorem exists_quietStep (sound : Sound screens) (left : remaining screens ≠ 0) :
    ∃ action next, quietStep screens action = some next := by
  cases flights : screens.inFlight with
  | cons flight rest =>
      refine ⟨.answer 0 loggedIn, ?_⟩
      simp only [quietStep, quiet, step, flights]
      exact ⟨_, rfl⟩
  | nil =>
      cases queued : screens.mainQueue with
      | cons block rest =>
          have stepped : quietStep screens .runBlock =
              { screens with mainQueue := rest }.runs block := by
            simp only [quietStep, quiet, step, queued, if_true]
          refine ⟨.runBlock, ?_⟩
          rw [stepped]
          cases block with
          | answered flight answer =>
              obtain ⟨defaults, shown, alerts, ending, ran, _⟩ :=
                runs_answered answer (sound.started_head queued) sound.known
              exact ⟨_, ran⟩
          | isLoading screen loading =>
              simp only [AuthScreens.runs]
              split
              · exact ⟨_, rfl⟩
              · exact ⟨_, rfl⟩
          | showLoading screen loading => exact ⟨_, rfl⟩
      | nil =>
          unfold remaining at left
          rw [flights, queued] at left
          exact absurd rfl left

/-! ### Whole runs -/

structure AtRest (screens : AuthScreens) : Prop where
  answered : screens.inFlight = []
  drained : screens.mainQueue = []
  ended : (List.range screens.forms.length).Perm (screens.endings.map Ending.tap)
  hidden : ∀ screen, screens.alive screen = true → screens.isHidden screen = true
  stopped : ∀ screen, screens.alive screen = true → screens.isAnimating screen = false

private theorem atRest_of_done (sound : Sound screens) (rested : Rested screens)
    (done : remaining screens = 0) : AtRest screens := by
  unfold remaining at done
  have answered : screens.inFlight = [] := by
    apply List.eq_nil_of_length_eq_zero
    omega
  have drained : screens.mainQueue = [] := by
    cases queued : screens.mainQueue with
    | nil => rfl
    | cons block rest =>
        have positive : 0 < weight block := by cases block <;> exact Nat.succ_pos _
        rw [queued, List.map_cons, List.sum_cons] at done
        omega
  have closed : ∀ screen, ¬Open screens screen := by
    rintro screen (⟨flight, member, _⟩ | ⟨flight, answer, member, _⟩)
    · rw [answered] at member
      cases member
    · rw [drained] at member
      cases member
  have perm := sound.accounted.perm
  rw [answered, drained] at perm
  refine ⟨answered, drained, perm, ?_, ?_⟩
  · intro screen live
    have overlay := (rested.resting screen live (closed screen)).overlay
    rw [drained] at overlay
    change (!screens.isHidden screen) = false at overlay
    simpa using overlay
  · intro screen live
    have indicator := (rested.resting screen live (closed screen)).indicator
    rw [drained] at indicator
    exact indicator

private theorem descends_quietStep :
    Descends quietStep (fun screens => Sound screens ∧ Rested screens) remaining where
  kept := by
    rintro screens action next ⟨sound, rested⟩ taken
    have stepped := (quietStep_eq_some taken).2
    exact ⟨sound_step sound stepped, rested_step sound rested stepped⟩
  lowers := by
    rintro screens action next ⟨sound, _⟩ taken
    obtain ⟨still, stepped⟩ := quietStep_eq_some taken
    cases action with
    | answer index answer => exact remaining_answer stepped
    | runBlock => exact remaining_runBlock sound stepped
    | _ => cases still

/-- From any state that can be reached, while the user rests, every run is bounded by what
is left, and however far it has come it can be continued until all is at rest. -/
theorem signIns_come_to_rest (defaults : UserDefaults) (before actions : List Action)
    (middle reached : AuthScreens) (came : run step (.launch defaults) before = some middle)
    (arrived : run quietStep middle actions = some reached) :
    actions.length ≤ remaining middle ∧
      ∃ rest last, run quietStep reached rest = some last ∧ AtRest last := by
  have kept : ∀ (screens : AuthScreens) (action : Action) (next : AuthScreens),
      Sound screens ∧ Rested screens → step screens action = some next →
        Sound next ∧ Rested next := by
    rintro screens action next ⟨sound, rested⟩ taken
    exact ⟨sound_step sound taken, rested_step sound rested taken⟩
  have there := run_invariant _ kept ⟨sound_launch defaults, rested_launch defaults⟩ came
  obtain ⟨short, rest, last, finished, final, done⟩ := descends_quietStep.finishes
    (fun _ holds left => exists_quietStep holds.1 left) there arrived
  exact ⟨short, rest, last, finished, atRest_of_done final.1 final.2 done⟩

def tappedTwice : List Action :=
  [.signIn (some "ann") (some "pw"), .signIn (some "ann") (some "pw")]

theorem signIns_come_to_rest_tappedTwice :
    ∃ middle reached, run step (.launch ⟨none, none, none⟩) tappedTwice = some middle ∧
      run quietStep middle [.runBlock, .answer 1 loggedIn] = some reached ∧
      2 ≤ remaining middle ∧
      ∃ rest last, run quietStep reached rest = some last ∧ AtRest last := by
  obtain ⟨middle, reached, came, arrived⟩ : ∃ middle reached,
      run step (.launch ⟨none, none, none⟩) tappedTwice = some middle ∧
        run quietStep middle [.runBlock, .answer 1 loggedIn] = some reached := ⟨_, _, rfl, rfl⟩
  exact ⟨middle, reached, came, arrived,
    signIns_come_to_rest _ tappedTwice _ middle reached came arrived⟩

end SmartMeal.SignInSettling
