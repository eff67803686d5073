/-
The loading of the home screen, from the answers of its four requests.

Every exit of `fetchRecipes` calls its completion, and every completion appends a row
and leaves the group once.  Whatever the answers are and in whatever order they
arrive, the calls of a loading are ten: none is left out, and the last is the
notification of the group.
-/

import SmartMeal.HomeLoading
import SmartMeal.PayloadSafety
import SmartMeal.Library.Countdown

namespace SmartMeal

open PartialStep

/-- Every ingredient text that is read has a character other than `(`. -/
def TaskResult.Parses (result : TaskResult) : Prop :=
  result.error = none → ∀ data, result.data = some data →
    ∀ element ∈ PayloadSafety.resultElements data, ∀ text ∈ ingredientTexts element,
      ∃ character ∈ text.toList, character ≠ '('

def TaskResult.CompletesOnce (result : TaskResult) : Prop :=
  ∃ recipes, ∀ (Caller : Type) (completion : List Recipe → Caller → Caller) (caller : Caller),
    fetchRecipesAnswered completion result caller = some (completion recipes caller)

/-- The list that the completion of `fetchRecipes` is called with. -/
def TaskResult.recipes (result : TaskResult) : List Recipe :=
  ((fetchRecipesAnswered (fun recipes _ => recipes) result []).getD [])

theorem decodeRecipes_ne_none {data : Data}
    (parses : ∀ element ∈ PayloadSafety.resultElements data, ∀ text ∈ ingredientTexts element,
      ∃ character ∈ text.toList, character ≠ '(') : decodeRecipes data ≠ none := by
  intro trapped
  rw [PayloadSafety.decodeRecipes_eq, Traversal.mapM_eq_none_iff] at trapped
  obtain ⟨element, member, failed⟩ := trapped
  exact (PayloadSafety.not_trapped_iff element).mpr (parses element member)
    ((decodedRecipe_eq_none_iff fetchedSteps element).mp failed)

private theorem fetchRecipesAnswered_eq {result : TaskResult} (parses : result.Parses)
    {Caller : Type}
    (completion : List Recipe → Caller → Caller) (caller : Caller) :
    fetchRecipesAnswered completion result caller = some (completion result.recipes caller) := by
  unfold TaskResult.recipes fetchRecipesAnswered
  cases failed : result.error with
  | some error => rfl
  | none =>
      cases received : result.data with
      | none => rfl
      | some data =>
          cases decoded : decodeRecipes data with
          | none => exact absurd decoded (decodeRecipes_ne_none (parses failed data received))
          | some recipes => simp only [decoded, Option.map_some, Option.getD_some]

private theorem completesOnce_of_parses {result : TaskResult} (parses : result.Parses) :
    result.CompletesOnce :=
  ⟨result.recipes, fun _ completion caller => fetchRecipesAnswered_eq parses completion caller⟩

namespace HomeLoading

/-- `callFuncToGetData` on a home view model that may have rows already. -/
def called (screens : Screens) : Home := { callFuncToGetData screens with screens := screens }

def Home.ended (request : Request) (home : Home) : Home :=
  { home with waiting := home.waiting.erase request }

/-- The closure that `callFuncToGetData` hands to the request. -/
def Home.completion (request : Request) (recipes : List Recipe) (home : Home) : Home :=
  { home with
    screens := home.screens.appendRow recipes
    left := home.left + 1
    finished := home.finished ++ [request] }

/-- The loading with the answer of each request: the closure of its data task runs. -/
def answeredStep (answers : Request → TaskResult) : Transition Home Action
  | home, .completed request =>
      if request ∈ home.waiting then
        fetchRecipesAnswered (Home.completion request) (answers request) (home.ended request)
      else none
  | home, action => step (fun request => (answers request).recipes) home action

theorem answeredStep_eq {answers : Request → TaskResult}
    (parses : ∀ request, (answers request).Parses) (home : Home) (action : Action) :
    answeredStep answers home action =
      step (fun request => (answers request).recipes) home action := by
  cases action with
  | completed request =>
      change (if request ∈ home.waiting then fetchRecipesAnswered (Home.completion request)
        (answers request) (home.ended request) else none) = _
      rw [fetchRecipesAnswered_eq (parses request)]
      rfl
  | _ => rfl

/-! ### What is left of a loading -/

def Notification.remaining : Notification → Nat
  | .absent => 2
  | .registered => 1
  | .ran => 0

/-- The calls that are still to come: two for a request that was not issued, one for
its completion, and the registration and the run of the notification. -/
def remaining (home : Home) : Nat :=
  2 * home.toIssue.length + home.waiting.length + home.notification.remaining

private theorem spends_step (lists : Request → List Recipe) : Spends (step lists) remaining := by
  intro home action next taken
  unfold remaining
  cases action with
  | issue =>
      obtain ⟨request, rest, pending, rfl⟩ := step_issue taken
      change _ = 2 * rest.length + (home.waiting ++ [request]).length +
        home.notification.remaining + 1
      rw [pending, List.length_cons, List.length_append, List.length_singleton]
      omega
  | register =>
      obtain ⟨_, absent, rfl⟩ := step_register taken
      rw [absent]
      rfl
  | completed request =>
      obtain ⟨waits, rfl⟩ := step_completed taken
      have waiting := length_waiting_completed (lists request) waits
      change 2 * home.toIssue.length + _ + home.notification.remaining =
        2 * home.toIssue.length + _ + home.notification.remaining + 1
      omega
  | notify =>
      obtain ⟨registered, _, rfl⟩ := step_notify taken
      rw [registered]
      rfl

/-! ### What the calls add up to -/

structure Tallied (lists : Request → List Recipe) (before : List TableCellViewModel)
    (home : Home) : Prop where
  requests : (home.finished ++ home.waiting ++ home.toIssue).Perm requests
  rows : ∃ added, home.screens.tableViewCellModels = before ++ added ∧
    added.map TableCellViewModel.recipes = home.finished.map lists
  left : home.left = home.finished.length
  entered : home.entered = home.left + home.waiting.length
  issued : home.notification ≠ .absent → home.toIssue = []
  ran : home.notification = .ran →
    home.waiting = [] ∧ home.isLoading = [true, false] ∧ home.bound = 1
  silent : home.notification ≠ .ran → home.isLoading = [true] ∧ home.bound = 0

variable {lists : Request → List Recipe} {before : List TableCellViewModel} {home next : Home}

private theorem tallied_called (lists : Request → List Recipe) (screens : Screens) :
    Tallied lists screens.tableViewCellModels (called screens) where
  requests := List.Perm.refl _
  rows := ⟨[], (List.append_nil _).symm, rfl⟩
  left := rfl
  entered := rfl
  issued := fun impossible => absurd rfl impossible
  ran := fun impossible => by cases impossible
  silent := fun _ => ⟨rfl, rfl⟩

private theorem tallied_completed {request : Request} (tallied : Tallied lists before home)
    (waits : request ∈ home.waiting) :
    Tallied lists before (home.completed request (lists request)) where
  requests := (perm_completed (lists request) waits).trans tallied.requests
  rows := by
    obtain ⟨added, rows, shown⟩ := tallied.rows
    refine ⟨added ++ [⟨lists request, home.screens.created (lists request)⟩], ?_, ?_⟩
    · change home.screens.tableViewCellModels ++ _ = _
      rw [rows, List.append_assoc]
    · change _ = (home.finished ++ [request]).map lists
      rw [List.map_append, List.map_append, shown]
      rfl
  left := by
    change home.left + 1 = (home.finished ++ [request]).length
    rw [tallied.left, List.length_append, List.length_singleton]
  entered := by
    have waiting := length_waiting_completed (lists request) waits
    have entered := tallied.entered
    change home.entered = home.left + 1 + _
    omega
  issued := tallied.issued
  ran := by
    intro ran
    rw [(tallied.ran ran).1] at waits
    cases waits
  silent := tallied.silent

private theorem tallied_step {action : Action} (tallied : Tallied lists before home)
    (taken : step lists home action = some next) : Tallied lists before next := by
  cases action with
  | issue =>
      obtain ⟨request, rest, pending, rfl⟩ := step_issue taken
      have absent : home.notification = .absent := by
        by_contra registered
        have none := tallied.issued registered
        rw [pending] at none
        cases none
      refine { tallied with requests := ?_, entered := ?_, issued := ?_, ran := ?_ }
      · have same := tallied.requests
        rw [pending] at same
        simpa using same
      · change home.entered + 1 = home.left + (home.waiting ++ [request]).length
        rw [tallied.entered, List.length_append, List.length_singleton]
        omega
      · intro registered
        exact absurd absent registered
      · intro ran
        rw [absent] at ran
        cases ran
  | register =>
      obtain ⟨issued, absent, rfl⟩ := step_register taken
      refine { tallied with issued := fun _ => issued, ran := ?_, silent := ?_ }
      · intro impossible
        cases impossible
      · intro _
        apply tallied.silent
        rw [absent]
        decide
  | completed request =>
      obtain ⟨waits, rfl⟩ := step_completed taken
      exact tallied_completed tallied waits
  | notify =>
      obtain ⟨registered, balanced, rfl⟩ := step_notify taken
      have issued : home.toIssue = [] := by
        apply tallied.issued
        rw [registered]
        decide
      have answered : home.waiting = [] := by
        have entered := tallied.entered
        apply List.eq_nil_of_length_eq_zero
        omega
      have silent := tallied.silent (by rw [registered]; decide)
      refine { tallied with issued := fun _ => issued, ran := fun _ => ?_, silent := ?_ }
      · refine ⟨answered, ?_, ?_⟩
        · change home.isLoading ++ [false] = _
          rw [silent.1]
          rfl
        · change home.bound + 1 = 1
          rw [silent.2]
      · intro impossible
        exact absurd rfl impossible

private theorem exists_step_of_not_ran (tallied : Tallied lists before home)
    (silent : home.notification ≠ .ran) : ∃ action next, step lists home action = some next := by
  cases pending : home.toIssue with
  | cons request rest =>
      exists .issue
      simp only [step, pending]
      exact ⟨_, rfl⟩
  | nil =>
      cases notification : home.notification with
      | ran => exact absurd notification silent
      | absent => exact ⟨.register, _, if_pos ⟨pending, notification⟩⟩
      | registered =>
          cases waits : home.waiting with
          | cons request rest =>
              have member : request ∈ home.waiting := by
                rw [waits]
                exact List.mem_cons_self
              exact ⟨.completed request, _, if_pos member⟩
          | nil =>
              have balanced : home.entered = home.left := by
                rw [tallied.entered, waits]
                rfl
              exact ⟨.notify, _, if_pos ⟨notification, balanced⟩⟩

private theorem ran_iff_remaining (tallied : Tallied lists before home) :
    home.notification = .ran ↔ remaining home = 0 := by
  unfold remaining
  constructor
  · intro ran
    have issued := tallied.issued (by rw [ran]; decide)
    rw [issued, (tallied.ran ran).1, ran]
    rfl
  · intro nothing
    cases notification : home.notification with
    | ran => rfl
    | absent =>
        rw [notification] at nothing
        cases nothing
    | registered =>
        rw [notification] at nothing
        cases nothing

private theorem tallied_run {answers : Request → TaskResult}
    (parses : ∀ request, (answers request).Parses) {screens : Screens} {actions : List Action}
    {reached : Home} (arrived : run (answeredStep answers) (called screens) actions = some reached) :
    Tallied (fun request => (answers request).recipes) screens.tableViewCellModels reached := by
  refine run_invariant _ ?_ (tallied_called _ screens) arrived
  intro home action next tallied taken
  rw [answeredStep_eq parses] at taken
  exact tallied_step tallied taken

private theorem spends_answeredStep {answers : Request → TaskResult}
    (parses : ∀ request, (answers request).Parses) :
    Spends (answeredStep answers) remaining := by
  intro home action next taken
  rw [answeredStep_eq parses] at taken
  exact spends_step _ home action next taken

structure FinishedOnce (answers : Request → TaskResult) (before : List TableCellViewModel)
    (home : Home) : Prop where
  completed : home.finished.Perm requests
  balanced : home.left = 4 ∧ home.entered = 4
  rows : ∃ added, home.screens.tableViewCellModels = before ++ added ∧ added.length = 4 ∧
    added.map TableCellViewModel.recipes =
      home.finished.map fun request => (answers request).recipes
  isLoading : home.isLoading = [true, false]
  bound : home.bound = 1

private theorem finishedOnce_of_ran {answers : Request → TaskResult}
    (tallied : Tallied (fun request => (answers request).recipes) before home)
    (ran : home.notification = .ran) : FinishedOnce answers before home := by
  obtain ⟨answered, isLoading, bound⟩ := tallied.ran ran
  have issued := tallied.issued (by rw [ran]; decide)
  have completed := tallied.requests
  rw [answered, issued, List.append_nil, List.append_nil] at completed
  have four : home.finished.length = 4 := completed.length_eq
  obtain ⟨added, rows, shown⟩ := tallied.rows
  refine ⟨completed, ⟨?_, ?_⟩, ⟨added, rows, ?_, shown⟩, isLoading, bound⟩
  · rw [tallied.left, four]
  · rw [tallied.entered, tallied.left, answered, four]
    rfl
  · have lengths := congrArg List.length shown
    rw [List.length_map, List.length_map, four] at lengths
    exact lengths

/-- Every callback completes once, whatever its answer is, and the group is never left
more often than it was entered.  A loading is over when its notification has run, and
then all four rows are there, `isLoading` was set and reset and `bind` called once;
before that it is loading, nothing has been bound, and some call is still to come.  No
loading takes more than ten calls, and every loading can be brought to its end. -/
theorem loading_finishes_once (answers : Request → TaskResult)
    (parses : ∀ request, (answers request).Parses) (screens : Screens) (actions : List Action)
    (reached : Home)
    (arrived : run (answeredStep answers) (called screens) actions = some reached) :
    (∀ request, (answers request).CompletesOnce) ∧
    reached.left ≤ reached.entered ∧
    (reached.notification = .ran → FinishedOnce answers screens.tableViewCellModels reached ∧
      ∀ action, answeredStep answers reached action = none) ∧
    (reached.notification ≠ .ran → reached.isLoading = [true] ∧ reached.bound = 0 ∧
      ∃ action next, answeredStep answers reached action = some next) ∧
    actions.length ≤ 10 ∧
    ∃ rest last, run (answeredStep answers) reached rest = some last ∧
      last.notification = .ran := by
  have tallied := tallied_run parses arrived
  have spends := spends_answeredStep parses
  have spent := spends.length_add arrived
  refine ⟨fun request => completesOnce_of_parses (parses request), ?_, ?_, ?_, ?_, ?_⟩
  · rw [tallied.entered]
    exact Nat.le_add_right _ _
  · intro ran
    refine ⟨finishedOnce_of_ran tallied ran, fun action => ?_⟩
    cases taken : answeredStep answers reached action with
    | none => rfl
    | some next =>
        have more := spends reached action next taken
        rw [(ran_iff_remaining tallied).mp ran] at more
        cases more
  · intro silent
    refine ⟨(tallied.silent silent).1, (tallied.silent silent).2, ?_⟩
    obtain ⟨action, next, taken⟩ := exists_step_of_not_ran tallied silent
    refine ⟨action, next, ?_⟩
    rw [answeredStep_eq parses]
    exact taken
  · have start : remaining (called screens) = 10 := rfl
    omega
  · obtain ⟨rest, last, finished, final, nothing⟩ := spends.exists_run
      (Tallied (fun request => (answers request).recipes) screens.tableViewCellModels)
      (fun home action next holds taken =>
        tallied_step holds ((answeredStep_eq parses home action).symm.trans taken))
      (fun home holds remains => by
        obtain ⟨action, next, taken⟩ :=
          exists_step_of_not_ran holds (mt (ran_iff_remaining holds).mp remains)
        exact ⟨action, next, (answeredStep_eq parses home action).trans taken⟩)
      tallied
    exact ⟨rest, last, finished, (ran_iff_remaining final).mpr nothing⟩

def mixedAnswers : Request → TaskResult
  | .getPopular =>
      ⟨some ⟨some (.object [("results", .array [.object [("name", .string "Plov")]])])⟩,
        some (.http 200), none⟩
  | .getRecommendations => ⟨some ⟨none⟩, some (.http 502), none⟩
  | _ => networkError

theorem loading_finishes_once_mixed :
    ∃ reached, run (answeredStep mixedAnswers) (called (.launch ⟨none, none, none⟩))
        (loading requests) = some reached ∧
      FinishedOnce mixedAnswers [] reached := by
  refine ⟨_, rfl, ?_⟩
  have finished := loading_finishes_once mixedAnswers ?_ (.launch ⟨none, none, none⟩)
    (loading requests) _ rfl
  · exact (finished.2.2.1 rfl).1
  · intro request _ data received
    cases request <;> cases received
    · intro element member
      rw [List.mem_singleton.mp member]
      intro text impossible
      cases impossible
    · intro element impossible
      cases impossible

end HomeLoading

end SmartMeal
