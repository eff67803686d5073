/-
The loading of the home screen.

Four requests are issued under a dispatch group and complete in any order, possibly
before the last of them was issued; each completion appends a row.  The titles of the
sections are a fixed list, set when the group notifies.  A section therefore shows
the list of its title exactly when the request that completed in its place delivers
the same list as the request its title names.
-/

import SmartMeal.Screens

namespace SmartMeal

open PartialStep ObjectHeap

namespace Screens

/-- `TableCellViewModel(recipes:)`, appended to the rows of the home screen. -/
def appendRow (recipes : List Recipe) (screens : Screens) : Screens :=
  { screens with
    viewModels := screens.create recipes
    tableViewCellModels := screens.tableViewCellModels ++ [⟨recipes, screens.created recipes⟩] }

theorem step_homeLoaded (text : TextSearch) (screens : Screens) (recipes : List Recipe) :
    step text screens (.homeLoaded recipes) = some (screens.appendRow recipes) := rfl

structure HoldsRecipes (screens : Screens) (row : TableCellViewModel) (recipes : List Recipe) :
    Prop where
  built : row.recipes = recipes
  shown : screens.Shows row.collecionViewCellModels recipes

private theorem HoldsRecipes.kept {screens : Screens} {row : TableCellViewModel}
    {recipes : List Recipe}
    (holds : screens.HoldsRecipes row recipes) (more : List Recipe) :
    (screens.appendRow more).HoldsRecipes row recipes :=
  ⟨holds.built, holds.shown.kept (fieldKept_append _ _)⟩

end Screens

namespace HomeLoading

inductive Request where
  | getPopular
  | getRecommendations
  | getQuickEasy
  | getHealthy
  deriving DecidableEq

namespace Request

def url : Request → String
  | .getPopular => "https://api.smartmeal.kz/v1/food/recipes/popular"
  | .getRecommendations => "https://api.smartmeal.kz/v1/food/recipes/random"
  | .getQuickEasy => "https://api.smartmeal.kz/v1/food/recipes/random"
  | .getHealthy => "https://api.smartmeal.kz/v1/food/recipes/random"

def category : Request → String
  | .getPopular => "Popular"
  | .getRecommendations => "Recommendations"
  | .getQuickEasy => "Quick & Easy"
  | .getHealthy => "Healthy Choices"

private theorem category_injective : Function.Injective category := by
  intro first second same
  cases first <;> cases second <;> first | rfl | exact absurd same (by decide)

end Request

/-- The requests of `callFuncToGetData`, in the order of the source. -/
def requests : List Request := [.getPopular, .getRecommendations, .getQuickEasy, .getHealthy]

def titles : List String := ["Recommendations", "Popular", "Quick & Easy", "Healthy Choices"]

inductive Notification where
  | absent
  | registered
  | ran
  deriving DecidableEq

/-- `toIssue` is what is left of `callFuncToGetData`, and `isLoading` and `sent` log
its calls; `finished` is history. -/
structure Home where
  screens : Screens
  toIssue : List Request
  sent : List String
  waiting : List Request
  entered : Nat
  left : Nat
  notification : Notification
  categories : Option (List String)
  isLoading : List Bool
  bound : Nat
  finished : List Request

/-- A new `HomeViewModel` at the start of `callFuncToGetData`. -/
def callFuncToGetData (screens : Screens) : Home :=
  { screens := { screens with tableViewCellModels := [] }
    toIssue := requests
    sent := []
    waiting := []
    entered := 0
    left := 0
    notification := .absent
    categories := none
    isLoading := [true]
    bound := 0
    finished := [] }

def Home.completed (request : Request) (recipes : List Recipe) (home : Home) : Home :=
  { home with
    screens := home.screens.appendRow recipes
    waiting := home.waiting.erase request
    left := home.left + 1
    finished := home.finished ++ [request] }

inductive Action where
  | issue
  | register
  | completed (request : Request)
  | notify

variable (lists : Request → List Recipe)

def step : Transition Home Action
  | home, .issue =>
      match home.toIssue with
      | [] => none
      | request :: rest =>
          some { home with
            toIssue := rest
            sent := home.sent ++ [request.url]
            waiting := home.waiting ++ [request]
            entered := home.entered + 1 }
  | home, .register =>
      if home.toIssue = [] ∧ home.notification = .absent then
        some { home with notification := .registered }
      else none
  | home, .completed request =>
      if request ∈ home.waiting then some (home.completed request (lists request)) else none
  | home, .notify =>
      if home.notification = .registered ∧ home.entered = home.left then
        some { home with
          notification := .ran
          categories := some titles
          isLoading := home.isLoading ++ [false]
          bound := home.bound + 1 }
      else none

/-- Under every title is the list of the request that the title names. -/
def SectionsHold (home : Home) : Prop :=
  ∀ (index : Nat) (request : Request), (home.categories.getD [])[index]? = some request.category →
    home.screens.HoldsRecipes (home.screens.getTableCellModel index) (lists request)

/-! ### The steps -/

section

variable {lists} {home next : Home}

theorem step_issue (taken : step lists home .issue = some next) :
    ∃ request rest, home.toIssue = request :: rest ∧
      next = { home with
        toIssue := rest
        sent := home.sent ++ [request.url]
        waiting := home.waiting ++ [request]
        entered := home.entered + 1 } := by
  cases pending : home.toIssue with
  | nil =>
      simp only [step, pending] at taken
      cases taken
  | cons request rest =>
      simp only [step, pending] at taken
      exact ⟨request, rest, rfl, (Option.some.inj taken).symm⟩

theorem step_register (taken : step lists home .register = some next) :
    home.toIssue = [] ∧ home.notification = .absent ∧
      next = { home with notification := .registered } := by
  simp only [step] at taken
  split at taken
  · rename_i ready
    exact ⟨ready.1, ready.2, (Option.some.inj taken).symm⟩
  · cases taken

theorem step_completed {request : Request}
    (taken : step lists home (.completed request) = some next) :
    request ∈ home.waiting ∧ next = home.completed request (lists request) := by
  simp only [step] at taken
  split at taken
  · rename_i waits
    exact ⟨waits, (Option.some.inj taken).symm⟩
  · cases taken

theorem step_notify (taken : step lists home .notify = some next) :
    home.notification = .registered ∧ home.entered = home.left ∧
      next = { home with
        notification := .ran
        categories := some titles
        isLoading := home.isLoading ++ [false]
        bound := home.bound + 1 } := by
  simp only [step] at taken
  split at taken
  · rename_i ready
    exact ⟨ready.1, ready.2, (Option.some.inj taken).symm⟩
  · cases taken

theorem perm_completed {request : Request} (recipes : List Recipe)
    (waits : request ∈ home.waiting) :
    ((home.completed request recipes).finished ++ (home.completed request recipes).waiting ++
      home.toIssue).Perm (home.finished ++ home.waiting ++ home.toIssue) := by
  have moved : (home.finished ++ [request] ++ home.waiting.erase request).Perm
      (home.finished ++ home.waiting) := by
    rw [List.append_assoc]
    exact ((List.perm_cons_erase waits).symm).append_left home.finished
  exact moved.append_right home.toIssue

theorem length_waiting_completed {request : Request} (recipes : List Recipe)
    (waits : request ∈ home.waiting) :
    (home.completed request recipes).waiting.length + 1 = home.waiting.length := by
  have positive := List.length_pos_of_mem waits
  have erased : (home.completed request recipes).waiting.length = home.waiting.length - 1 :=
    List.length_erase_of_mem waits
  omega

end

/-! ### What the group accounts for -/

structure Accounted (home : Home) : Prop where
  requests : (home.finished ++ home.waiting ++ home.toIssue).Perm requests
  rows : List.Forall₂ (fun row request => home.screens.HoldsRecipes row (lists request))
    home.screens.tableViewCellModels home.finished
  balanced : home.entered = home.left + home.waiting.length
  registered : home.notification ≠ .absent → home.toIssue = []
  titled : ∀ categories, home.categories = some categories →
    categories = titles ∧ home.waiting = [] ∧ home.toIssue = []

theorem accounted_start (screens : Screens) : Accounted lists (callFuncToGetData screens) where
  requests := List.Perm.refl _
  rows := List.Forall₂.nil
  balanced := rfl
  registered := fun impossible => absurd rfl impossible
  titled := fun _ impossible => by cases impossible

variable {lists} {home next : Home}

private theorem accounted_completed {request : Request} (accounted : Accounted lists home)
    (waits : request ∈ home.waiting) :
    Accounted lists (home.completed request (lists request)) where
  requests := (perm_completed (lists request) waits).trans accounted.requests
  rows := by
    apply List.rel_append (accounted.rows.imp fun _ _ holds => holds.kept _)
    refine List.Forall₂.cons ⟨rfl, ?_⟩ List.Forall₂.nil
    exact home.screens.reads_created (lists request)
  balanced := by
    have waiting := length_waiting_completed (lists request) waits
    have balanced := accounted.balanced
    change home.entered = home.left + 1 + _
    omega
  registered := accounted.registered
  titled := by
    intro categories titled
    have none := (accounted.titled categories titled).2.1
    rw [none] at waits
    cases waits

theorem accounted_step {action : Action} (accounted : Accounted lists home)
    (taken : step lists home action = some next) : Accounted lists next := by
  cases action with
  | issue =>
      obtain ⟨request, rest, pending, rfl⟩ := step_issue taken
      have unregistered : home.toIssue ≠ [] := by
        rw [pending]
        exact List.cons_ne_nil request rest
      refine ⟨?_, accounted.rows, ?_, ?_, ?_⟩
      · have same := accounted.requests
        rw [pending] at same
        simpa using same
      · change home.entered + 1 = home.left + (home.waiting ++ [request]).length
        rw [accounted.balanced, List.length_append, List.length_singleton]
        omega
      · intro registered
        exact absurd (accounted.registered registered) unregistered
      · intro categories titled
        exact absurd (accounted.titled categories titled).2.2 unregistered
  | register =>
      obtain ⟨issued, _, rfl⟩ := step_register taken
      exact { accounted with registered := fun _ => issued }
  | completed request =>
      obtain ⟨waits, rfl⟩ := step_completed taken
      exact accounted_completed accounted waits
  | notify =>
      obtain ⟨registered, entered, rfl⟩ := step_notify taken
      have issued : home.toIssue = [] := by
        apply accounted.registered
        rw [registered]
        decide
      have answered : home.waiting = [] := by
        have balanced := accounted.balanced
        apply List.eq_nil_of_length_eq_zero
        omega
      refine { accounted with registered := fun _ => issued, titled := ?_ }
      intro categories titled
      cases titled
      exact ⟨rfl, answered, issued⟩

theorem accounted_run {screens : Screens} {actions : List Action} {reached : Home}
    (arrived : run (step lists) (callFuncToGetData screens) actions = some reached) :
    Accounted lists reached :=
  run_invariant (Accounted lists) (fun _ _ _ => accounted_step) (accounted_start lists screens)
    arrived

/-! ### The sections -/

theorem length_of_notified (accounted : Accounted lists home)
    (notified : home.categories = some titles) : home.finished.length = titles.length := by
  obtain ⟨_, answered, issued⟩ := accounted.titled titles notified
  have same := accounted.requests.length_eq
  rw [answered, issued, List.append_nil, List.append_nil] at same
  exact same

theorem row_of_finished (accounted : Accounted lists home) {index : Nat} {request : Request}
    (done : home.finished[index]? = some request) :
    home.screens.HoldsRecipes (home.screens.getTableCellModel index) (lists request) := by
  obtain ⟨inFinished, _⟩ := List.getElem?_eq_some_iff.mp done
  have inRows : index < home.screens.tableViewCellModels.length := by
    rw [accounted.rows.length_eq]
    exact inFinished
  have holds := List.forall₂_iff_get.mp accounted.rows |>.2 index inRows inFinished
  unfold Screens.getTableCellModel
  rw [List.getElem?_eq_getElem inRows, Option.getD_some]
  rw [List.getElem?_eq_getElem inFinished] at done
  rw [← Option.some.inj done]
  exact holds

/-- Once the group has notified, whatever the order of the completions, the sections
hold the lists of their titles exactly when, in each place of the order, the request
that completed there delivers the list of the request that the title names. -/
theorem sectionsHold_iff (lists : Request → List Recipe) (screens : Screens)
    (actions : List Action) (reached : Home)
    (arrived : run (step lists) (callFuncToGetData screens) actions = some reached)
    (notified : reached.categories ≠ none) :
    SectionsHold lists reached ↔
      ∀ (index : Nat) (done request : Request), reached.finished[index]? = some done →
        titles[index]? = some request.category → lists done = lists request := by
  have accounted := accounted_run arrived
  obtain ⟨categories, present⟩ := Option.ne_none_iff_exists'.mp notified
  obtain ⟨rfl, _⟩ := accounted.titled categories present
  unfold SectionsHold
  rw [present, Option.getD_some]
  constructor
  · intro hold index done request finished titled
    have holdsDone := row_of_finished accounted finished
    have holdsRequest := hold index request titled
    exact holdsDone.built.symm.trans holdsRequest.built
  · intro same index request titled
    have inTitles : index < reached.finished.length := by
      rw [length_of_notified accounted present]
      exact (List.getElem?_eq_some_iff.mp titled).1
    have finished := List.getElem?_eq_getElem inTitles
    rw [← same index _ request finished titled]
    exact row_of_finished accounted finished

def titledRequests : List Request := [.getRecommendations, .getPopular, .getQuickEasy, .getHealthy]

private theorem titledRequests_of_title {index : Nat} {request : Request}
    (titled : titles[index]? = some request.category) : titledRequests[index]? = some request := by
  have named : titles = titledRequests.map Request.category := rfl
  rw [named, List.getElem?_map] at titled
  obtain ⟨other, found, same⟩ := Option.map_eq_some_iff.mp titled
  rw [found, Request.category_injective same]

def loading (order : List Request) : List Action :=
  [.issue, .issue, .issue, .issue, .register] ++ order.map .completed ++ [.notify]

def popularPlov : Request → List Recipe
  | .getPopular => [.titled 1 "Plov"]
  | _ => []

theorem sectionsHold_in_title_order :
    ∃ reached, run (step popularPlov) (callFuncToGetData (.launch ⟨none, none, none⟩))
        (loading titledRequests) = some reached ∧ SectionsHold popularPlov reached := by
  refine ⟨_, rfl, ?_⟩
  rw [sectionsHold_iff popularPlov (.launch ⟨none, none, none⟩) (loading titledRequests) _ rfl
    (Option.some_ne_none titles)]
  intro index done request finished titled
  have same : titledRequests[index]? = some done := finished
  rw [titledRequests_of_title titled] at same
  rw [Option.some.inj same]

/-- The answers arrive in the order of the requests: the popular list is shown under
"Recommendations". -/
theorem not_sectionsHold_in_request_order :
    ¬ ∀ (lists : Request → List Recipe) (screens : Screens) (actions : List Action)
      (reached : Home), run (step lists) (callFuncToGetData screens) actions = some reached →
        reached.categories ≠ none → SectionsHold lists reached := by
  intro always
  have hold := always popularPlov (.launch ⟨none, none, none⟩) (loading requests) _ rfl
    (Option.some_ne_none _)
  have shown := (hold 0 .getRecommendations rfl).built
  cases shown

end HomeLoading

end SmartMeal
