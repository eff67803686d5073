/-
The pages of the onboarding.

The page that is visible changes by the button, which also sets the number of the page,
and by a swipe, which reads that number back from the page.  The two stay together, with
the page control and the titles of the buttons, and the pages are swiped in a circle.
-/

import SmartMeal.Library.Run
import Mathlib.Data.List.Cycle
import Mathlib.Tactic.Ring

namespace SmartMeal.OnboardingPages

open PartialStep

/-- Controllers are compared by identity, so a list of them has no page twice; there is
more than one page. -/
structure Pages (Page : Type) where
  list : List Page
  nodup : list.Nodup
  several : 1 < list.length

/-- The controllers of the source, named by their images. -/
inductive OnboardingPageViewController where
  | onboarding1
  | onboarding3
  | onboarding2
  deriving DecidableEq

def onboardingPages : Pages OnboardingPageViewController where
  list := [.onboarding1, .onboarding3, .onboarding2]
  nodup := by decide
  several := by decide

/-- `visible` is the controller that the page view controller shows, and `pageControl` the
page that the control highlights; `finishes` counts the calls of `onFinish`. -/
structure Onboarding (Page : Type) where
  visible : Option Page
  currentPage : Nat
  pageControl : Nat
  nextTitle : String
  skipIsHidden : Bool
  finishes : Nat

variable {Page : Type}

namespace Pages

variable [DecidableEq Page]

def firstIndex (pages : Pages Page) (page : Page) : Option Nat := pages.list.idxOf? page

def viewControllerBefore (pages : Pages Page) (page : Page) : Option Page :=
  match pages.firstIndex page with
  | none => pages.list.getLast?
  | some index => if 0 < index then pages.list[index - 1]? else pages.list.getLast?

def viewControllerAfter (pages : Pages Page) (page : Page) : Option Page :=
  match pages.firstIndex page with
  | none => pages.list.head?
  | some index => if index < pages.list.length - 1 then pages.list[index + 1]? else pages.list.head?

/-- What the page view controller asks its data source for when it is swiped. -/
def offered (pages : Pages Page) (forward : Bool) (page : Page) : Option Page :=
  if forward then pages.viewControllerAfter page else pages.viewControllerBefore page

end Pages

namespace Onboarding

def viewDidLoad (pages : Pages Page) : Onboarding Page :=
  { visible := pages.list.head?
    currentPage := 0
    pageControl := 0
    nextTitle := "Далее"
    skipIsHidden := false
    finishes := 0 }

/-- The observer of `currentPage`. -/
def setCurrentPage (pages : Pages Page) (page : Nat) (onboarding : Onboarding Page) :
    Onboarding Page :=
  let isLastPage := page == pages.list.length - 1
  { onboarding with
    currentPage := page
    pageControl := page
    nextTitle := if isLastPage then "Добро пожаловать!" else "Далее"
    skipIsHidden := isLastPage }

def nextButtonTapped (pages : Pages Page) (onboarding : Onboarding Page) :
    Option (Onboarding Page) :=
  if onboarding.currentPage = pages.list.length - 1 then
    some { onboarding with finishes := onboarding.finishes + 1 }
  else
    (pages.list[onboarding.currentPage + 1]?).map fun nextVC =>
      { onboarding.setCurrentPage pages (onboarding.currentPage + 1) with visible := some nextVC }

def didFinishAnimating [DecidableEq Page] (pages : Pages Page) (completed : Bool)
    (onboarding : Onboarding Page) : Onboarding Page :=
  match completed, onboarding.visible.bind pages.firstIndex with
  | true, some index => onboarding.setCurrentPage pages index
  | _, _ => onboarding

/-- A swipe to the page that the data source offers; one that is not completed returns. -/
def swipe [DecidableEq Page] (pages : Pages Page) (forward completed : Bool)
    (onboarding : Onboarding Page) : Option (Onboarding Page) := do
  let page ← onboarding.visible
  let other ← pages.offered forward page
  pure (didFinishAnimating pages completed
    { onboarding with visible := if completed then some other else some page })

end Onboarding

inductive Action where
  | nextButtonTapped
  | skipButtonTapped
  | swipe (forward completed : Bool)

def step [DecidableEq Page] (pages : Pages Page) : Transition (Onboarding Page) Action :=
  fun onboarding action =>
  match action with
  | .nextButtonTapped => onboarding.nextButtonTapped pages
  | .skipButtonTapped =>
      if onboarding.skipIsHidden then none
      else some { onboarding with finishes := onboarding.finishes + 1 }
  | .swipe forward completed => onboarding.swipe pages forward completed

structure Consistent (pages : Pages Page) (onboarding : Onboarding Page) : Prop where
  inside : onboarding.currentPage < pages.list.length
  visible : onboarding.visible = pages.list[onboarding.currentPage]?
  highlighted : onboarding.pageControl = onboarding.currentPage
  title : onboarding.nextTitle =
    if onboarding.currentPage + 1 = pages.list.length then "Добро пожаловать!" else "Далее"
  skip : onboarding.skipIsHidden = true ↔ onboarding.currentPage + 1 = pages.list.length

variable {pages : Pages Page} {onboarding next : Onboarding Page}

/-! ### The number of the page -/

private theorem consistent_viewDidLoad (pages : Pages Page) :
    Consistent pages (Onboarding.viewDidLoad pages) := by
  have several := pages.several
  constructor
  · change 0 < pages.list.length
    omega
  · exact List.head?_eq_getElem?
  · rfl
  · change "Далее" = if 0 + 1 = pages.list.length then "Добро пожаловать!" else "Далее"
    rw [if_neg (by omega)]
  · change false = true ↔ 0 + 1 = pages.list.length
    refine iff_of_false Bool.false_ne_true ?_
    omega

private theorem consistent_setCurrentPage {page : Nat} (inside : page < pages.list.length) :
    Consistent pages
      { onboarding.setCurrentPage pages page with visible := pages.list[page]? } := by
  have last : (page == pages.list.length - 1) = true ↔ page + 1 = pages.list.length := by
    rw [beq_iff_eq]
    omega
  constructor
  · exact inside
  · rfl
  · rfl
  · change (if (page == pages.list.length - 1) = true then _ else _) = _
    by_cases final : page + 1 = pages.list.length
    · rw [if_pos (last.mpr final)]
      exact (if_pos final).symm
    · rw [if_neg fun here => final (last.mp here)]
      exact (if_neg final).symm
  · exact last

private theorem consistent_finish (consistent : Consistent pages onboarding) (finishes : Nat) :
    Consistent pages { onboarding with finishes := finishes } :=
  ⟨consistent.inside, consistent.visible, consistent.highlighted, consistent.title,
    consistent.skip⟩

private theorem nextButtonTapped_eq (consistent : Consistent pages onboarding) :
    onboarding.nextButtonTapped pages =
      some (if onboarding.currentPage + 1 = pages.list.length then
          { onboarding with finishes := onboarding.finishes + 1 }
        else
          { onboarding.setCurrentPage pages (onboarding.currentPage + 1) with
            visible := pages.list[onboarding.currentPage + 1]? }) := by
  have inside := consistent.inside
  unfold Onboarding.nextButtonTapped
  by_cases last : onboarding.currentPage + 1 = pages.list.length
  · have here : onboarding.currentPage = pages.list.length - 1 := by omega
    rw [if_pos here, if_pos last]
  · have here : onboarding.currentPage ≠ pages.list.length - 1 := by omega
    have more : onboarding.currentPage + 1 < pages.list.length := by omega
    rw [if_neg here, if_neg last, List.getElem?_eq_getElem more]
    rfl

/-! ### The circle of the pages -/

variable [DecidableEq Page]

private theorem firstIndex_getElem (pages : Pages Page) {index : Nat}
    (inside : index < pages.list.length) :
    pages.firstIndex pages.list[index] = some index := by
  unfold Pages.firstIndex
  rw [List.idxOf?_eq_some_iff]
  refine ⟨inside, rfl, ?_⟩
  intro earlier before same
  have equal := pages.nodup.getElem_inj_iff.mp same
  omega

private theorem viewControllerAfter_eq (pages : Pages Page) {index : Nat}
    (inside : index < pages.list.length) :
    pages.viewControllerAfter pages.list[index] =
      some (pages.list.next pages.list[index] (List.getElem_mem inside)) := by
  unfold Pages.viewControllerAfter
  rw [firstIndex_getElem pages inside, List.next_getElem pages.list pages.nodup index inside]
  simp only
  split
  · rename_i before_last
    have small : index + 1 < pages.list.length := by omega
    rw [List.getElem?_eq_getElem small]
    simp only [Nat.mod_eq_of_lt small]
  · rename_i last
    have same : index + 1 = pages.list.length := by omega
    have positive : 0 < pages.list.length := by omega
    rw [List.head?_eq_getElem?, List.getElem?_eq_getElem positive]
    simp only [same, Nat.mod_self]

private theorem viewControllerBefore_eq (pages : Pages Page) {index : Nat}
    (inside : index < pages.list.length) :
    pages.viewControllerBefore pages.list[index] =
      some (pages.list.prev pages.list[index] (List.getElem_mem inside)) := by
  unfold Pages.viewControllerBefore
  rw [firstIndex_getElem pages inside, List.prev_getElem pages.list pages.nodup index inside]
  simp only
  split
  · rename_i positive
    have small : index - 1 < pages.list.length := by omega
    have around : (index + (pages.list.length - 1)) % pages.list.length = index - 1 := by
      have split_off : index + (pages.list.length - 1) = index - 1 + pages.list.length := by omega
      rw [split_off, Nat.add_mod_right, Nat.mod_eq_of_lt small]
    rw [List.getElem?_eq_getElem small]
    simp only [around]
  · rename_i zero
    have small : pages.list.length - 1 < pages.list.length := by omega
    have around : (index + (pages.list.length - 1)) % pages.list.length =
        pages.list.length - 1 := by
      have only : index + (pages.list.length - 1) = pages.list.length - 1 := by omega
      rw [only, Nat.mod_eq_of_lt small]
    rw [List.getLast?_eq_getElem?, List.getElem?_eq_getElem small]
    simp only [around]

def turned (count : Nat) (forward : Bool) (page : Nat) : Nat :=
  if forward then (page + 1) % count else (page + (count - 1)) % count

private theorem turned_lt {count : Nat} (positive : 0 < count) (forward : Bool) (page : Nat) :
    turned count forward page < count := by
  unfold turned
  split
  · exact Nat.mod_lt _ positive
  · exact Nat.mod_lt _ positive

private theorem offered_eq (pages : Pages Page) (forward : Bool) {index : Nat}
    (inside : index < pages.list.length) :
    pages.offered forward pages.list[index] =
      pages.list[turned pages.list.length forward index]? := by
  have positive : 0 < pages.list.length := by omega
  rw [List.getElem?_eq_getElem (turned_lt positive forward index)]
  cases forward with
  | true =>
      change pages.viewControllerAfter pages.list[index] = _
      rw [viewControllerAfter_eq pages inside,
        List.next_getElem pages.list pages.nodup index inside]
      rfl
  | false =>
      change pages.viewControllerBefore pages.list[index] = _
      rw [viewControllerBefore_eq pages inside,
        List.prev_getElem pages.list pages.nodup index inside]
      rfl

/-! ### One step -/

private theorem swipe_eq (consistent : Consistent pages onboarding) (forward completed : Bool) :
    onboarding.swipe pages forward completed =
      some (if completed then
          { onboarding.setCurrentPage pages
              (turned pages.list.length forward onboarding.currentPage) with
            visible := pages.list[turned pages.list.length forward onboarding.currentPage]? }
        else onboarding) := by
  have inside := consistent.inside
  have positive : 0 < pages.list.length := by omega
  have lands := turned_lt positive forward onboarding.currentPage
  have shown : onboarding.visible = some pages.list[onboarding.currentPage] := by
    rw [consistent.visible, List.getElem?_eq_getElem inside]
  have offered := offered_eq pages forward inside
  rw [List.getElem?_eq_getElem lands] at offered ⊢
  unfold Onboarding.swipe
  rw [shown, Option.bind_eq_bind, Option.bind_some, offered]
  cases completed with
  | true =>
      simp only [Option.bind_some, Onboarding.didFinishAnimating, if_true,
        firstIndex_getElem pages lands]
      rfl
  | false =>
      simp only [Option.bind_some, Onboarding.didFinishAnimating, Bool.false_eq_true, if_false]
      rw [← shown]
      rfl

private theorem consistent_step {action : Action} (consistent : Consistent pages onboarding)
    (taken : step pages onboarding action = some next) : Consistent pages next := by
  have inside := consistent.inside
  cases action with
  | nextButtonTapped =>
      simp only [step, nextButtonTapped_eq consistent] at taken
      rw [← Option.some.inj taken]
      split
      · exact consistent_finish consistent _
      · exact consistent_setCurrentPage (by omega)
  | skipButtonTapped =>
      simp only [step] at taken
      split at taken
      · cases taken
      · rw [← Option.some.inj taken]
        exact consistent_finish consistent _
  | swipe forward completed =>
      simp only [step, swipe_eq consistent] at taken
      rw [← Option.some.inj taken]
      split
      · exact consistent_setCurrentPage (turned_lt (by omega) forward _)
      · exact consistent

private theorem consistent_run {actions : List Action} {reached : Onboarding Page}
    (arrived : run (step pages) (.viewDidLoad pages) actions = some reached) :
    Consistent pages reached := by
  have kept : ∀ (onboarding : Onboarding Page) (action : Action) (next : Onboarding Page),
      Consistent pages onboarding → step pages onboarding action = some next →
        Consistent pages next :=
    fun _ _ _ consistent taken => consistent_step consistent taken
  exact run_invariant (Consistent pages) kept (consistent_viewDidLoad pages) arrived

private theorem finishes_of_changed {action : Action} (consistent : Consistent pages onboarding)
    (taken : step pages onboarding action = some next)
    (changed : next.finishes ≠ onboarding.finishes) :
    (action = .nextButtonTapped ∧ onboarding.currentPage + 1 = pages.list.length) ∨
      (action = .skipButtonTapped ∧ onboarding.currentPage + 1 ≠ pages.list.length) := by
  cases action with
  | nextButtonTapped =>
      simp only [step, nextButtonTapped_eq consistent] at taken
      split at taken
      · rename_i last
        exact Or.inl ⟨rfl, last⟩
      · rw [← Option.some.inj taken] at changed
        exact absurd rfl changed
  | skipButtonTapped =>
      simp only [step] at taken
      split at taken
      · cases taken
      · rename_i offered
        exact Or.inr ⟨rfl, fun last => offered (consistent.skip.mpr last)⟩
  | swipe forward completed =>
      simp only [step, swipe_eq consistent] at taken
      rw [← Option.some.inj taken] at changed
      split at changed
      · exact absurd rfl changed
      · exact absurd rfl changed

/-! ### Whole runs -/

/-- In every run the page, its number, the page control and the buttons agree, neither the
next button nor a swipe traps, and only the next button of the last page and the skip button
of the others finish the onboarding. -/
theorem pages_consistent (pages : Pages Page) (actions : List Action) (reached : Onboarding Page)
    (arrived : run (step pages) (.viewDidLoad pages) actions = some reached) :
    Consistent pages reached ∧
      (step pages reached .nextButtonTapped).isSome ∧
      (∀ forward completed, (step pages reached (.swipe forward completed)).isSome) ∧
      ∀ action next, step pages reached action = some next → next.finishes ≠ reached.finishes →
        (action = .nextButtonTapped ∧ reached.currentPage + 1 = pages.list.length) ∨
          (action = .skipButtonTapped ∧ reached.currentPage + 1 ≠ pages.list.length) := by
  have consistent := consistent_run arrived
  refine ⟨consistent, ?_, ?_, ?_⟩
  · simp only [step, nextButtonTapped_eq consistent, Option.isSome_some]
  · intro forward completed
    simp only [step, swipe_eq consistent, Option.isSome_some]
  · intro action next taken changed
    exact finishes_of_changed consistent taken changed

def readThrough : List Action := [.nextButtonTapped, .nextButtonTapped, .nextButtonTapped]

theorem pages_consistent_readThrough :
    ∃ reached, run (step onboardingPages) (.viewDidLoad onboardingPages) readThrough =
        some reached ∧ Consistent onboardingPages reached ∧
      (step onboardingPages reached .nextButtonTapped).isSome ∧
      (∀ forward completed, (step onboardingPages reached (.swipe forward completed)).isSome) ∧
      ∀ action next, step onboardingPages reached action = some next →
        next.finishes ≠ reached.finishes →
          (action = .nextButtonTapped ∧
            reached.currentPage + 1 = onboardingPages.list.length) ∨
          (action = .skipButtonTapped ∧
            reached.currentPage + 1 ≠ onboardingPages.list.length) := by
  obtain ⟨reached, arrived⟩ : ∃ reached,
      run (step onboardingPages) (.viewDidLoad onboardingPages) readThrough = some reached :=
    ⟨_, rfl⟩
  exact ⟨reached, arrived, pages_consistent onboardingPages readThrough reached arrived⟩

/-- Completed swipes count around the circle, in whatever order they are made. -/
private theorem exists_turned (forwards : List Bool) (consistent : Consistent pages onboarding) :
    ∃ last, run (step pages) onboarding (forwards.map fun forward => .swipe forward true) =
        some last ∧ Consistent pages last ∧
      last.currentPage = (onboarding.currentPage + forwards.count true +
        (pages.list.length - 1) * forwards.count false) % pages.list.length := by
  induction forwards generalizing onboarding with
  | nil =>
      refine ⟨onboarding, rfl, consistent, ?_⟩
      exact (Nat.mod_eq_of_lt consistent.inside).symm
  | cons forward rest ih =>
      have inside := consistent.inside
      have taken : step pages onboarding (.swipe forward true) = some _ :=
        swipe_eq consistent forward true
      obtain ⟨last, arrived, final, counted⟩ := ih (consistent_step consistent taken)
      refine ⟨last, ?_, final, ?_⟩
      · rw [List.map_cons, run_cons_of_step _ taken]
        exact arrived
      · have size : pages.list.length - 1 + 1 = pages.list.length := by omega
        rw [counted]
        change (turned pages.list.length forward onboarding.currentPage + _ + _) % _ = _
        cases forward with
        | true =>
            rw [List.count_cons_self, List.count_cons_of_ne (by decide)]
            change ((onboarding.currentPage + 1) % _ + _ + _) % _ = _
            rw [Nat.add_assoc, Nat.mod_add_mod]
            congr 1
            generalize (pages.list.length - 1) * rest.count false = back
            omega
        | false =>
            rw [List.count_cons_self, List.count_cons_of_ne (by decide), Nat.mul_succ]
            change ((onboarding.currentPage + (pages.list.length - 1)) % _ + _ + _) % _ = _
            rw [Nat.add_assoc, Nat.mod_add_mod]
            congr 1
            generalize (pages.list.length - 1) * rest.count false = back
            omega

/-- From any state that can be reached, completed swipes never trap, and lead to the page at
the place that they count around the circle, forward less backward, in whatever order. -/
theorem swipes_turn (pages : Pages Page) (actions : List Action) (reached : Onboarding Page)
    (arrived : run (step pages) (.viewDidLoad pages) actions = some reached)
    (forwards : List Bool) :
    ∃ last, run (step pages) reached (forwards.map fun forward => .swipe forward true) =
        some last ∧
      (last.currentPage : Int) = ((reached.currentPage : Int) + forwards.count true -
        forwards.count false) % pages.list.length ∧
      last.visible = pages.list[last.currentPage]? := by
  obtain ⟨last, ran, consistent, counted⟩ := exists_turned forwards (consistent_run arrived)
  refine ⟨last, ran, ?_, consistent.visible⟩
  have positive : 0 < pages.list.length := by
    have several := pages.several
    omega
  have whole : ((pages.list.length - 1 : Nat) : Int) = (pages.list.length : Int) - 1 := by omega
  rw [counted]
  push_cast
  rw [whole]
  have regrouped : (reached.currentPage : Int) + forwards.count true +
      ((pages.list.length : Int) - 1) * forwards.count false =
        (reached.currentPage : Int) + forwards.count true - forwards.count false +
          forwards.count false * pages.list.length := by ring
  rw [regrouped]
  exact Int.add_mul_emod_self_right _ _ _

theorem swipes_turn_readThrough :
    ∃ reached, run (step onboardingPages) (.viewDidLoad onboardingPages) readThrough =
        some reached ∧
      ∃ last, run (step onboardingPages) reached
          ([true, false, false, true, true].map fun forward => .swipe forward true) = some last ∧
        (last.currentPage : Int) = ((reached.currentPage : Int) +
          [true, false, false, true, true].count true -
            [true, false, false, true, true].count false) % onboardingPages.list.length ∧
        last.visible = onboardingPages.list[last.currentPage]? := by
  obtain ⟨reached, arrived⟩ : ∃ reached,
      run (step onboardingPages) (.viewDidLoad onboardingPages) readThrough = some reached :=
    ⟨_, rfl⟩
  exact ⟨reached, arrived, swipes_turn onboardingPages readThrough reached arrived _⟩

end SmartMeal.OnboardingPages
