/-
The bookmarks of recycled recipe cells.

A view model's flag notifies only the listener bound last, and a listener stays bound
when its cell is given another view model.  A notified cell shows the flag of the view
model it displays by then, so a stale listener repeats what is right for its cell, and
the cell configured last for a view model is always the one that is notified.
-/

import SmartMeal.PayloadSafety
import SmartMeal.Library.Run
import Mathlib.Logic.Function.Basic

namespace SmartMeal.RecipeCells

open PartialStep ObjectHeap

def bookmark (isFavorite : Bool) : String := if isFavorite then "bookmark.fill" else "bookmark"

structure RecipeCell where
  viewModel : Option Ref
  content : RecipeCellContent

def RecipeCell.init : RecipeCell := ⟨none, ⟨"", "", "", ""⟩⟩

/-- `listeners` holds the one listener of every flag, the cell that bound it;
`configured` is history. -/
structure Cells where
  viewModels : List CollectionCellViewModel
  cells : List RecipeCell
  listeners : Ref → Option Nat
  configured : List (Nat × Ref)

def launch (viewModels : List CollectionCellViewModel) (count : Nat) : Cells :=
  { viewModels := viewModels
    cells := List.replicate count RecipeCell.init
    listeners := fun _ => none
    configured := [] }

/-- `RecipeCell.updateFavoriteButton`; traps without a view model. -/
def updateFavoriteButton (viewModels : List CollectionCellViewModel) (cell : RecipeCell) :
    Option RecipeCell := do
  let ref ← cell.viewModel
  let viewModel ← viewModels[ref]?
  pure { cell with
    content := { cell.content with favoriteButton := bookmark viewModel.isFavorite } }

/-- `RecipeCell.configure(with:)`; traps without an image address. -/
def configure (cell : Nat) (ref : Ref) (state : Cells) : Option Cells := do
  let _ ← state.cells[cell]?
  let viewModel ← state.viewModels[ref]?
  let content ← RecipeCellContent.configure viewModel
  pure { state with
    cells := state.cells.set cell ⟨some ref, content⟩
    listeners := Function.update state.listeners ref (some cell)
    configured := state.configured ++ [(cell, ref)] }

/-- `isFavorite.value = value`, whose observer calls the listener. -/
def assign (ref : Ref) (value : Bool) (state : Cells) : Option Cells := do
  let viewModel ← state.viewModels[ref]?
  let viewModels := state.viewModels.set ref { viewModel with isFavorite := value }
  match state.listeners ref with
  | none => pure { state with viewModels := viewModels }
  | some cell =>
      let listening ← state.cells[cell]?
      let updated ← updateFavoriteButton viewModels listening
      pure { state with viewModels := viewModels, cells := state.cells.set cell updated }

inductive Action where
  | configure (cell : Nat) (ref : Ref)
  | assign (ref : Ref) (value : Bool)

def step : Transition Cells Action
  | state, .configure cell ref => configure cell ref state
  | state, .assign ref value => assign ref value state

def lastConfigured (configured : List (Nat × Ref)) (ref : Ref) : Option Nat :=
  configured.foldl (fun last entry => if entry.2 = ref then some entry.1 else last) none

def ShowsFlag (state : Cells) (cell : RecipeCell) (ref : Ref) : Prop :=
  ∀ viewModel, state.viewModels[ref]? = some viewModel →
    cell.content.favoriteButton = bookmark viewModel.isFavorite

/-- The cell configured last for the view model it displays shows the current flag. -/
def LastShowsFlag (state : Cells) : Prop :=
  ∀ index cell ref, state.cells[index]? = some cell → cell.viewModel = some ref →
    lastConfigured state.configured ref = some index → ShowsFlag state cell ref

/-- A cell that displays another view model than the one assigned keeps its icon, or is
given the one of its own view model. -/
def AssignsOwnFlag (state : Cells) (action : Action) : Prop :=
  ∀ ref value next, action = .assign ref value → step state action = some next →
    ∀ (index : Nat) (before after : RecipeCell) (other : Ref),
      state.cells[index]? = some before → next.cells[index]? = some after →
        after.viewModel = some other → other ≠ ref →
          after.content.favoriteButton = before.content.favoriteButton ∨ ShowsFlag next after other

def AssignsFlags (state : Cells) : Prop :=
  ∀ ref value, ref < state.viewModels.length → (step state (.assign ref value)).isSome

/-! ### The operations -/

variable {state next : Cells} {cell : Nat} {ref : Ref} {value : Bool}

private theorem lastConfigured_snoc (configured : List (Nat × Ref)) (entry : Nat × Ref)
    (ref : Ref) :
    lastConfigured (configured ++ [entry]) ref =
      if entry.2 = ref then some entry.1 else lastConfigured configured ref := by
  unfold lastConfigured
  rw [List.foldl_append]
  rfl

private theorem updateFavoriteButton_eq_some {viewModels : List CollectionCellViewModel}
    {before after : RecipeCell} (updated : updateFavoriteButton viewModels before = some after) :
    ∃ ref viewModel, before.viewModel = some ref ∧ viewModels[ref]? = some viewModel ∧
      after.viewModel = some ref ∧
      after.content.favoriteButton = bookmark viewModel.isFavorite := by
  obtain ⟨ref, displays, later⟩ := Option.bind_eq_some_iff.mp updated
  obtain ⟨viewModel, found, same⟩ := Option.bind_eq_some_iff.mp later
  cases same
  exact ⟨ref, viewModel, displays, found, displays, rfl⟩

private theorem favoriteButton_of_configure {viewModel : CollectionCellViewModel}
    {content : RecipeCellContent} (configured : RecipeCellContent.configure viewModel = some content) :
    content.favoriteButton = bookmark viewModel.isFavorite := by
  obtain ⟨imageAddress, _, same⟩ := Option.bind_eq_some_iff.mp configured
  cases same
  rfl

theorem configure_eq_some (taken : configure cell ref state = some next) :
    ∃ viewModel content, state.viewModels[ref]? = some viewModel ∧
      cell < state.cells.length ∧ RecipeCellContent.configure viewModel = some content ∧
      next = { state with
        cells := state.cells.set cell ⟨some ref, content⟩
        listeners := Function.update state.listeners ref (some cell)
        configured := state.configured ++ [(cell, ref)] } := by
  obtain ⟨old, there, later⟩ := Option.bind_eq_some_iff.mp taken
  obtain ⟨viewModel, found, last⟩ := Option.bind_eq_some_iff.mp later
  obtain ⟨content, configured, same⟩ := Option.bind_eq_some_iff.mp last
  exact ⟨viewModel, content, found, (List.getElem?_eq_some_iff.mp there).1, configured,
    (Option.some.inj same).symm⟩

/-- What an assignment does: at most the listening cell changes, and it then shows the
flag of the view model that it displays. -/
private theorem assign_eq_some (taken : assign ref value state = some next) :
    next.configured = state.configured ∧ next.listeners = state.listeners ∧
    next.viewModels.length = state.viewModels.length ∧
    (∀ other, other ≠ ref → next.viewModels[other]? = state.viewModels[other]?) ∧
    ((state.listeners ref = none ∧ next.cells = state.cells) ∨
      ∃ listener before after, state.listeners ref = some listener ∧
        state.cells[listener]? = some before ∧ next.cells = state.cells.set listener after ∧
        after.viewModel = before.viewModel ∧
        ∃ own, before.viewModel = some own ∧ ShowsFlag next after own) := by
  obtain ⟨viewModel, found, later⟩ := Option.bind_eq_some_iff.mp taken
  cases listens : state.listeners ref with
  | none =>
      simp only [listens] at later
      cases Option.some.inj later
      exact ⟨rfl, rfl, List.length_set, fun other different =>
        List.getElem?_set_ne (Ne.symm different), Or.inl ⟨rfl, rfl⟩⟩
  | some listener =>
      simp only [listens] at later
      obtain ⟨before, there, last⟩ := Option.bind_eq_some_iff.mp later
      obtain ⟨after, updated, same⟩ := Option.bind_eq_some_iff.mp last
      cases Option.some.inj same
      obtain ⟨own, shown, displays, foundOwn, displaysAfter, icon⟩ :=
        updateFavoriteButton_eq_some updated
      refine ⟨rfl, rfl, List.length_set, fun other different =>
        List.getElem?_set_ne (Ne.symm different),
        Or.inr ⟨listener, before, after, rfl, there, rfl, ?_, own, displays, ?_⟩⟩
      · rw [displaysAfter, displays]
      · intro current foundCurrent
        rw [icon]
        rw [Option.some.inj (foundCurrent.symm.trans foundOwn)]

private theorem cell_assign {index : Nat} {after : RecipeCell}
    (taken : assign ref value state = some next) (stands : next.cells[index]? = some after) :
    (state.listeners ref ≠ some index ∧ state.cells[index]? = some after) ∨
      ∃ own, after.viewModel = some own ∧ ShowsFlag next after own := by
  obtain ⟨_, _, _, _, changed⟩ := assign_eq_some taken
  rcases changed with ⟨silent, kept⟩ | ⟨listener, before, updated, listens, there, set, own⟩
  · refine Or.inl ⟨fun heard => ?_, kept ▸ stands⟩
    rw [silent] at heard
    cases heard
  · by_cases same : index = listener
    · subst same
      rw [set, List.getElem?_set_self (List.getElem?_eq_some_iff.mp there).1] at stands
      cases stands
      obtain ⟨displaysSame, displayed, displaysOwn, showsOwn⟩ := own
      exact Or.inr ⟨displayed, displaysSame.trans displaysOwn, showsOwn⟩
    · rw [set, List.getElem?_set_ne (Ne.symm same)] at stands
      refine Or.inl ⟨fun heard => ?_, stands⟩
      rw [listens] at heard
      exact same (Option.some.inj heard).symm

/-! ### The invariant -/

def Displays (state : Cells) (index : Nat) : Prop :=
  ∃ cell own, state.cells[index]? = some cell ∧ cell.viewModel = some own ∧
    own < state.viewModels.length

/-- The listener of a flag is the cell configured last for its view model, and it shows
the flag as long as it displays that view model. -/
structure Listening (state : Cells) : Prop where
  displays : ∀ ref listener, state.listeners ref = some listener → Displays state listener
  last : ∀ ref, state.listeners ref = lastConfigured state.configured ref
  shows : LastShowsFlag state

theorem listening_launch (viewModels : List CollectionCellViewModel) (count : Nat) :
    Listening (launch viewModels count) where
  displays := fun _ _ impossible => by cases impossible
  last := fun _ => rfl
  shows := fun _ _ _ _ _ impossible => by cases impossible

theorem listening_configure (listening : Listening state)
    (taken : configure cell ref state = some next) : Listening next := by
  obtain ⟨viewModel, content, found, inside, configured, rfl⟩ := configure_eq_some taken
  refine ⟨?_, ?_, ?_⟩
  · intro other listener listens
    change Function.update state.listeners ref (some cell) other = some listener at listens
    change ∃ shown own, (state.cells.set cell ⟨some ref, content⟩)[listener]? = some shown ∧
      shown.viewModel = some own ∧ own < state.viewModels.length
    have exists_ref : ref < state.viewModels.length := (List.getElem?_eq_some_iff.mp found).1
    by_cases same : listener = cell
    · subst same
      exact ⟨_, ref, List.getElem?_set_self inside, rfl, exists_ref⟩
    · rw [List.getElem?_set_ne (Ne.symm same)]
      by_cases assigned : other = ref
      · rw [assigned, Function.update_self] at listens
        exact absurd (Option.some.inj listens).symm same
      · rw [Function.update_of_ne assigned] at listens
        exact listening.displays other listener listens
  · intro other
    change Function.update state.listeners ref (some cell) other =
      lastConfigured (state.configured ++ [(cell, ref)]) other
    rw [lastConfigured_snoc]
    by_cases same : ref = other
    · subst same
      rw [Function.update_self, if_pos rfl]
    · rw [Function.update_of_ne (Ne.symm same), if_neg same]
      exact listening.last other
  · intro index shown other there displays last current foundCurrent
    change (state.cells.set cell ⟨some ref, content⟩)[index]? = some shown at there
    change state.viewModels[other]? = some current at foundCurrent
    change lastConfigured (state.configured ++ [(cell, ref)]) other = some index at last
    by_cases same : index = cell
    · subst same
      rw [List.getElem?_set_self inside] at there
      cases there
      cases displays
      rw [favoriteButton_of_configure configured,
        Option.some.inj (foundCurrent.symm.trans found)]
    · rw [List.getElem?_set_ne (Ne.symm same)] at there
      rw [lastConfigured_snoc] at last
      split at last
      · exact absurd (Option.some.inj last).symm same
      · exact listening.shows index shown other there displays last current foundCurrent

private theorem displays_assign {index : Nat} (taken : assign ref value state = some next)
    (displayed : Displays state index) : Displays next index := by
  obtain ⟨shown, own, there, displays, exists_own⟩ := displayed
  obtain ⟨_, _, length, _, changed⟩ := assign_eq_some taken
  unfold Displays
  rw [length]
  rcases changed with ⟨_, kept⟩ | ⟨updated, before, after, _, stood, set, displaysSame, _⟩
  · rw [kept]
    exact ⟨shown, own, there, displays, exists_own⟩
  · rw [set]
    by_cases same : index = updated
    · subst same
      cases Option.some.inj (there.symm.trans stood)
      exact ⟨after, own, List.getElem?_set_self (List.getElem?_eq_some_iff.mp stood).1,
        displaysSame.trans displays, exists_own⟩
    · rw [List.getElem?_set_ne (Ne.symm same)]
      exact ⟨shown, own, there, displays, exists_own⟩

theorem listening_assign (listening : Listening state)
    (taken : assign ref value state = some next) : Listening next := by
  obtain ⟨configured, listeners, _, others, _⟩ := assign_eq_some taken
  refine ⟨?_, ?_, ?_⟩
  · intro other listener listens
    rw [listeners] at listens
    exact displays_assign taken (listening.displays other listener listens)
  · intro other
    rw [configured, listeners]
    exact listening.last other
  · intro index shown other there displays last
    rw [configured] at last
    rcases cell_assign taken there with ⟨unheard, stood⟩ | ⟨own, displaysOwn, showsOwn⟩
    · -- The cell configured last for the assigned view model would have been notified.
      have different : other ≠ ref := by
        intro same
        rw [same, ← listening.last ref] at last
        exact unheard last
      intro current foundCurrent
      rw [others other different] at foundCurrent
      exact listening.shows index shown other stood displays last current foundCurrent
    · rw [displaysOwn] at displays
      cases displays
      exact showsOwn

private theorem listening_step {action : Action} (listening : Listening state)
    (taken : step state action = some next) : Listening next := by
  cases action with
  | configure cell ref => exact listening_configure listening taken
  | assign ref value => exact listening_assign listening taken

private theorem assignsOwnFlag (state : Cells) (action : Action) : AssignsOwnFlag state action := by
  rintro ref value next rfl taken index before after other stood stands displays different
  rcases cell_assign taken stands with ⟨_, kept⟩ | ⟨own, displaysOwn, showsOwn⟩
  · rw [stood] at kept
    cases kept
    exact Or.inl rfl
  · rw [displaysOwn] at displays
    cases displays
    exact Or.inr showsOwn

theorem assignsFlags_of_listening (listening : Listening state) : AssignsFlags state := by
  intro ref value inside
  unfold step assign
  simp only [List.getElem?_eq_getElem inside]
  cases listens : state.listeners ref with
  | none => rfl
  | some listener =>
      obtain ⟨cell, own, there, displays, exists_own⟩ := listening.displays ref listener listens
      have present : own < (state.viewModels.set ref
          { state.viewModels[ref] with isFavorite := value }).length := by
        rw [List.length_set]
        exact exists_own
      simp only [Option.bind_eq_bind, Option.bind_some, there, updateFavoriteButton, displays,
        List.getElem?_eq_getElem present]
      rfl

/-- Whatever cells are configured and flags assigned, after every step the cell configured
last for the view model it displays shows that view model's flag, and no assignment traps
or gives a cell the icon of another view model than its own. -/
theorem bookmarks_are_own (viewModels : List CollectionCellViewModel) (count : Nat)
    (actions : List Action) :
    Throughout step (fun state => LastShowsFlag state ∧ AssignsFlags state)
        (launch viewModels count) actions ∧
      EachStep step AssignsOwnFlag (launch viewModels count) actions := by
  constructor
  · apply throughout_mono Listening
      (fun _ listening => ⟨listening.shows, assignsFlags_of_listening listening⟩)
    exact throughout_of_eachStep Listening
      (fun _ _ _ listening _ taken => listening_step listening taken)
      (listening_launch viewModels count)
      (eachStep_of_forall (fun _ _ => trivial) _ actions)
  · exact eachStep_of_forall assignsOwnFlag _ actions

end SmartMeal.RecipeCells
