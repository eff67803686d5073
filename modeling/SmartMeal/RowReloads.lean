/-
The items that a table cell reloads after its favorites changed.

The indices are collected when the notification arrives, against the row that the
cell shows then, and the block that reloads them runs later, against the row that the
cell shows by that time.  In between the table may give the cell another row.
-/

import SmartMeal.Screens

namespace SmartMeal.RowReloads

open PartialStep ObjectHeap Screens

/-- A queued block; `recipesViewModels` is history, the row the indices were collected
against. -/
structure Block where
  indexPathsToReload : List Nat
  recipesViewModels : List Ref

def Block.Fits (block : Block) (held : List Ref) : Prop :=
  ∀ index ∈ block.indexPathsToReload, ∃ ref, block.recipesViewModels[index]? = some ref ∧
    held[index]? = some ref

/-- The observers of all table cells, one after the other, each with the block it queues. -/
def updateCells (defaults : UserDefaults) (cells : List (List Ref))
    (viewModels : List CollectionCellViewModel) : List CollectionCellViewModel × List Block :=
  match cells with
  | [] => (viewModels, [])
  | held :: rest =>
      let (updated, indexPathsToReload) := cellUpdateFavorites defaults 0 held viewModels
      let (final, blocks) := updateCells defaults rest updated
      (final, ⟨indexPathsToReload, held⟩ :: blocks)

structure Rows where
  screens : Screens
  queues : List (List Block)

namespace Rows

def launch (defaults : UserDefaults) : Rows := { screens := .launch defaults, queues := [] }

def queue (rows : Rows) (cell : Nat) : List Block := (rows.queues[cell]?).getD []

def posted (rows : Rows) (defaults : UserDefaults) : List (List Block) :=
  List.zipWith (fun queue block => queue ++ [block]) rows.queues
    (updateCells defaults rows.screens.cells rows.screens.viewModels).2

/-- A queued block keeps its cell alive, so only a cell without one is released. -/
def queuesAfter (rows : Rows) : Screens.Action → Option (List (List Block))
  | .configure none _ => some (rows.queues ++ [[]])
  | .releaseCell cell => if rows.queue cell = [] then some (rows.queues.eraseIdx cell) else none
  | .toggleFavorite ref =>
      some (rows.posted (rows.screens.changedDefaults (.toggleFavorite ref)))
  | .synced answer => some (rows.posted (rows.screens.changedDefaults (.synced answer)))
  | _ => some rows.queues

end Rows

inductive Action where
  | update (action : Screens.Action)
  | reloadItems (cell : Nat)

def step (text : TextSearch) : Transition Rows Action
  | rows, .update action =>
      (Screens.step text rows.screens action).bind fun screens =>
        (rows.queuesAfter action).map fun queues => { screens := screens, queues := queues }
  | rows, .reloadItems cell =>
      match rows.queue cell with
      | [] => none
      | _ :: rest => some { rows with queues := rows.queues.set cell rest }

/-- Every index handed to `reloadItems(at:)` is that of an item of the cell, and the item
is the view model whose flag change put the index on the list. -/
def ReloadsItsItems (rows : Rows) : Action → Prop
  | .reloadItems cell => ∀ held block, rows.screens.cells[cell]? = some held →
      (rows.queue cell).head? = some block → ∀ index ∈ block.indexPathsToReload,
        index < held.length ∧ held[index]? = block.recipesViewModels[index]?
  | _ => True

def QueuedFit (rows : Rows) : Prop :=
  ∀ cell held, rows.screens.cells[cell]? = some held → ∀ block ∈ rows.queue cell, block.Fits held

/-- A reused cell is given a row that has, at every index its queued blocks will reload,
the view model the index was collected for. -/
def KeepsItems (rows : Rows) : Action → Prop
  | .update (.configure (some cell) atSection) => ∀ block ∈ rows.queue cell,
      block.Fits (rows.screens.getTableCellModel atSection).collecionViewCellModels
  | _ => True

/-! ### The observers -/

private theorem updateCells_viewModels (defaults : UserDefaults) (cells : List (List Ref))
    (viewModels : List CollectionCellViewModel) :
    (updateCells defaults cells viewModels).1 =
      cells.foldl (fun viewModels held => (cellUpdateFavorites defaults 0 held viewModels).1)
        viewModels := by
  induction cells generalizing viewModels with
  | nil => rfl
  | cons held rest ih => exact ih _

theorem cellsUpdateFavorites_eq (screens : Screens) :
    screens.cellsUpdateFavorites.viewModels =
      (updateCells screens.defaults screens.cells screens.viewModels).1 :=
  (updateCells_viewModels screens.defaults screens.cells screens.viewModels).symm

private theorem length_updateCells (defaults : UserDefaults) (cells : List (List Ref))
    (viewModels : List CollectionCellViewModel) :
    (updateCells defaults cells viewModels).2.length = cells.length := by
  induction cells generalizing viewModels with
  | nil => rfl
  | cons held rest ih => exact congrArg Nat.succ (ih _)

private theorem mem_indices_bound {defaults : UserDefaults} {start index : Nat}
    {recipesViewModels : List Ref} {viewModels : List CollectionCellViewModel}
    (member : index ∈ (cellUpdateFavorites defaults start recipesViewModels viewModels).2) :
    start ≤ index ∧ index < start + recipesViewModels.length := by
  induction recipesViewModels generalizing start viewModels with
  | nil => cases member
  | cons ref rest ih =>
      rw [List.length_cons]
      have later : ∀ {updated : List CollectionCellViewModel},
          index ∈ (cellUpdateFavorites defaults (start + 1) rest updated).2 →
            start ≤ index ∧ index < start + (rest.length + 1) := by
        intro updated inRest
        have bound := ih inRest
        omega
      unfold cellUpdateFavorites at member
      cases found : viewModels[ref]? with
      | none =>
          rw [found] at member
          exact later member
      | some viewModel =>
          simp only [found] at member
          split at member
          · rcases List.mem_cons.mp member with rfl | inRest
            · omega
            · exact later inRest
          · exact later member

private theorem fits_collected (defaults : UserDefaults) (held : List Ref)
    (viewModels : List CollectionCellViewModel) :
    Block.Fits ⟨(cellUpdateFavorites defaults 0 held viewModels).2, held⟩ held := by
  intro index member
  have bound := (mem_indices_bound member).2
  rw [Nat.zero_add] at bound
  exact ⟨held[index], List.getElem?_eq_getElem bound, List.getElem?_eq_getElem bound⟩

private theorem fits_updateCells {defaults : UserDefaults} {cells : List (List Ref)}
    {viewModels : List CollectionCellViewModel} {cell : Nat} {held : List Ref} {block : Block}
    (shows : cells[cell]? = some held)
    (queued : (updateCells defaults cells viewModels).2[cell]? = some block) :
    block.Fits held := by
  induction cells generalizing cell viewModels with
  | nil => cases shows
  | cons first rest ih =>
      cases cell with
      | zero =>
          cases shows
          cases queued
          exact fits_collected defaults held viewModels
      | succ cell => exact ih shows queued

/-! ### One step -/

variable {text : TextSearch} {rows next : Rows}

def Aligned (rows : Rows) : Prop := rows.queues.length = rows.screens.cells.length

private theorem step_update {action : Screens.Action}
    (taken : step text rows (.update action) = some next) :
    Screens.step text rows.screens action = some next.screens ∧
      rows.queuesAfter action = some next.queues := by
  obtain ⟨screens, stepped, queued⟩ := Option.bind_eq_some_iff.mp taken
  obtain ⟨queues, after, rfl⟩ := Option.map_eq_some_iff.mp queued
  exact ⟨stepped, after⟩

private theorem step_reloadItems {cell : Nat}
    (taken : step text rows (.reloadItems cell) = some next) :
    ∃ block rest, rows.queue cell = block :: rest ∧
      next = { rows with queues := rows.queues.set cell rest } := by
  simp only [step] at taken
  cases queued : rows.queue cell with
  | nil =>
      rw [queued] at taken
      cases taken
  | cons block rest =>
      rw [queued] at taken
      exact ⟨block, rest, rfl, (Option.some.inj taken).symm⟩

private theorem queue_eq_of_length_le {cell : Nat} (outside : rows.queues.length ≤ cell) :
    rows.queue cell = [] := by
  unfold Rows.queue
  rw [List.getElem?_eq_none outside]
  rfl

private theorem cells_step_favorites {action : Screens.Action}
    (favorites : (∃ ref, action = .toggleFavorite ref) ∨ ∃ answer, action = .synced answer)
    {screens : Screens} (taken : Screens.step text rows.screens action = some screens) :
    screens.cells = rows.screens.cells := by
  rcases favorites with ⟨ref, rfl⟩ | ⟨answer, rfl⟩
  · obtain ⟨viewModel, found, rfl⟩ := step_toggleFavorite taken
    rw [toggleFavorite_eq found]
    rfl
  · rw [step_synced taken]
    rfl

private theorem length_posted (aligned : Aligned rows) (defaults : UserDefaults) :
    (rows.posted defaults).length = rows.screens.cells.length := by
  unfold Rows.posted
  rw [List.length_zipWith, length_updateCells, aligned, Nat.min_self]

private theorem fits_posted (aligned : Aligned rows) (fit : QueuedFit rows)
    (defaults : UserDefaults)
    {cell : Nat} {held : List Ref} (shows : rows.screens.cells[cell]? = some held) :
    ∀ block ∈ ((rows.posted defaults)[cell]?).getD [], block.Fits held := by
  obtain ⟨inside, _⟩ := List.getElem?_eq_some_iff.mp shows
  have inQueues : cell < rows.queues.length := by
    rw [aligned]
    exact inside
  have inBlocks : cell <
      (updateCells defaults rows.screens.cells rows.screens.viewModels).2.length := by
    rw [length_updateCells]
    exact inside
  have queued := List.getElem?_eq_getElem inQueues
  have collected := List.getElem?_eq_getElem inBlocks
  unfold Rows.posted
  rw [List.getElem?_zipWith, queued, collected, Option.getD_some]
  intro block member
  rcases List.mem_append.mp member with older | newest
  · apply fit cell held shows block
    unfold Rows.queue
    rw [queued]
    exact older
  · rw [List.mem_singleton.mp newest]
    exact fits_updateCells shows collected

inductive Changes (rows : Rows) (next : Rows) : Screens.Action → Prop where
  | kept {action : Screens.Action} (cells : next.screens.cells = rows.screens.cells)
      (queues : next.queues = rows.queues)
      (other : ∀ cell atSection, action ≠ .configure (some cell) atSection) :
      Changes rows next action
  | posted {action : Screens.Action} (defaults : UserDefaults)
      (cells : next.screens.cells = rows.screens.cells)
      (queues : next.queues = rows.posted defaults)
      (other : ∀ cell atSection, action ≠ .configure (some cell) atSection) :
      Changes rows next action
  | created (atSection : Nat) (held : List Ref)
      (cells : next.screens.cells = rows.screens.cells ++ [held])
      (queues : next.queues = rows.queues ++ [[]]) :
      Changes rows next (.configure none atSection)
  | reused (cell atSection : Nat)
      (cells : next.screens.cells = rows.screens.cells.set cell
        (rows.screens.getTableCellModel atSection).collecionViewCellModels)
      (queues : next.queues = rows.queues) :
      Changes rows next (.configure (some cell) atSection)
  | released (cell : Nat) (cells : next.screens.cells = rows.screens.cells.eraseIdx cell)
      (queues : next.queues = rows.queues.eraseIdx cell) :
      Changes rows next (.releaseCell cell)

private theorem changes_update {action : Screens.Action}
    (taken : step text rows (.update action) = some next) : Changes rows next action := by
  obtain ⟨stepped, after⟩ := step_update taken
  cases action with
  | toggleFavorite ref =>
      have cells := cells_step_favorites (Or.inl ⟨ref, rfl⟩) stepped
      exact .posted _ cells (Option.some.inj after).symm (fun _ _ same => by cases same)
  | synced answer =>
      have cells := cells_step_favorites (Or.inr ⟨answer, rfl⟩) stepped
      exact .posted _ cells (Option.some.inj after).symm (fun _ _ same => by cases same)
  | configure reused atSection =>
      cases reused with
      | none =>
          have screens := Option.some.inj stepped
          exact .created atSection _ (by rw [← screens]) (Option.some.inj after).symm
      | some cell =>
          have screens := Option.some.inj stepped
          exact .reused cell atSection (by rw [← screens]) (Option.some.inj after).symm
  | releaseCell cell =>
      have screens := Option.some.inj stepped
      simp only [Rows.queuesAfter] at after
      split at after
      · exact .released cell (by rw [← screens]) (Option.some.inj after).symm
      · cases after
  | updateSearchController searchBarText =>
      have screens := Option.some.inj stepped
      obtain ⟨search, recipes, same⟩ := updateSearchController_eq text searchBarText rows.screens
      refine .kept ?_ (Option.some.inj after).symm (fun _ _ same => by cases same)
      rw [← screens, same]
      rfl
  | _ =>
      have screens := Option.some.inj stepped
      refine .kept ?_ (Option.some.inj after).symm (fun _ _ same => by cases same)
      exact (congrArg Screens.cells screens).symm

private theorem aligned_step {action : Action} (aligned : Aligned rows)
    (taken : step text rows action = some next) : Aligned next := by
  unfold Aligned at aligned ⊢
  cases action with
  | reloadItems cell =>
      obtain ⟨block, rest, _, rfl⟩ := step_reloadItems taken
      exact List.length_set.trans aligned
  | update action =>
      cases changes_update taken with
      | kept cells queues other => rw [cells, queues, aligned]
      | posted defaults cells queues other => rw [cells, queues, length_posted aligned]
      | created atSection held cells queues =>
          rw [cells, queues, List.length_append, List.length_append, aligned]
          rfl
      | reused cell atSection cells queues => rw [cells, queues, List.length_set, aligned]
      | released cell cells queues =>
          rw [cells, queues, List.length_eraseIdx, List.length_eraseIdx, aligned]

private theorem keepsItems_of_not_reused {action : Screens.Action}
    (other : ∀ cell atSection, action ≠ .configure (some cell) atSection) :
    KeepsItems rows (.update action) := by
  unfold KeepsItems
  split
  · rename_i cell atSection same
    cases same
    exact absurd rfl (other cell atSection)
  · trivial

private theorem queuedFit_reloadItems {cell : Nat} {block : Block} {rest : List Block}
    (aligned : Aligned rows) (fit : QueuedFit rows) (queued : rows.queue cell = block :: rest) :
    QueuedFit { rows with queues := rows.queues.set cell rest } := by
  intro other held shows left member
  apply fit other held shows left
  by_cases same : other = cell
  · subst same
    have inside : other < rows.queues.length := by
      rw [aligned]
      exact (List.getElem?_eq_some_iff.mp shows).1
    have now : Rows.queue { rows with queues := rows.queues.set other rest } other = rest := by
      unfold Rows.queue
      rw [List.getElem?_set_self inside]
      rfl
    rw [now] at member
    rw [queued]
    exact List.mem_cons_of_mem block member
  · unfold Rows.queue at member ⊢
    rwa [List.getElem?_set_ne (Ne.symm same)] at member

private theorem queuedFit_created {row : List Ref} (aligned : Aligned rows) (fit : QueuedFit rows)
    (cells : next.screens.cells = rows.screens.cells ++ [row])
    (queues : next.queues = rows.queues ++ [[]]) : QueuedFit next := by
  intro cell held shows block member
  unfold Rows.queue at member
  rw [cells] at shows
  rw [queues] at member
  by_cases old : cell < rows.queues.length
  · have oldCell : cell < rows.screens.cells.length := by
      rw [← aligned]
      exact old
    rw [List.getElem?_append_left oldCell] at shows
    rw [List.getElem?_append_left old] at member
    exact fit cell held shows block member
  · rw [List.getElem?_append_right (Nat.le_of_not_lt old)] at member
    cases here : cell - rows.queues.length with
    | zero =>
        rw [here] at member
        cases member
    | succ beyond =>
        rw [here] at member
        cases member

private theorem queuedFit_reused_iff {cell : Nat} {row : List Ref} (aligned : Aligned rows)
    (fit : QueuedFit rows) (cells : next.screens.cells = rows.screens.cells.set cell row)
    (queues : next.queues = rows.queues) :
    QueuedFit next ↔ ∀ block ∈ rows.queue cell, block.Fits row := by
  have queued : ∀ other, next.queue other = rows.queue other := by
    intro other
    unfold Rows.queue
    rw [queues]
  constructor
  · intro fitNext block member
    by_cases inside : cell < rows.screens.cells.length
    · apply fitNext cell
      · rw [cells, List.getElem?_set_self inside]
      · rw [queued]
        exact member
    · have outside : rows.queues.length ≤ cell := by
        rw [aligned]
        exact Nat.le_of_not_lt inside
      rw [queue_eq_of_length_le outside] at member
      cases member
  · intro keeps other held shows
    rw [cells] at shows
    rw [queued]
    by_cases same : other = cell
    · subst same
      obtain ⟨inside, _⟩ := List.getElem?_eq_some_iff.mp shows
      rw [List.length_set] at inside
      rw [List.getElem?_set_self inside] at shows
      rw [← Option.some.inj shows]
      exact keeps
    · rw [List.getElem?_set_ne (Ne.symm same)] at shows
      exact fit other held shows

private theorem queuedFit_released {cell : Nat} (fit : QueuedFit rows)
    (cells : next.screens.cells = rows.screens.cells.eraseIdx cell)
    (queues : next.queues = rows.queues.eraseIdx cell) : QueuedFit next := by
  intro other held shows
  unfold Rows.queue
  rw [cells, List.getElem?_eraseIdx] at shows
  rw [queues, List.getElem?_eraseIdx]
  by_cases before : other < cell
  · rw [if_pos before] at shows ⊢
    exact fit other held shows
  · rw [if_neg before] at shows ⊢
    exact fit (other + 1) held shows

/-- A step keeps every queued block fit exactly when it gives a reused cell a row that
its queued blocks fit. -/
private theorem queuedFit_step {action : Action} (aligned : Aligned rows) (fit : QueuedFit rows)
    (taken : step text rows action = some next) : QueuedFit next ↔ KeepsItems rows action := by
  cases action with
  | reloadItems cell =>
      obtain ⟨block, rest, queued, rfl⟩ := step_reloadItems taken
      exact iff_of_true (queuedFit_reloadItems aligned fit queued) trivial
  | update action =>
      cases changes_update taken with
      | kept cells queues other =>
          apply iff_of_true ?_ (keepsItems_of_not_reused other)
          intro cell held shows
          rw [cells] at shows
          unfold Rows.queue
          rw [queues]
          exact fit cell held shows
      | posted defaults cells queues other =>
          apply iff_of_true ?_ (keepsItems_of_not_reused other)
          intro cell held shows
          rw [cells] at shows
          unfold Rows.queue
          rw [queues]
          exact fits_posted aligned fit defaults shows
      | created atSection row cells queues =>
          exact iff_of_true (queuedFit_created aligned fit cells queues) trivial
      | reused cell atSection cells queues => exact queuedFit_reused_iff aligned fit cells queues
      | released cell cells queues => exact iff_of_true (queuedFit_released fit cells queues) trivial

private theorem reloadsItsItems_of_queuedFit (action : Action) (fit : QueuedFit rows) :
    ReloadsItsItems rows action := by
  cases action with
  | update action => trivial
  | reloadItems cell =>
      intro held block shows first index member
      have queued : block ∈ rows.queue cell := List.mem_of_head? first
      obtain ⟨ref, collected, found⟩ := fit cell held shows block queued index member
      refine ⟨(List.getElem?_eq_some_iff.mp found).1, ?_⟩
      rw [found, collected]

/-! ### Whole runs -/

private theorem queuedFit_launch (defaults : UserDefaults) : QueuedFit (.launch defaults) := by
  intro cell held impossible
  cases impossible

/-- In a run whose reused cells are each given a row that their queued blocks fit, every
block reloads items that the cell has and that show the view models collected; and the
runs in which every queued block always fits its cell are exactly these. -/
theorem reloadsItsItems_of_keepsItems (text : TextSearch) (defaults : UserDefaults)
    (actions : List Action) :
    (EachStep (step text) KeepsItems (.launch defaults) actions →
      EachStep (step text) ReloadsItsItems (.launch defaults) actions) ∧
    (Throughout (step text) QueuedFit (.launch defaults) actions ↔
      EachStep (step text) KeepsItems (.launch defaults) actions) := by
  constructor
  · refine eachStep_of_eachStep (fun rows => Aligned rows ∧ QueuedFit rows) ?_ ?_
      ⟨rfl, queuedFit_launch defaults⟩
    · intro rows action next invariant keeps taken
      exact ⟨aligned_step invariant.1 taken,
        (queuedFit_step invariant.1 invariant.2 taken).mpr keeps⟩
    · intro rows action next invariant _ _
      exact reloadsItsItems_of_queuedFit action invariant.2
  · refine throughout_iff_eachStep Aligned ?_ ?_
      (eachStep_of_forall (fun _ _ => trivial) _ actions) rfl (queuedFit_launch defaults)
    · intro rows action next aligned taken
      exact aligned_step aligned taken
    · intro rows action next aligned fit _ taken
      exact queuedFit_step aligned fit taken

/-- A row with one recipe is shown, a row without recipes is loaded, and the recipe is
bookmarked elsewhere. -/
def bookmarkedPlov : List Action :=
  [.update (.homeLoaded [.titled 1 "Plov"]), .update (.homeLoaded []),
    .update (.configure none 0), .update (.create (.titled 1 "Plov")),
    .update (.toggleFavorite 1)]

def sameRowAgain : List Action :=
  bookmarkedPlov ++ [.update (.configure (some 0) 0), .reloadItems 0]

theorem reloadsItsItems_same_row :
    EachStep (step ⟨id, fun _ _ => true⟩) ReloadsItsItems (.launch ⟨none, none, none⟩)
      sameRowAgain := by
  apply (reloadsItsItems_of_keepsItems ⟨id, fun _ _ => true⟩ ⟨none, none, none⟩ sameRowAgain).1
  refine (eachStep_cons rfl).mpr ⟨trivial, ?_⟩
  refine (eachStep_cons rfl).mpr ⟨trivial, ?_⟩
  refine (eachStep_cons rfl).mpr ⟨trivial, ?_⟩
  refine (eachStep_cons rfl).mpr ⟨trivial, ?_⟩
  refine (eachStep_cons rfl).mpr ⟨trivial, ?_⟩
  refine (eachStep_cons rfl).mpr ⟨?_, (eachStep_cons rfl).mpr ⟨trivial, trivial⟩⟩
  intro block queued index member
  cases List.mem_singleton.mp queued
  cases List.mem_singleton.mp member
  exact ⟨0, rfl, rfl⟩

/-- The cell is given the row without recipes before its queued block reloads item 0. -/
theorem not_reloadsItsItems_shorter_row :
    ¬ ∀ (text : TextSearch) (defaults : UserDefaults) (actions : List Action),
      EachStep (step text) ReloadsItsItems (.launch defaults) actions := by
  intro always
  have reloads := EachStep.last (Action.reloadItems 0)
    (always ⟨id, fun _ _ => true⟩ ⟨none, none, none⟩
      (bookmarkedPlov ++ [.update (.configure (some 0) 1)] ++ [.reloadItems 0])) rfl rfl
  exact absurd (reloads [] _ rfl rfl 0 List.mem_cons_self).1 (by decide)

end SmartMeal.RowReloads
