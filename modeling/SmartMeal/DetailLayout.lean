/-
The heights on the detail screen.

A dynamic table replaces its own height constraint whenever its content size changes.  The
controller adds a constraint to the table of the ingredients in every layout pass besides,
and keeps none of them to remove.  They pile up, and they can be met together exactly when
every pass so far has seen the height that the content has now.

A height is of any type with the operations that are used; nothing depends on their laws.
-/

import SmartMeal.Library.Run
import Mathlib.Data.List.Perm.Basic

namespace SmartMeal.DetailLayout

open PartialStep

variable {Height : Type}

/-- The active constraints on the height of the view, each named by the number of those
created before it; `heightConstraint` is the name of the table's own. -/
structure DynamicTableView (Height : Type) where
  contentHeight : Height
  heightConstraint : Option Nat
  constraints : List (Nat × Height)
  created : Nat

namespace DynamicTableView

def init (contentHeight : Height) : DynamicTableView Height :=
  { contentHeight := contentHeight, heightConstraint := none, constraints := [], created := 0 }

def activate (constant : Height) (table : DynamicTableView Height) : DynamicTableView Height :=
  { table with
    constraints := table.constraints ++ [(table.created, constant)]
    created := table.created + 1 }

def removeConstraint (existing : Nat) (table : DynamicTableView Height) :
    DynamicTableView Height :=
  { table with constraints := table.constraints.filter fun entry => entry.1 != existing }

def updateHeightConstraint (table : DynamicTableView Height) : DynamicTableView Height :=
  let cleared :=
    match table.heightConstraint with
    | some existing => table.removeConstraint existing
    | none => table
  { cleared.activate table.contentHeight with heightConstraint := some cleared.created }

/-- The observer of `contentSize`. -/
def setContentHeight (height : Height) (table : DynamicTableView Height) :
    DynamicTableView Height :=
  updateHeightConstraint { table with contentHeight := height }

def Satisfiable (table : DynamicTableView Height) : Prop :=
  ∃ height, ∀ entry ∈ table.constraints, entry.2 = height

end DynamicTableView

/-! ### One table -/

def ownEntries (table : DynamicTableView Height) : List (Nat × Height) :=
  table.constraints.filter fun entry => table.heightConstraint == some entry.1

def addedEntries (table : DynamicTableView Height) : List (Nat × Height) :=
  table.constraints.filter fun entry => table.heightConstraint != some entry.1

structure Constrained (table : DynamicTableView Height) (added : List Height) : Prop where
  named : ∀ entry ∈ table.constraints, entry.1 < table.created
  ownNamed : ∀ name, table.heightConstraint = some name → name < table.created
  own : (ownEntries table).map Prod.snd =
    (table.heightConstraint.map fun _ => table.contentHeight).toList
  added : (addedEntries table).map Prod.snd = added

variable {table : DynamicTableView Height} {added : List Height}

private theorem constrained_init (contentHeight : Height) :
    Constrained (.init contentHeight) ([] : List Height) where
  named := by intro entry impossible; cases impossible
  ownNamed := by intro name impossible; cases impossible
  own := rfl
  added := rfl

private theorem ownEntries_activate (other : table.heightConstraint ≠ some table.created)
    (constant : Height) : ownEntries (table.activate constant) = ownEntries table := by
  unfold ownEntries DynamicTableView.activate
  rw [List.filter_append]
  simp [other]

private theorem addedEntries_activate (other : table.heightConstraint ≠ some table.created)
    (constant : Height) :
    addedEntries (table.activate constant) = addedEntries table ++ [(table.created, constant)] := by
  unfold addedEntries DynamicTableView.activate
  rw [List.filter_append]
  simp [other]

private theorem constrained_activate (constrained : Constrained table added) (constant : Height) :
    Constrained (table.activate constant) (added ++ [constant]) := by
  have other : table.heightConstraint ≠ some table.created := by
    intro same
    exact Nat.lt_irrefl _ (constrained.ownNamed _ same)
  constructor
  · intro entry member
    rcases List.mem_append.mp member with old | new
    · exact Nat.lt_succ_of_lt (constrained.named entry old)
    · rw [List.mem_singleton.mp new]
      exact Nat.lt_succ_self _
  · intro name own
    exact Nat.lt_succ_of_lt (constrained.ownNamed name own)
  · rw [ownEntries_activate other]
    exact constrained.own
  · rw [addedEntries_activate other, List.map_append, constrained.added]
    rfl

private theorem setContentHeight_eq (table : DynamicTableView Height) (height : Height) :
    table.setContentHeight height =
      { contentHeight := height
        heightConstraint := some table.created
        constraints := addedEntries table ++ [(table.created, height)]
        created := table.created + 1 } := by
  rcases table with ⟨contentHeight, own, constraints, created⟩
  cases own with
  | none =>
      have all : addedEntries ⟨contentHeight, none, constraints, created⟩ = constraints :=
        List.filter_eq_self.mpr fun entry _ => rfl
      rw [all]
      rfl
  | some existing =>
      have cleared : addedEntries ⟨contentHeight, some existing, constraints, created⟩ =
          constraints.filter fun entry => entry.1 != existing := by
        apply List.filter_congr
        intro entry _
        by_cases same : entry.1 = existing
        · simp [same]
        · have apart : some existing ≠ some entry.1 := fun equal => same (Option.some.inj equal).symm
          change (some existing != some entry.1) = (entry.1 != existing)
          rw [bne_iff_ne.mpr apart, bne_iff_ne.mpr same]
      rw [cleared]
      rfl

private theorem constrained_setContentHeight (constrained : Constrained table added)
    (height : Height) :
    Constrained (table.setContentHeight height) added := by
  rw [setContentHeight_eq]
  have earlier : ∀ entry ∈ addedEntries table, entry.1 < table.created := by
    intro entry member
    exact constrained.named entry (List.mem_of_mem_filter member)
  constructor
  · intro entry member
    rcases List.mem_append.mp member with old | new
    · exact Nat.lt_succ_of_lt (earlier entry old)
    · rw [List.mem_singleton.mp new]
      exact Nat.lt_succ_self _
  · intro name own
    rw [← Option.some.inj own]
    exact Nat.lt_succ_self _
  · have none : (addedEntries table).filter
        (fun entry => some table.created == some entry.1) = [] := by
      rw [List.filter_eq_nil_iff]
      intro entry member same
      have name := Option.some.inj (beq_iff_eq.mp same)
      exact absurd (earlier entry member) (by omega)
    change ((addedEntries table ++ _).filter _).map _ = _
    rw [List.filter_append, none]
    simp
  · have all : (addedEntries table).filter
        (fun entry => some table.created != some entry.1) = addedEntries table := by
      rw [List.filter_eq_self]
      intro entry member
      have before := earlier entry member
      simp only [bne_iff_ne, ne_eq, Option.some.injEq]
      omega
    change ((addedEntries table ++ _).filter _).map _ = _
    rw [List.filter_append, all]
    simpa using constrained.added

private theorem constants_perm (constrained : Constrained table added) :
    (table.constraints.map Prod.snd).Perm
      ((table.heightConstraint.map fun _ => table.contentHeight).toList ++ added) := by
  have divided := List.filter_append_perm
    (fun entry : Nat × Height => table.heightConstraint == some entry.1) table.constraints
  have constants := (divided.map Prod.snd).symm
  rw [List.map_append] at constants
  have own := constrained.own
  have rest := constrained.added
  unfold ownEntries at own
  unfold addedEntries at rest
  rw [own] at constants
  exact constants.trans (List.Perm.append_left _ (List.Perm.of_eq rest))

/-- The own constraint pins the current height, so every other one has to agree with it. -/
private theorem satisfiable_iff (constrained : Constrained table added)
    (unset : table.heightConstraint = none → ∀ height ∈ added, height = table.contentHeight) :
    table.Satisfiable ↔ ∀ height ∈ added, height = table.contentHeight := by
  have constants : ∀ height, (∃ entry ∈ table.constraints, entry.2 = height) ↔
      height ∈ (table.heightConstraint.map fun _ => table.contentHeight).toList ++ added := by
    intro height
    rw [← (constants_perm constrained).mem_iff, List.mem_map]
  cases own : table.heightConstraint with
  | none =>
      refine iff_of_true ⟨table.contentHeight, fun entry member => unset own _ ?_⟩ (unset own)
      simpa [own] using (constants entry.2).mp ⟨entry, member, rfl⟩
  | some name =>
      have current := (constants table.contentHeight).mpr (by simp [own])
      constructor
      · intro ⟨common, met⟩ height member
        have other := (constants height).mpr (List.mem_append_right _ member)
        rcases current with ⟨entry, active, current⟩
        rcases other with ⟨otherEntry, otherActive, other⟩
        rw [← current, ← other, met entry active, met otherEntry otherActive]
      · intro agree
        refine ⟨table.contentHeight, fun entry member => ?_⟩
        have constant := (constants entry.2).mp ⟨entry, member, rfl⟩
        rw [own] at constant
        rcases List.mem_cons.mp constant with here | there
        · exact here
        · exact agree entry.2 there

private theorem length_constraints (constrained : Constrained table added) :
    table.constraints.length =
      (table.heightConstraint.map fun _ => table.contentHeight).toList.length + added.length := by
  have lengths := (constants_perm constrained).length_eq
  rwa [List.length_map, List.length_append] at lengths

/-! ### The whole screen -/

/-- The two anchors hold the constants of their constraints; `passes` and `overscrolls` are
history. -/
structure DetailViewController (Height : Type) where
  tableView : DynamicTableView Height
  stepTableView : DynamicTableView Height
  contentViewTopAnchor : Height
  headerViewHeightAnchor : Height
  passes : List Height
  overscrolls : List Height

/-- A content size is set by the table views themselves, also while a pass lays out. -/
inductive Action (Height : Type) where
  | contentSize (height : Height)
  | stepContentSize (height : Height)
  | viewDidLayoutSubviews (laidOut : Option Height)
  | scrollViewDidScroll (contentOffset : Height)

namespace DetailViewController

def viewDidLayoutSubviews (laidOut : Option Height) (controller : DetailViewController Height) :
    DetailViewController Height :=
  let tableView :=
    match laidOut with
    | some height => controller.tableView.setContentHeight height
    | none => controller.tableView
  { controller with
    tableView := tableView.activate tableView.contentHeight
    passes := controller.passes ++ [tableView.contentHeight] }

variable [OfNat Height 0] [OfNat Height 300] [Add Height] [Neg Height]

def viewDidLoad : DetailViewController Height :=
  { tableView := .init 0
    stepTableView := .init 0
    contentViewTopAnchor := 0
    headerViewHeightAnchor := 300
    passes := []
    overscrolls := [] }

def scrollViewDidScroll [LT Height] [DecidableLT Height] (contentOffset : Height)
    (controller : DetailViewController Height) : DetailViewController Height :=
  if contentOffset < 0 then
    { controller with
      contentViewTopAnchor := contentOffset
      headerViewHeightAnchor := 300 + -contentOffset
      overscrolls := controller.overscrolls ++ [contentOffset] }
  else controller

end DetailViewController

variable [OfNat Height 0] [OfNat Height 300] [Add Height] [Neg Height]

def step [LT Height] [DecidableLT Height] :
    Transition (DetailViewController Height) (Action Height) :=
  fun controller action =>
  match action with
  | .contentSize height =>
      some { controller with tableView := controller.tableView.setContentHeight height }
  | .stepContentSize height =>
      some { controller with stepTableView := controller.stepTableView.setContentHeight height }
  | .viewDidLayoutSubviews laidOut => some (controller.viewDidLayoutSubviews laidOut)
  | .scrollViewDidScroll contentOffset => some (controller.scrollViewDidScroll contentOffset)

def anchors (overscrolls : List Height) : Height × Height :=
  match overscrolls.getLast? with
  | none => (0, 300)
  | some contentOffset => (contentOffset, 300 + -contentOffset)

structure LaidOut (controller : DetailViewController Height) : Prop where
  ingredients : Constrained controller.tableView controller.passes
  unset : controller.tableView.heightConstraint = none →
    ∀ height ∈ controller.passes, height = controller.tableView.contentHeight
  steps : Constrained controller.stepTableView []
  header : (controller.contentViewTopAnchor, controller.headerViewHeightAnchor) =
    anchors controller.overscrolls

variable {controller next reached : DetailViewController Height}

private theorem laidOut_viewDidLoad : LaidOut (.viewDidLoad : DetailViewController Height) where
  ingredients := constrained_init 0
  unset := by intro _ height impossible; cases impossible
  steps := constrained_init 0
  header := rfl

private theorem laidOut_contentSize (laidOut : LaidOut controller) (height : Height) :
    LaidOut { controller with tableView := controller.tableView.setContentHeight height } where
  ingredients := constrained_setContentHeight laidOut.ingredients height
  unset := by
    intro unset
    rw [setContentHeight_eq] at unset
    cases unset
  steps := laidOut.steps
  header := laidOut.header

private theorem laidOut_viewDidLayoutSubviews (laidOut : LaidOut controller)
    (height : Option Height) : LaidOut (controller.viewDidLayoutSubviews height) := by
  -- The layout itself is a change of the content size, or none.
  obtain ⟨before, prepared, same⟩ : ∃ before, LaidOut before ∧
      controller.viewDidLayoutSubviews height = before.viewDidLayoutSubviews none := by
    cases height with
    | none => exact ⟨controller, laidOut, rfl⟩
    | some height => exact ⟨_, laidOut_contentSize laidOut height, rfl⟩
  rw [same]
  constructor
  · exact constrained_activate prepared.ingredients before.tableView.contentHeight
  · intro unset height member
    rcases List.mem_append.mp member with old | new
    · exact prepared.unset unset height old
    · exact List.mem_singleton.mp new
  · exact prepared.steps
  · exact prepared.header

variable [LT Height] [DecidableLT Height]

private theorem laidOut_scrollViewDidScroll (laidOut : LaidOut controller)
    (contentOffset : Height) :
    LaidOut (controller.scrollViewDidScroll contentOffset) := by
  unfold DetailViewController.scrollViewDidScroll
  by_cases pulled : contentOffset < 0
  · rw [if_pos pulled]
    refine ⟨laidOut.ingredients, laidOut.unset, laidOut.steps, ?_⟩
    unfold anchors
    rw [List.getLast?_concat]
  · rw [if_neg pulled]
    exact laidOut

private theorem laidOut_step (laidOut : LaidOut controller) {action : Action Height}
    (taken : step controller action = some next) : LaidOut next := by
  cases action with
  | contentSize height =>
      cases taken
      exact laidOut_contentSize laidOut height
  | stepContentSize height =>
      cases taken
      exact ⟨laidOut.ingredients, laidOut.unset,
        constrained_setContentHeight laidOut.steps height, laidOut.header⟩
  | viewDidLayoutSubviews height =>
      cases taken
      exact laidOut_viewDidLayoutSubviews laidOut height
  | scrollViewDidScroll contentOffset =>
      cases taken
      exact laidOut_scrollViewDidScroll laidOut contentOffset

/-- Every layout pass leaves one more constraint on the table of the ingredients.  They can
be met exactly when no pass has seen another height than the current one, while those on
the table of the steps can always be met; the header keeps the height of the last pull. -/
theorem passes_pile_up (actions : List (Action Height))
    (arrived : run step .viewDidLoad actions = some reached) :
    (reached.tableView.Satisfiable ↔
      ∀ height ∈ reached.passes, height = reached.tableView.contentHeight) ∧
    reached.tableView.constraints.length =
      reached.tableView.heightConstraint.toList.length + reached.passes.length ∧
    reached.stepTableView.constraints.map Prod.snd =
      (reached.stepTableView.heightConstraint.map
        fun _ => reached.stepTableView.contentHeight).toList ∧
    (reached.contentViewTopAnchor, reached.headerViewHeightAnchor) =
      anchors reached.overscrolls := by
  have laidOut : LaidOut reached :=
    run_invariant LaidOut (fun _ _ _ laidOut taken => laidOut_step laidOut taken)
      laidOut_viewDidLoad arrived
  have steps := (constants_perm laidOut.steps).symm
  rw [List.append_nil] at steps
  refine ⟨satisfiable_iff laidOut.ingredients laidOut.unset, ?_, ?_, laidOut.header⟩
  · rw [length_constraints laidOut.ingredients]
    cases reached.tableView.heightConstraint <;> rfl
  · cases own : reached.stepTableView.heightConstraint with
    | none =>
        rw [own] at steps
        exact (List.nil_perm.mp steps)
    | some name =>
        rw [own] at steps
        exact List.perm_singleton.mp steps.symm

def pulledAndGrown : List (Action Int) :=
  [.viewDidLayoutSubviews (some 40), .scrollViewDidScroll (-25), .contentSize 80,
   .viewDidLayoutSubviews none]

theorem passes_pile_up_pulledAndGrown :
    ∃ reached, run step .viewDidLoad pulledAndGrown = some reached ∧
      ¬ reached.tableView.Satisfiable ∧ reached.tableView.constraints.length = 3 ∧
      (reached.contentViewTopAnchor, reached.headerViewHeightAnchor) = (-25, 325) := by
  obtain ⟨reached, arrived⟩ :
      ∃ reached, run step .viewDidLoad pulledAndGrown = some reached := ⟨_, rfl⟩
  obtain ⟨satisfiable, count, -, header⟩ := passes_pile_up pulledAndGrown arrived
  cases arrived
  refine ⟨_, rfl, ?_, count, header⟩
  rw [satisfiable]
  decide

end SmartMeal.DetailLayout
