/-
Items in the custody of holders, at most one item a holder.

What a list of holders has is counted as a multiset, so that an item can be followed
through the stages it passes: a holder that leaves the list takes its item along, and
a holder that replaces another brings its own.
-/

import Mathlib.Data.List.Perm.Basic
import Mathlib.Algebra.Order.Group.Multiset

namespace Custody

variable {Holder Item : Type} {custody : Holder → Option Item}

def single (item : Option Item) : Multiset Item := ↑item.toList

def held (custody : Holder → Option Item) (holders : List Holder) : Multiset Item :=
  ↑(holders.filterMap custody)

@[simp]
theorem single_none : single (none : Option Item) = 0 := rfl

@[simp]
theorem single_some (item : Item) : single (some item) = {item} := rfl

@[simp]
theorem held_nil : held custody [] = 0 := rfl

theorem held_cons (holder : Holder) (rest : List Holder) :
    held custody (holder :: rest) = single (custody holder) + held custody rest := by
  unfold held single
  rw [Multiset.coe_add, List.filterMap_cons]
  cases custody holder <;> rfl

@[simp]
theorem held_append (first second : List Holder) :
    held custody (first ++ second) = held custody first + held custody second := by
  unfold held
  rw [List.filterMap_append, Multiset.coe_add]

theorem held_some (items : List Item) : held some items = ↑items := by
  unfold held
  rw [List.filterMap_some]

private theorem held_of_perm {first second : List Holder} (rearranged : first.Perm second) :
    held custody first = held custody second :=
  Multiset.coe_eq_coe.mpr (rearranged.filterMap custody)

theorem held_eraseIdx {holders : List Holder} {index : Nat} {holder : Holder}
    (found : holders[index]? = some holder) :
    held custody holders = single (custody holder) + held custody (holders.eraseIdx index) := by
  obtain ⟨inside, same⟩ := List.getElem?_eq_some_iff.mp found
  rw [← held_cons, ← same]
  exact (held_of_perm (List.getElem_cons_eraseIdx_perm inside)).symm

theorem held_set {holders : List Holder} {index : Nat} (inside : index < holders.length)
    (holder : Holder) :
    held custody (holders.set index holder) =
      single (custody holder) + held custody (holders.eraseIdx index) := by
  rw [← held_cons]
  exact held_of_perm (List.set_perm_cons_eraseIdx inside holder)

theorem held_set_of_same {holders : List Holder} {index : Nat} {before : Holder}
    (found : holders[index]? = some before) {holder : Holder}
    (same : custody holder = custody before) :
    held custody (holders.set index holder) = held custody holders := by
  rw [held_set (List.getElem?_eq_some_iff.mp found).1, held_eraseIdx found, same]

theorem held_eq_zero {holders : List Holder} (none : ∀ holder ∈ holders, custody holder = none) :
    held custody holders = 0 := by
  unfold held
  rw [List.filterMap_eq_nil_iff.mpr none]
  rfl

theorem held_le {fewer : Holder → Option Item} (holders : List Holder)
    (less : ∀ holder ∈ holders, single (fewer holder) ≤ single (custody holder)) :
    held fewer holders ≤ held custody holders := by
  induction holders with
  | nil => exact le_refl _
  | cons holder rest ih =>
      rw [held_cons, held_cons]
      apply add_le_add (less holder List.mem_cons_self)
      exact ih fun other member => less other (List.mem_cons_of_mem holder member)

end Custody
