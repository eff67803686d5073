/-
A heap of objects that cache a value, and what a partial refresh leaves behind.

Objects are read through references and are never moved.  After a refresh every
object is up to date, except those that no refresh has touched; these are what
they were before.  Refreshes compose, and objects allocated on the way are up to
date by construction.
-/

import Mathlib.Data.List.Basic

namespace ObjectHeap

variable {Object : Type}

abbrev Ref := Nat

/-- Objects are never dropped; each is current or has stayed as it was, and it stays
as it was when it is not touched. -/
structure Refreshed (current : Object → Prop) (touched : Ref → Prop)
    (before after : List Object) : Prop where
  grows : before.length ≤ after.length
  current_or_same : ∀ (ref : Ref) (object : Object), after[ref]? = some object →
    current object ∨ (before[ref]? = some object ∧ ¬ touched ref)
  same : ∀ (ref : Ref) (object : Object), before[ref]? = some object → ¬ touched ref →
    after[ref]? = some object

variable {current : Object → Prop} {before middle after : List Object}

theorem Refreshed.refl (current : Object → Prop) (heap : List Object) :
    Refreshed current (fun _ => False) heap heap :=
  ⟨Nat.le_refl _, fun _ _ found => Or.inr ⟨found, not_false⟩, fun _ _ found _ => found⟩

theorem Refreshed.trans {first second : Ref → Prop}
    (one : Refreshed current first before middle) (two : Refreshed current second middle after) :
    Refreshed current (fun ref => first ref ∨ second ref) before after := by
  refine ⟨Nat.le_trans one.grows two.grows, ?_, ?_⟩
  · intro ref object found
    rcases two.current_or_same ref object found with isCurrent | ⟨foundMiddle, untouched⟩
    · exact Or.inl isCurrent
    · rcases one.current_or_same ref object foundMiddle with isCurrent | ⟨foundBefore, other⟩
      · exact Or.inl isCurrent
      · exact Or.inr ⟨foundBefore, not_or.mpr ⟨other, untouched⟩⟩
  · intro ref object found untouched
    obtain ⟨first, second⟩ := not_or.mp untouched
    exact two.same ref object (one.same ref object found first) second

theorem Refreshed.congr {touched touched' : Ref → Prop}
    (refreshed : Refreshed current touched before after)
    (equal : ∀ ref, touched ref ↔ touched' ref) : Refreshed current touched' before after := by
  refine ⟨refreshed.grows, ?_, ?_⟩
  · intro ref object found
    rw [← equal ref]
    exact refreshed.current_or_same ref object found
  · intro ref object found untouched
    exact refreshed.same ref object found (mt (equal ref).mp untouched)

theorem refreshed_set (current : Object → Prop) {object : Object} (ref : Ref)
    (heap : List Object) (isCurrent : current object) :
    Refreshed current (fun other => other = ref) heap (heap.set ref object) := by
  refine ⟨Nat.le_of_eq List.length_set.symm, ?_, ?_⟩
  · intro other found foundAt
    by_cases here : other = ref
    · subst other
      rw [List.getElem?_set_self'] at foundAt
      obtain ⟨_, _, written⟩ := Option.map_eq_some_iff.mp foundAt
      exact Or.inl (written ▸ isCurrent)
    · rw [List.getElem?_set_ne (Ne.symm here)] at foundAt
      exact Or.inr ⟨foundAt, here⟩
  · intro other found foundAt elsewhere
    rw [List.getElem?_set_ne (Ne.symm elsewhere)]
    exact foundAt

theorem refreshed_of_current {ref : Ref} {heap : List Object}
    (isCurrent : ∀ object, heap[ref]? = some object → current object) :
    Refreshed current (fun other => other = ref) heap heap := by
  refine ⟨Nat.le_refl _, ?_, ?_⟩
  · intro other object found
    by_cases here : other = ref
    · subst other
      exact Or.inl (isCurrent object found)
    · exact Or.inr ⟨found, here⟩
  · intro other object found _
    exact found

theorem refreshed_append {objects : List Object} (heap : List Object)
    (allCurrent : ∀ object ∈ objects, current object) :
    Refreshed current (fun _ => False) heap (heap ++ objects) := by
  refine ⟨(List.prefix_append heap objects).length_le, ?_, ?_⟩
  · intro ref object found
    by_cases old : ref < heap.length
    · rw [List.getElem?_append_left old] at found
      exact Or.inr ⟨found, not_false⟩
    · rw [List.getElem?_append_right (Nat.le_of_not_lt old)] at found
      exact Or.inl (allCurrent object (List.mem_of_getElem? found))
  · intro ref object found _
    rw [List.getElem?_append_left (List.getElem?_eq_some_iff.mp found).1]
    exact found

theorem Refreshed.current_at {touched : Ref → Prop} {ref : Ref}
    (refreshed : Refreshed current touched before after)
    (isCurrent : ∀ object, before[ref]? = some object → current object) :
    ∀ object, after[ref]? = some object → current object := by
  intro object found
  rcases refreshed.current_or_same ref object found with fresh | ⟨foundBefore, _⟩
  · exact fresh
  · exact isCurrent object foundBefore

theorem Refreshed.current_of_fresh {touched : Ref → Prop} {ref : Ref}
    (refreshed : Refreshed current touched before after) (fresh : before.length ≤ ref) :
    ∀ object, after[ref]? = some object → current object := by
  apply refreshed.current_at
  intro object found
  rw [List.getElem?_eq_none fresh] at found
  cases found

end ObjectHeap
