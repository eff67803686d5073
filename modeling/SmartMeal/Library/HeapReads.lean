/-
Reading one field of the objects that a list of references denotes.

A field that no operation writes is kept while the heap grows and other fields are
written, so what a list of references reads as stays what it was.
-/

import SmartMeal.Library.Refreshed
import Mathlib.Data.List.Forall2

namespace ObjectHeap

variable {Object Value : Type} {field : Object → Value}

def FieldKept (field : Object → Value) (before after : List Object) : Prop :=
  ∀ (ref : Ref) (value : Value),
    (before[ref]?).map field = some value → (after[ref]?).map field = some value

def Reads (field : Object → Value) (heap : List Object) (refs : List Ref)
    (values : List Value) : Prop :=
  List.Forall₂ (fun ref value => (heap[ref]?).map field = some value) refs values

variable {before middle after heap : List Object}

theorem FieldKept.refl (field : Object → Value) (heap : List Object) :
    FieldKept field heap heap :=
  fun _ _ found => found

theorem FieldKept.trans (one : FieldKept field before middle)
    (two : FieldKept field middle after) : FieldKept field before after :=
  fun ref value found => two ref value (one ref value found)

theorem fieldKept_append (heap objects : List Object) :
    FieldKept field heap (heap ++ objects) := by
  intro ref value found
  obtain ⟨object, foundAt, _⟩ := Option.map_eq_some_iff.mp found
  rw [List.getElem?_append_left (List.getElem?_eq_some_iff.mp foundAt).1]
  exact found

theorem fieldKept_set {ref : Ref} {object written : Object} (foundAt : heap[ref]? = some object)
    (same : field written = field object) : FieldKept field heap (heap.set ref written) := by
  intro other value found
  by_cases here : other = ref
  · subst other
    rw [foundAt] at found
    rw [List.getElem?_set_self (List.getElem?_eq_some_iff.mp foundAt).1]
    exact (congrArg some same).trans found
  · rw [List.getElem?_set_ne (Ne.symm here)]
    exact found

theorem Reads.kept {refs : List Ref} {values : List Value}
    (reads : Reads field before refs values) (keeps : FieldKept field before after) :
    Reads field after refs values :=
  reads.imp keeps

theorem Reads.unique {refs : List Ref} {values values' : List Value}
    (reads : Reads field heap refs values) (reads' : Reads field heap refs values') :
    values = values' := by
  induction reads generalizing values' with
  | nil =>
      cases reads'
      rfl
  | cons found _ ih =>
      cases reads' with
      | cons found' rest' =>
          rw [Option.some.inj (found.symm.trans found'), ih rest']

theorem Reads.set {refs : List Ref} {values : List Value} {ref : Ref}
    (reads : Reads field heap refs values) (absent : ref ∉ refs) (object : Object) :
    Reads field (heap.set ref object) refs values := by
  induction reads with
  | nil => exact List.Forall₂.nil
  | @cons other value rest values found _ ih =>
      rw [List.mem_cons, not_or] at absent
      refine List.Forall₂.cons ?_ (ih absent.2)
      rw [List.getElem?_set_ne absent.1]
      exact found

theorem Reads.read_at {refs : List Ref} {values : List Value}
    (reads : Reads field heap refs values) (index : Nat) :
    ((refs[index]?).bind fun ref => (heap[ref]?).map field) = values[index]? := by
  induction reads generalizing index with
  | nil => rfl
  | cons found _ ih =>
      cases index with
      | zero => exact found
      | succ index => exact ih index

theorem Reads.mem_iff {refs : List Ref} {values : List Value}
    (reads : Reads field heap refs values) (value : Value) :
    value ∈ values ↔ ∃ ref ∈ refs, (heap[ref]?).map field = some value := by
  induction reads with
  | nil => simp
  | @cons ref first rest values found _ ih =>
      rw [List.mem_cons, List.exists_mem_cons_iff, ih, found]
      exact or_congr_left ⟨fun same => congrArg some same.symm, fun same => (Option.some.inj same).symm⟩

theorem reads_append (heap objects : List Object) :
    Reads field (heap ++ objects) (List.range' heap.length objects.length)
      (objects.map field) := by
  induction objects generalizing heap with
  | nil => exact List.Forall₂.nil
  | cons object rest ih =>
      rw [List.length_cons, List.range'_succ, List.map_cons]
      apply List.Forall₂.cons (by simp)
      have later := ih (heap ++ [object])
      rw [List.append_assoc, List.length_append] at later
      exact later

end ObjectHeap
