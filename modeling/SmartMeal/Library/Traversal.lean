/-
Lists decoded element by element, all or nothing.

A traversal succeeds exactly when every element decodes, and its result then
corresponds to the list element by element.  A fold whose every step keeps up with the step
of another one succeeds, and keeps up with it to the end.
-/

import Mathlib.Data.List.Forall2

namespace Traversal

variable {Source Target : Type} {decode : Source → Option Target}

theorem mapM_eq_some_iff {sources : List Source} {targets : List Target} :
    sources.mapM decode = some targets ↔
      List.Forall₂ (fun source target => decode source = some target) sources targets := by
  induction sources generalizing targets with
  | nil =>
      constructor
      · intro loaded
        cases loaded
        exact List.Forall₂.nil
      · intro matched
        cases matched
        rfl
  | cons source rest ih =>
      rw [List.mapM_cons]
      constructor
      · intro loaded
        obtain ⟨target, decoded, later⟩ := Option.bind_eq_some_iff.mp loaded
        obtain ⟨others, loadedRest, same⟩ := Option.bind_eq_some_iff.mp later
        cases same
        exact List.Forall₂.cons decoded (ih.mp loadedRest)
      · intro matched
        cases matched with
        | cons decoded matchedRest =>
            rw [decoded, ih.mpr matchedRest]
            rfl

theorem mapM_map {Value : Type} {encode : Value → Source} {read : Value → Target}
    (decodes : ∀ value, decode (encode value) = some (read value)) (values : List Value) :
    (values.map encode).mapM decode = some (values.map read) := by
  rw [mapM_eq_some_iff, List.forall₂_map_left_iff, List.forall₂_map_right_iff]
  exact List.forall₂_same.mpr fun value _ => decodes value

theorem mapM_eq_none_iff {sources : List Source} :
    sources.mapM decode = none ↔ ∃ source ∈ sources, decode source = none := by
  induction sources with
  | nil =>
      apply iff_of_false (Option.some_ne_none [])
      rintro ⟨source, impossible, _⟩
      cases impossible
  | cons source rest ih =>
      rw [List.mapM_cons, List.exists_mem_cons_iff, ← ih]
      cases decoded : decode source with
      | none => exact iff_of_true rfl (Or.inl rfl)
      | some target =>
          cases loaded : rest.mapM decode with
          | none => exact iff_of_true rfl (Or.inr rfl)
          | some targets =>
              apply iff_of_false (Option.some_ne_none (target :: targets))
              rintro (impossible | impossible) <;> cases impossible

theorem forall_mem_iff {sources : List Source} {targets : List Target}
    (loaded : sources.mapM decode = some targets) (property : Target → Prop) :
    (∀ target ∈ targets, property target) ↔
      ∀ source ∈ sources, ∀ target, decode source = some target → property target := by
  induction mapM_eq_some_iff.mp loaded with
  | nil => simp
  | cons decoded matched ih =>
      rw [List.forall_mem_cons, List.forall_mem_cons,
        ih (mapM_eq_some_iff.mpr matched), decoded]
      simp

/-- A change of one source that its decoding follows changes one target. -/
theorem mapM_modify {change : Source → Source} {effect : Target → Target}
    {sources : List Source} {place : Nat}
    (follows : ∀ source, sources[place]? = some source →
      decode (change source) = (decode source).map effect) :
    (sources.modify place change).mapM decode =
      (sources.mapM decode).map fun targets => targets.modify place effect := by
  induction sources generalizing place with
  | nil =>
      rw [List.modify_nil]
      change some [] = some (([] : List Target).modify place effect)
      rw [List.modify_nil]
  | cons source rest ih =>
      cases place with
      | zero =>
          have here := follows source rfl
          rw [List.modify_zero_cons, List.mapM_cons, List.mapM_cons, here]
          cases decode source with
          | none => rfl
          | some target => cases rest.mapM decode <;> rfl
      | succ place =>
          have later := ih fun other found => follows other found
          rw [List.modify_succ_cons, List.mapM_cons, List.mapM_cons, later]
          cases decode source with
          | none => rfl
          | some target => cases rest.mapM decode <;> rfl

theorem mapM_set_eq_none {sources : List Source} {place : Nat} {source : Source}
    (inside : place < sources.length) (fails : decode source = none) :
    (sources.set place source).mapM decode = none :=
  mapM_eq_none_iff.mpr ⟨source, List.mem_set inside source, fails⟩

theorem foldlM_related {Item State Value : Type} {attempt : State → Item → Option State}
    {take : Value → Item → Value} {related : State → Value → Prop}
    (keeps : ∀ state value item, related state value →
      ∃ next, attempt state item = some next ∧ related next (take value item))
    (items : List Item) {state : State} {value : Value} (before : related state value) :
    ∃ next, items.foldlM attempt state = some next ∧ related next (items.foldl take value) := by
  induction items generalizing state value with
  | nil => exact ⟨state, rfl, before⟩
  | cons item rest ih =>
      obtain ⟨next, taken, here⟩ := keeps state value item before
      obtain ⟨last, later, there⟩ := ih here
      refine ⟨last, ?_, there⟩
      rw [List.foldlM_cons, taken]
      exact later

end Traversal
