/-
The pieces of a sequence between its separators, with the empty pieces left out.

Splitting a concatenation at a separator in its middle concatenates the pieces of
both sides, so what a splitter returns can be read off any one separator.  Only a
sequence that consists of separators has no piece.
-/

import Mathlib.Data.List.Basic

namespace Pieces

variable {Symbol : Type} [BEq Symbol] {separator : Symbol}

def pieces (separator : Symbol) (text : List Symbol) : List (List Symbol) :=
  (text.splitOn separator).filter fun piece => !piece.isEmpty

private theorem sublist_of_mem_splitOn {text piece : List Symbol}
    (member : piece ∈ text.splitOn separator) : piece.Sublist text := by
  induction text generalizing piece with
  | nil =>
      rw [List.splitOn_nil, List.mem_singleton] at member
      rw [member]
  | cons symbol rest ih =>
      rw [List.splitOn_cons_eq_if_modifyHead] at member
      split at member
      · rcases List.mem_cons.mp member with rfl | later
        · exact List.nil_sublist _
        · exact (ih later).cons symbol
      · obtain ⟨head, tail, split⟩ :=
          List.exists_cons_of_ne_nil (List.splitOn_ne_nil separator rest)
        rw [split] at ih
        rw [split, List.modifyHead_cons] at member
        rcases List.mem_cons.mp member with rfl | later
        · exact (ih List.mem_cons_self).cons_cons symbol
        · exact (ih (List.mem_cons_of_mem head later)).cons symbol

theorem ne_nil_of_mem_pieces {text piece : List Symbol}
    (member : piece ∈ pieces separator text) : piece ≠ [] := by
  simpa using (List.mem_filter.mp member).2

theorem sublist_of_mem_pieces {text piece : List Symbol}
    (member : piece ∈ pieces separator text) : piece.Sublist text :=
  sublist_of_mem_splitOn (List.mem_filter.mp member).1

variable [LawfulBEq Symbol]

theorem pieces_append (first second : List Symbol) :
    pieces separator (first ++ separator :: second) =
      pieces separator first ++ pieces separator second := by
  unfold pieces
  rw [List.splitOn_append_cons_self, List.filter_append]

theorem pieces_of_absent {text : List Symbol} (nonempty : text ≠ [])
    (absent : separator ∉ text) : pieces separator text = [text] := by
  unfold pieces
  rw [List.splitOn_eq_singleton absent, List.filter_singleton]
  cases text with
  | nil => exact absurd rfl nonempty
  | cons symbol rest => rfl

theorem sublist_beside_of_mem_pieces {text piece : List Symbol} (present : separator ∈ text)
    (member : piece ∈ pieces separator text) :
    ∃ before after, text = before ++ separator :: after ∧
      (piece.Sublist before ∨ piece.Sublist after) := by
  obtain ⟨before, after, rfl⟩ := List.append_of_mem present
  rw [pieces_append] at member
  exact ⟨before, after, rfl,
    (List.mem_append.mp member).imp sublist_of_mem_pieces sublist_of_mem_pieces⟩

/-- The first piece begins with whatever the text begins with, up to a separator. -/
theorem head_pieces_append {first : List Symbol} (nonempty : first ≠ [])
    (absent : separator ∉ first) (second : List Symbol) :
    ∃ more, (pieces separator (first ++ second)).head? = some (first ++ more) := by
  obtain ⟨head, tail, split⟩ :=
    List.exists_cons_of_ne_nil (List.splitOn_ne_nil separator second)
  have joined : (first ++ second).splitOn separator = (first ++ head) :: tail := by
    clear nonempty
    induction first with
    | nil => exact split
    | cons symbol rest ih =>
        have different : ¬ symbol = separator := fun same => absent (same ▸ List.mem_cons_self)
        rw [List.cons_append, List.splitOn_cons_eq_if_modifyHead,
          if_neg (by simpa using different),
          ih fun member => absent (List.mem_cons_of_mem symbol member)]
        rfl
  refine ⟨head, ?_⟩
  unfold pieces
  rw [joined, List.filter_cons_of_pos]
  · rfl
  · simp [nonempty]

private theorem pieces_cons_separator (text : List Symbol) :
    pieces separator (separator :: text) = pieces separator text :=
  pieces_append [] text

private theorem pieces_cons_ne_nil {symbol : Symbol} (different : symbol ≠ separator)
    (text : List Symbol) : pieces separator (symbol :: text) ≠ [] := by
  obtain ⟨head, tail, split⟩ :=
    List.exists_cons_of_ne_nil (List.splitOn_ne_nil separator text)
  unfold pieces
  rw [List.splitOn_cons_eq_if_modifyHead, if_neg (by simpa using different), split,
    List.modifyHead_cons]
  exact List.cons_ne_nil _ _

theorem pieces_eq_nil_iff (text : List Symbol) :
    pieces separator text = [] ↔ ∀ symbol ∈ text, symbol = separator := by
  induction text with
  | nil =>
      constructor
      · intro _ symbol impossible
        cases impossible
      · intro _
        rfl
  | cons symbol rest ih =>
      by_cases same : symbol = separator
      · rw [same, pieces_cons_separator, ih]
        simp
      · apply iff_of_false (pieces_cons_ne_nil same rest)
        intro all
        exact same (all symbol List.mem_cons_self)

end Pieces
