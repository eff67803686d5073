/-
The clusters of a sequence whose symbols join the cluster before them or begin a new one.

The rule that decides sees the cluster so far and the next symbol.  What follows a text
therefore sees only its last cluster, and whether two texts keep their clusters when they
are written one after the other depends on that cluster and on one symbol.
-/

import Mathlib.Data.List.Flatten

namespace Clusters

variable {Symbol : Type} {joins : List Symbol → Symbol → Bool}

/-- The clusters of a text that follows a cluster which may still grow. -/
def grow (joins : List Symbol → Symbol → Bool) : List Symbol → List Symbol → List (List Symbol)
  | cluster, [] => [cluster]
  | cluster, symbol :: rest =>
      if joins cluster symbol then grow joins (cluster ++ [symbol]) rest
      else cluster :: grow joins [symbol] rest

def clusters (joins : List Symbol → Symbol → Bool) : List Symbol → List (List Symbol)
  | [] => []
  | symbol :: rest => grow joins [symbol] rest

/-- Written one after the other, the texts keep their clusters. -/
def Apart (joins : List Symbol → Symbol → Bool) (first second : List Symbol) : Prop :=
  clusters joins (first ++ second) = clusters joins first ++ clusters joins second

instance [DecidableEq Symbol] (first second : List Symbol) :
    Decidable (Apart joins first second) :=
  inferInstanceAs (Decidable (_ = _))

/-! ### What the clusters are made of -/

private theorem flatten_grow (cluster text : List Symbol) :
    (grow joins cluster text).flatten = cluster ++ text := by
  induction text generalizing cluster with
  | nil => simp [grow]
  | cons symbol rest ih =>
      unfold grow
      split
      · rw [ih, List.append_assoc, List.singleton_append]
      · rw [List.flatten_cons, ih, List.singleton_append]

theorem flatten_clusters (text : List Symbol) : (clusters joins text).flatten = text := by
  cases text with
  | nil => rfl
  | cons symbol rest => exact flatten_grow [symbol] rest

private theorem ne_nil_of_mem_grow {cluster text piece : List Symbol} (nonempty : cluster ≠ [])
    (member : piece ∈ grow joins cluster text) : piece ≠ [] := by
  induction text generalizing cluster with
  | nil =>
      rw [List.mem_singleton.mp member]
      exact nonempty
  | cons symbol rest ih =>
      unfold grow at member
      split at member
      · exact ih (by simp) member
      · rcases List.mem_cons.mp member with rfl | later
        · exact nonempty
        · exact ih (List.cons_ne_nil symbol []) later

theorem ne_nil_of_mem_clusters {text piece : List Symbol}
    (member : piece ∈ clusters joins text) : piece ≠ [] := by
  cases text with
  | nil => cases member
  | cons symbol rest => exact ne_nil_of_mem_grow (List.cons_ne_nil symbol []) member

theorem clusters_ne_nil {text : List Symbol} (nonempty : text ≠ []) :
    clusters joins text ≠ [] := by
  intro none
  apply nonempty
  rw [← @flatten_clusters _ joins text, none]
  rfl

theorem clusters_eq_map {text : List Symbol}
    (alone : ∀ first ∈ text, ∀ second ∈ text, joins [first] second = false) :
    clusters joins text = text.map fun symbol => [symbol] := by
  cases text with
  | nil => rfl
  | cons symbol rest =>
      change grow joins [symbol] rest = _
      induction rest generalizing symbol with
      | nil => rfl
      | cons next rest ih =>
          have apart := alone symbol List.mem_cons_self next (by simp)
          have later := ih next fun first here second there =>
            alone first (List.mem_cons_of_mem _ here) second (List.mem_cons_of_mem _ there)
          rw [grow, if_neg (by rw [apart]; decide), later]
          rfl

/-! ### Texts that are written one after the other -/

theorem exists_grow_eq (cluster text : List Symbol) :
    ∃ more later, grow joins cluster text = (cluster ++ more) :: later := by
  induction text generalizing cluster with
  | nil => exact ⟨[], [], by simp [grow]⟩
  | cons symbol rest ih =>
      unfold grow
      split
      · obtain ⟨more, later, grown⟩ := ih (cluster ++ [symbol])
        exact ⟨symbol :: more, later, by rw [grown, List.append_assoc, List.singleton_append]⟩
      · exact ⟨[], _, by rw [List.append_nil]⟩

private theorem exists_grow_append (cluster first : List Symbol) :
    ∃ done last, grow joins cluster first = done ++ [last] ∧
      ∀ second, grow joins cluster (first ++ second) = done ++ grow joins last second := by
  induction first generalizing cluster with
  | nil => exact ⟨[], cluster, rfl, fun _ => rfl⟩
  | cons symbol rest ih =>
      by_cases taken : joins cluster symbol
      · obtain ⟨done, last, split, append⟩ := ih (cluster ++ [symbol])
        exact ⟨done, last, by simpa only [grow, if_pos taken] using split,
          fun second => by simpa only [List.cons_append, grow, if_pos taken] using append second⟩
      · obtain ⟨done, last, split, append⟩ := ih [symbol]
        refine ⟨cluster :: done, last, ?_, fun second => ?_⟩
        · rw [grow, if_neg taken, split, List.cons_append]
        · rw [List.cons_append, grow, if_neg taken, append second, List.cons_append]

/-- What follows a text sees only its last cluster. -/
theorem exists_clusters_append {first : List Symbol} (nonempty : first ≠ []) :
    ∃ done last, clusters joins first = done ++ [last] ∧
      ∀ second, clusters joins (first ++ second) = done ++ grow joins last second := by
  cases first with
  | nil => exact absurd rfl nonempty
  | cons symbol rest => exact exists_grow_append [symbol] rest

/-- Texts are apart exactly when the first symbol of the second does not join the last
cluster of the first. -/
theorem apart_cons_iff {first : List Symbol} {done : List (List Symbol)} {last : List Symbol}
    (split : clusters joins first = done ++ [last]) (symbol : Symbol) (rest : List Symbol) :
    Apart joins first (symbol :: rest) ↔ joins last symbol = false := by
  have nonempty : first ≠ [] := by
    rintro rfl
    have counted := congrArg List.length split
    rw [List.length_append, List.length_singleton] at counted
    exact absurd counted (Nat.succ_ne_zero _).symm
  obtain ⟨before, final, same, append⟩ := @exists_clusters_append _ joins first nonempty
  obtain ⟨rfl, rfl⟩ := List.append_singleton_inj.mp (split.symm.trans same)
  unfold Apart
  rw [append, split, grow]
  by_cases taken : joins last symbol
  · obtain ⟨more, later, grown⟩ := @exists_grow_eq _ joins (last ++ [symbol]) rest
    rw [if_pos taken, grown]
    apply iff_of_false
    · intro kept
      rw [List.append_assoc done [last]] at kept
      have heads := (List.cons_eq_cons.mp (List.append_cancel_left kept)).1
      have lengths := congrArg List.length heads
      simp only [List.length_append, List.length_cons, List.length_nil] at lengths
      omega
    · rw [taken]
      decide
  · rw [if_neg taken]
    apply iff_of_true
    · rw [List.append_assoc]
      rfl
    · exact Bool.eq_false_iff.mpr taken

theorem apart_cons_iff_apart_cons (first : List Symbol) (symbol : Symbol)
    (rest other : List Symbol) :
    Apart joins first (symbol :: rest) ↔ Apart joins first (symbol :: other) := by
  by_cases nonempty : first = []
  · rw [nonempty]
    exact iff_of_true rfl rfl
  · obtain ⟨done, last, split, _⟩ := @exists_clusters_append _ joins first nonempty
    rw [apart_cons_iff split, apart_cons_iff split]

theorem apart_nil (first : List Symbol) : Apart joins first [] := by
  unfold Apart
  rw [List.append_nil]
  exact (List.append_nil _).symm

/-- Two texts are apart if some clusters of theirs end where the first text does. -/
theorem apart_of_flatten {first second : List Symbol} {done later : List (List Symbol)}
    (split : clusters joins (first ++ second) = done ++ later) (ends : done.flatten = first) :
    Apart joins first second := by
  by_cases nonempty : first = []
  · rw [nonempty]
    rfl
  cases second with
  | nil => exact apart_nil first
  | cons symbol rest =>
      obtain ⟨before, last, own, append⟩ := @exists_clusters_append _ joins first nonempty
      rw [apart_cons_iff own, ← Bool.not_eq_true]
      intro taken
      obtain ⟨more, others, grown⟩ := @exists_grow_eq _ joins (last ++ [symbol]) rest
      have flat : before.flatten ++ last = first := by
        rw [← @flatten_clusters _ joins first, own]
        simp
      rw [append, grow, if_pos taken, grown] at split
      -- the cluster that `symbol` has joined lies before the end of `done`, or after it
      have here : before ++ [last ++ [symbol] ++ more] <+: done ++ later :=
        ⟨others, by rw [← split, List.append_assoc, List.singleton_append]⟩
      rcases List.prefix_or_prefix_of_prefix here (List.prefix_append done later) with
        inside | outside
      · have short := inside.sublist.flatten.length_le
        rw [ends, ← flat] at short
        simp only [List.flatten_append, List.flatten_cons, List.flatten_nil, List.length_append,
          List.length_cons, List.length_nil] at short
        omega
      · rcases List.prefix_concat_iff.mp outside with whole | early
        · have same := congrArg (List.length ∘ List.flatten) whole
          simp only [Function.comp_apply, ends, ← flat, List.flatten_append, List.flatten_cons,
            List.flatten_nil, List.length_append, List.length_cons, List.length_nil] at same
          omega
        · have short := early.sublist.flatten.length_le
          have member : last ∈ clusters joins first := by
            rw [own]
            simp
          have positive := List.length_pos_iff.mpr (ne_nil_of_mem_clusters member)
          rw [ends, ← flat, List.length_append] at short
          omega

end Clusters
