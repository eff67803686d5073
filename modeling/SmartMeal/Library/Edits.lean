/-
Insertions and removals of keys, replayed over a set.

The last edit of a key decides whether the key is in the result; a key without
an edit keeps its place.  Two replicas that start alike and are edited on the
same keys therefore agree exactly when the last edits of every key agree,
whatever the order in which the other edits arrived.
-/

import Mathlib.Data.List.Induction
import Mathlib.Data.Set.Insert

namespace KeyedEdits

variable {Key : Type}

inductive Edit (Key : Type) where
  | insert (key : Key)
  | erase (key : Key)

def Edit.key : Edit Key → Key
  | .insert key => key
  | .erase key => key

def Edit.inserts : Edit Key → Bool
  | .insert _ => true
  | .erase _ => false

def Edit.apply : Edit Key → Set Key → Set Key
  | .insert key, keys => {other | other = key ∨ other ∈ keys}
  | .erase key, keys => {other | other ≠ key ∧ other ∈ keys}

def replay (edits : List (Edit Key)) (start : Set Key) : Set Key :=
  edits.foldl (fun keys edit => edit.apply keys) start

@[simp]
theorem replay_nil (start : Set Key) : replay [] start = start := rfl

theorem replay_snoc (edits : List (Edit Key)) (last : Edit Key) (start : Set Key) :
    replay (edits ++ [last]) start = last.apply (replay edits start) := by
  unfold replay
  rw [List.foldl_append]
  rfl

theorem replay_append (first second : List (Edit Key)) (start : Set Key) :
    replay (first ++ second) start = replay second (replay first start) :=
  List.foldl_append

variable [DecidableEq Key]

/-- What the last edit of the key did: whether it inserted, absent without one. -/
def lastOn (key : Key) (edits : List (Edit Key)) : Option Bool :=
  edits.foldl (fun found edit => if edit.key = key then some edit.inserts else found) none

@[simp]
theorem lastOn_nil (key : Key) : lastOn key ([] : List (Edit Key)) = none := rfl

theorem lastOn_snoc (key : Key) (edits : List (Edit Key)) (last : Edit Key) :
    lastOn key (edits ++ [last]) =
      if last.key = key then some last.inserts else lastOn key edits := by
  unfold lastOn
  rw [List.foldl_append]
  rfl

theorem lastOn_eq_none_iff (key : Key) (edits : List (Edit Key)) :
    lastOn key edits = none ↔ ∀ edit ∈ edits, edit.key ≠ key := by
  induction edits using List.reverseRecOn with
  | nil => simp
  | append_singleton edits last ih =>
      rw [lastOn_snoc]
      by_cases same : last.key = key
      · rw [if_pos same]
        constructor
        · intro impossible
          cases impossible
        · intro untouched
          exact absurd same (untouched last (by simp))
      · rw [if_neg same, ih]
        constructor
        · intro untouched edit member
          rcases List.mem_append.mp member with earlier | here
          · exact untouched edit earlier
          · rw [List.mem_singleton.mp here]
            exact same
        · intro untouched edit member
          exact untouched edit (List.mem_append_left _ member)

theorem mem_apply_iff (edit : Edit Key) (keys : Set Key) (key : Key) :
    key ∈ edit.apply keys ↔
      (edit.key = key ∧ edit.inserts = true) ∨ (edit.key ≠ key ∧ key ∈ keys) := by
  cases edit with
  | insert named =>
      by_cases same : named = key
      · simp [Edit.apply, Edit.key, Edit.inserts, same]
      · simp [Edit.apply, Edit.key, Edit.inserts, same, Ne.symm same]
  | erase named =>
      by_cases same : named = key
      · simp [Edit.apply, Edit.key, Edit.inserts, same]
      · simp [Edit.apply, Edit.key, Edit.inserts, same, Ne.symm same]

private theorem mem_replay_iff (edits : List (Edit Key)) (start : Set Key) (key : Key) :
    key ∈ replay edits start ↔
      lastOn key edits = some true ∨ (lastOn key edits = none ∧ key ∈ start) := by
  induction edits using List.reverseRecOn with
  | nil => simp
  | append_singleton edits last ih =>
      rw [replay_snoc, mem_apply_iff, lastOn_snoc, ih]
      by_cases same : last.key = key
      · simp [same]
      · simp [same]

/-- A replica that was edited on the keys of another and on more agrees with it exactly when
each key that the larger one was edited on last ends as the smaller one left it. -/
theorem replay_eq_iff_last (first second : List (Edit Key)) (start : Set Key)
    (touched : ∀ key, lastOn key second = none → lastOn key first = none) :
    replay first start = replay second start ↔
      ∀ key inserted, lastOn key second = some inserted →
        lastOn key first = some inserted ∨
          (lastOn key first = none ∧ (key ∈ start ↔ inserted = true)) := by
  constructor
  · intro same key inserted last
    have members : key ∈ replay first start ↔ key ∈ replay second start := by rw [same]
    rw [mem_replay_iff, mem_replay_iff, last] at members
    cases own : lastOn key first with
    | none =>
        rw [own] at members
        exact Or.inr ⟨rfl, by simpa using members⟩
    | some kind =>
        rw [own] at members
        left
        cases kind <;> cases inserted <;> simp_all
  · intro ends
    ext key
    rw [mem_replay_iff, mem_replay_iff]
    cases last : lastOn key second with
    | none => rw [touched key last]
    | some inserted =>
        rcases ends key inserted last with own | ⟨own, stays⟩
        · rw [own]
        · rw [own]
          cases inserted <;> simp_all

theorem replay_eq_iff (first second : List (Edit Key)) (start : Set Key)
    (touched : ∀ key, lastOn key first = none ↔ lastOn key second = none) :
    replay first start = replay second start ↔
      ∀ key, lastOn key first = lastOn key second := by
  constructor
  · intro same key
    have members : key ∈ replay first start ↔ key ∈ replay second start := by rw [same]
    rw [mem_replay_iff, mem_replay_iff] at members
    have untouched := touched key
    cases hFirst : lastOn key first with
    | none => exact (untouched.mp hFirst).symm
    | some firstKind =>
        cases hSecond : lastOn key second with
        | none =>
            rw [untouched.mpr hSecond] at hFirst
            cases hFirst
        | some secondKind =>
            rw [hFirst, hSecond] at members
            cases firstKind <;> cases secondKind <;> simp_all
  · intro agree
    ext key
    rw [mem_replay_iff, mem_replay_iff, agree key]

theorem lastOn_eq_none_of_perm {first second : List (Edit Key)} (same : first.Perm second)
    (key : Key) : lastOn key first = none ↔ lastOn key second = none := by
  rw [lastOn_eq_none_iff, lastOn_eq_none_iff]
  constructor
  · intro untouched edit member
    exact untouched edit (same.mem_iff.mpr member)
  · intro untouched edit member
    exact untouched edit (same.mem_iff.mp member)

end KeyedEdits
