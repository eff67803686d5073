/-
A request that is repeated under renewed tokens for as long as it is refused.

The answers of the server may depend on every request before them.  The loop
keeps no counter, so a refused attempt, a granted renewal and the next attempt
make a round that can be repeated without end.  These endless exchanges are the
only ones that do not finish.
-/

import Mathlib.Algebra.Ring.Parity
import Mathlib.Logic.Function.Iterate

namespace RetryLoop

variable {Token Request Answer : Type}

/-- How a token is spent and renewed; without a renewal a refusal is final. -/
structure Protocol (Token Request Answer : Type) where
  attempt : Token → Request
  renewal : Option Request
  refuses : Answer → Bool
  grants : Answer → Option Token

inductive Phase (Token Request : Type) where
  | attempting (token : Token)
  | renewing (renewal : Request)
  | finished

structure State (Token Request : Type) where
  phase : Phase Token Request
  requests : List Request

variable (protocol : Protocol Token Request Answer) (server : List Request → Answer)

def step (state : State Token Request) : State Token Request :=
  match state.phase with
  | .attempting token =>
      let requests := state.requests ++ [protocol.attempt token]
      match protocol.renewal, protocol.refuses (server requests) with
      | some renewal, true => ⟨.renewing renewal, requests⟩
      | _, _ => ⟨.finished, requests⟩
  | .renewing renewal =>
      let requests := state.requests ++ [renewal]
      match protocol.grants (server requests) with
      | some token => ⟨.attempting token, requests⟩
      | none => ⟨.finished, requests⟩
  | .finished => state

def rounds (renewal : Request) (tokens : Nat → Token) : Nat → List Request
  | 0 => []
  | count + 1 => rounds renewal tokens count ++ [protocol.attempt (tokens count), renewal]

/-- Every attempt is refused and every renewal granted, for some sequence of tokens. -/
def Endless (token : Token) : Prop :=
  ∃ renewal tokens, protocol.renewal = some renewal ∧ tokens 0 = token ∧
    ∀ round : Nat,
      protocol.refuses (server (rounds protocol renewal tokens round ++
        [protocol.attempt (tokens round)])) = true ∧
      protocol.grants (server (rounds protocol renewal tokens (round + 1))) =
        some (tokens (round + 1))

variable {protocol server}

/-! ### One round -/

theorem step_attempting_of_refused {token : Token} {renewal : Request}
    {requests : List Request} (renews : protocol.renewal = some renewal)
    (refused : protocol.refuses (server (requests ++ [protocol.attempt token])) = true) :
    step protocol server ⟨.attempting token, requests⟩ =
      ⟨.renewing renewal, requests ++ [protocol.attempt token]⟩ := by
  simp only [step, renews, refused]

theorem step_attempting_of_not_renewed {token : Token} {requests : List Request}
    (final : protocol.renewal = none ∨
      protocol.refuses (server (requests ++ [protocol.attempt token])) = false) :
    step protocol server ⟨.attempting token, requests⟩ =
      ⟨.finished, requests ++ [protocol.attempt token]⟩ := by
  rcases final with absent | accepted
  · simp only [step, absent]
  · cases renews : protocol.renewal with
    | none => simp only [step, renews]
    | some renewal => simp only [step, renews, accepted]

theorem step_renewing_of_granted {token : Token} {renewal : Request} {requests : List Request}
    (granted : protocol.grants (server (requests ++ [renewal])) = some token) :
    step protocol server ⟨.renewing renewal, requests⟩ =
      ⟨.attempting token, requests ++ [renewal]⟩ := by
  simp only [step, granted]

theorem step_renewing_of_not_granted {renewal : Request} {requests : List Request}
    (failed : protocol.grants (server (requests ++ [renewal])) = none) :
    step protocol server ⟨.renewing renewal, requests⟩ =
      ⟨.finished, requests ++ [renewal]⟩ := by
  simp only [step, failed]

private theorem round_of_running {token : Token} {requests : List Request}
    (first : (step protocol server ⟨.attempting token, requests⟩).phase ≠ .finished)
    (second : (step protocol server
      (step protocol server ⟨.attempting token, requests⟩)).phase ≠ .finished) :
    ∃ renewal next, protocol.renewal = some renewal ∧
      protocol.refuses (server (requests ++ [protocol.attempt token])) = true ∧
      protocol.grants (server (requests ++ [protocol.attempt token, renewal])) = some next := by
  cases renews : protocol.renewal with
  | none => exact absurd (congrArg State.phase (step_attempting_of_not_renewed (.inl renews))) first
  | some renewal =>
      cases refused : protocol.refuses (server (requests ++ [protocol.attempt token])) with
      | false =>
          exact absurd (congrArg State.phase (step_attempting_of_not_renewed (.inr refused))) first
      | true =>
          rw [step_attempting_of_refused renews refused] at second
          have joined : requests ++ [protocol.attempt token] ++ [renewal] =
              requests ++ [protocol.attempt token, renewal] := List.append_assoc _ _ _
          cases granted : protocol.grants
              (server (requests ++ [protocol.attempt token, renewal])) with
          | none =>
              rw [step_renewing_of_not_granted (by rw [joined]; exact granted)] at second
              exact absurd rfl second
          | some next => exact ⟨renewal, next, rfl, rfl, granted⟩

private theorem two_steps_of_round {token next : Token} {renewal : Request}
    {requests : List Request}
    (renews : protocol.renewal = some renewal)
    (refused : protocol.refuses (server (requests ++ [protocol.attempt token])) = true)
    (granted : protocol.grants (server (requests ++ [protocol.attempt token, renewal])) =
      some next) :
    step protocol server (step protocol server ⟨.attempting token, requests⟩) =
      ⟨.attempting next, requests ++ [protocol.attempt token, renewal]⟩ := by
  have joined : requests ++ [protocol.attempt token] ++ [renewal] =
      requests ++ [protocol.attempt token, renewal] := List.append_assoc _ _ _
  rw [step_attempting_of_refused renews refused,
    step_renewing_of_granted (by rw [joined]; exact granted), joined]

private theorem iterate_two_succ (count : Nat) (state : State Token Request) :
    (step protocol server)^[2 * (count + 1)] state =
      step protocol server (step protocol server ((step protocol server)^[2 * count] state)) := by
  rw [show 2 * (count + 1) = 2 * count + 1 + 1 from rfl, Function.iterate_succ_apply',
    Function.iterate_succ_apply']

/-! ### All rounds -/

private theorem iterate_of_rounds {renewal : Request} {tokens : Nat → Token}
    (renews : protocol.renewal = some renewal)
    (each : ∀ round : Nat,
      protocol.refuses (server (rounds protocol renewal tokens round ++
        [protocol.attempt (tokens round)])) = true ∧
      protocol.grants (server (rounds protocol renewal tokens (round + 1))) =
        some (tokens (round + 1)))
    (count : Nat) :
    (step protocol server)^[2 * count] ⟨.attempting (tokens 0), []⟩ =
      ⟨.attempting (tokens count), rounds protocol renewal tokens count⟩ := by
  induction count with
  | zero => rfl
  | succ count ih =>
      rw [iterate_two_succ, ih]
      exact two_steps_of_round renews (each count).1 (each count).2

private theorem running_of_endless {token : Token} (endless : Endless protocol server token)
    (count : Nat) :
    ((step protocol server)^[count] ⟨.attempting token, []⟩).phase ≠ .finished := by
  obtain ⟨renewal, tokens, renews, rfl, each⟩ := endless
  rcases Nat.even_or_odd' count with ⟨half, rfl | rfl⟩
  · rw [iterate_of_rounds renews each]
    intro impossible
    cases impossible
  · rw [Function.iterate_succ_apply', iterate_of_rounds renews each,
      step_attempting_of_refused renews (each half).1]
    intro impossible
    cases impossible

def attempted (token : Token) (state : State Token Request) : Token :=
  match state.phase with
  | .attempting next => next
  | _ => token

private theorem round_entered {token current : Token} {renewal : Request} {requests : List Request}
    {count : Nat} (renews : protocol.renewal = some renewal)
    (running : ∀ count,
      ((step protocol server)^[count] ⟨.attempting token, []⟩).phase ≠ .finished)
    (here : (step protocol server)^[2 * count] ⟨.attempting token, []⟩ =
      ⟨.attempting current, requests⟩) :
    ∃ next, protocol.refuses (server (requests ++ [protocol.attempt current])) = true ∧
      protocol.grants (server (requests ++ [protocol.attempt current, renewal])) = some next ∧
      (step protocol server)^[2 * (count + 1)] ⟨.attempting token, []⟩ =
        ⟨.attempting next, requests ++ [protocol.attempt current, renewal]⟩ := by
  have first := running (2 * count + 1)
  have second := running (2 * (count + 1))
  rw [Function.iterate_succ_apply', here] at first
  rw [iterate_two_succ, here] at second
  obtain ⟨renewal', next, renews', refused, granted⟩ := round_of_running first second
  cases Option.some.inj (renews.symm.trans renews')
  refine ⟨next, refused, granted, ?_⟩
  rw [iterate_two_succ, here]
  exact two_steps_of_round renews refused granted

/-- A loop that runs for ever spends a sequence of refused tokens. -/
private theorem endless_of_running {token : Token}
    (running : ∀ count,
      ((step protocol server)^[count] ⟨.attempting token, []⟩).phase ≠ .finished) :
    Endless protocol server token := by
  let tokens := fun count =>
    attempted token ((step protocol server)^[2 * count] ⟨.attempting token, []⟩)
  obtain ⟨renewal, _, renews, _, _⟩ := round_of_running (running 1) (running 2)
  have entered : ∀ count, (step protocol server)^[2 * count] ⟨.attempting token, []⟩ =
      ⟨.attempting (tokens count), rounds protocol renewal tokens count⟩ := by
    intro count
    induction count with
    | zero => rfl
    | succ count ih =>
        obtain ⟨next, _, _, arrived⟩ := round_entered renews running ih
        have nextEq : tokens (count + 1) = next := congrArg (attempted token) arrived
        rw [arrived, nextEq]
        rfl
  refine ⟨renewal, tokens, renews, rfl, fun round => ?_⟩
  obtain ⟨next, refused, granted, arrived⟩ := round_entered renews running (entered round)
  have nextEq : tokens (round + 1) = next := congrArg (attempted token) arrived
  exact ⟨refused, by rw [nextEq]; exact granted⟩

theorem finishes_iff (token : Token) :
    (∃ count, ((step protocol server)^[count] ⟨.attempting token, []⟩).phase = .finished) ↔
      ¬ Endless protocol server token := by
  constructor
  · rintro ⟨count, finished⟩ endless
    exact running_of_endless endless count finished
  · intro ends
    by_contra never
    exact ends (endless_of_running fun count finished => never ⟨count, finished⟩)

end RetryLoop
