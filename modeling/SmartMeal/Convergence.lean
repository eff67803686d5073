/-
Whether the stored favorites and the saved list of the server meet again.

Every edit changes the stored list at once and spawns a task of its own, so that
the server sees the edits in the order in which its requests are accepted.  Both
sides replay the same edits over the same ids, in different orders; once every
write has been accepted they hold the same ids exactly when, for every id, the
request accepted last does what the edit made last did.
-/

import SmartMeal.SavedRecipes

namespace SmartMeal.Convergence

open PartialStep KeyedEdits

variable {Caller : Type}

/-! ### The two sides -/

def storedIds (client : Client Caller) : Set Int64 := {id | id ∈ favoriteIds client.defaults}

def issuedEdits (client : Client Caller) : List (Edit Int64) :=
  client.issued.map fun write => editOf write.task

def acceptedEdits (client : Client Caller) : List (Edit Int64) :=
  client.accepted.filterMap fun entry => savedRecipesEdit entry.2

/-- Every write issued so far has been accepted once; none is outstanding. -/
def EveryWriteAccepted (client : Client Caller) : Prop :=
  (client.accepted.map Prod.fst).Perm client.issued

/-! ### What waits and what was accepted -/

def SendsItsEdit (task : DataTask Caller Write) : Prop :=
  match task.handler with
  | .performAuthorizedRequest call =>
      call = call.completion.call ∧ ∃ token, task.request = authorizedRequest token call
  | .refreshAccessToken (.performAuthorizedRequest call _) => call = call.completion.call
  | _ => True

theorem sendsItsEdit_step {client next : Client Caller} {action : Client.Action Caller}
    (waiting : ∀ flight ∈ client.inFlight, SendsItsEdit flight.task)
    (taken : client.step action = some next) :
    ∀ flight ∈ next.inFlight, SendsItsEdit flight.task := by
  refine Client.inFlight_step _ waiting ?_ ?_ ?_ ?_ taken
  · intro caller token _ _
    trivial
  · intro caller sent _ _
    trivial
  · intro index write token _ _ _
    exact ⟨rfl, token, rfl⟩
  · intro index result flight started _ found resumes
    have before := waiting flight (List.mem_of_getElem? found)
    unfold SendsItsEdit at before
    rcases DataTask.mem_resumed resumes with
      ⟨sent, completion, _, _, rfl, hCaller | hCall⟩ | ⟨completion, token, hHandler, _, rfl⟩
    · obtain ⟨caller, _, rfl⟩ := hCaller
      trivial
    · obtain ⟨call, hHandler, rfl⟩ := hCall
      rw [hHandler] at before
      exact before.1
    · rw [hHandler] at before
      cases completion with
      | validateToken caller => trivial
      | performAuthorizedRequest call response => exact ⟨before, token, rfl⟩

def AcceptedAsEdited (client : Client Caller) : Prop :=
  ∀ entry ∈ client.accepted, savedRecipesEdit entry.2 = some (editOf entry.1.task)

theorem acceptedAsEdited_step {client next : Client Caller} {action : Client.Action Caller}
    (waiting : ∀ flight ∈ client.inFlight, SendsItsEdit flight.task)
    (before : AcceptedAsEdited client) (taken : client.step action = some next) :
    AcceptedAsEdited next := by
  cases action with
  | accept index =>
      obtain ⟨request, call, found, rfl⟩ := Client.step_accept taken
      intro entry member
      rcases List.mem_append.mp member with earlier | here
      · exact before entry earlier
      · cases List.mem_singleton.mp here
        obtain ⟨own, token, requestEq⟩ := waiting _ (List.mem_of_getElem? found)
        change request = authorizedRequest token call at requestEq
        change savedRecipesEdit request = some (editOf call.completion.task)
        rw [requestEq, own]
        exact savedRecipesEdit_authorizedRequest token call.completion
  | runTask index =>
      obtain ⟨write, _, rfl⟩ := Client.step_runTask taken
      exact before
  | answer index result =>
      obtain ⟨flight, _, _, rfl⟩ := Client.step_answer taken
      exact before
  | removeTokens =>
      obtain ⟨_, _, _, rfl⟩ := Client.step_removeTokens taken
      exact before
  | _ => cases taken; exact before

theorem acceptedEdits_eq {client : Client Caller} (faithful : AcceptedAsEdited client) :
    acceptedEdits client = client.accepted.map fun entry => editOf entry.1.task := by
  unfold acceptedEdits
  rw [List.filterMap_congr faithful]
  exact congrFun (List.filterMap_eq_map) client.accepted

/-! ### The stored list replays the issued edits -/

theorem storedIds_add (recipe : Recipe) (client : Client Caller) :
    storedIds (client.edit (addToFavorites recipe client.defaults)) =
      (Edit.insert recipe.id).apply (storedIds client) := by
  ext id
  exact mem_favoriteIds_add recipe client.defaults id

theorem storedIds_remove (recipe : Recipe) (client : Client Caller) :
    storedIds (client.edit (removeFromFavorites recipe client.defaults)) =
      (Edit.erase recipe.id).apply (storedIds client) := by
  ext id
  exact mem_favoriteIds_remove recipe client.defaults id

private theorem replayed_of_same {client next : Client Caller} {start : Set Int64}
    (before : storedIds client = replay (issuedEdits client) start)
    (favorites : favoriteIds next.defaults = favoriteIds client.defaults)
    (issued : next.issued = client.issued) :
    storedIds next = replay (issuedEdits next) start := by
  unfold storedIds issuedEdits
  rw [favorites, issued]
  exact before

private theorem replayed_step {client next : Client Caller} {start : Set Int64}
    {action : Client.Action Caller} (before : storedIds client = replay (issuedEdits client) start)
    (taken : client.step action = some next) :
    storedIds next = replay (issuedEdits next) start := by
  cases action with
  | addToFavorites recipe =>
      cases taken
      have issued : issuedEdits (client.edit (addToFavorites recipe client.defaults)) =
          issuedEdits client ++ [.insert recipe.id] := List.map_append
      rw [storedIds_add, issued, replay_snoc, before]
  | removeFromFavorites recipe =>
      cases taken
      have issued : issuedEdits (client.edit (removeFromFavorites recipe client.defaults)) =
          issuedEdits client ++ [.erase recipe.id] := List.map_append
      rw [storedIds_remove, issued, replay_snoc, before]
  | saveToken access refresh => cases taken; exact before
  | signOut => cases taken; exact before
  | validateToken caller =>
      cases taken
      exact replayed_of_same before (by simp [Client.perform]) rfl
  | refreshAccessToken caller =>
      cases taken
      exact replayed_of_same before (by simp [Client.perform]) rfl
  | runTask index =>
      obtain ⟨write, _, rfl⟩ := Client.step_runTask taken
      exact replayed_of_same before (by simp [Client.perform]) rfl
  | accept index =>
      obtain ⟨_, _, _, rfl⟩ := Client.step_accept taken
      exact before
  | removeTokens =>
      obtain ⟨_, _, _, rfl⟩ := Client.step_removeTokens taken
      exact before
  | answer index result =>
      obtain ⟨flight, found, _, rfl⟩ := Client.step_answer taken
      have kept : favoriteIds (client.deliver index flight.task result).defaults =
          favoriteIds client.defaults := by
        rw [Client.deliver_defaults _ found]
        split <;> rfl
      exact replayed_of_same before kept rfl

/-! ### Convergence -/

/-- After any run that starts with equal sets and has every write accepted once,
the sets are equal exactly when, for every id, the request accepted last is of the
kind of the edit made last. -/
theorem storedIds_eq_savedIds_iff (defaults : UserDefaults) (actions : List (Client.Action Caller))
    (reached : Client Caller)
    (arrived : run Client.step (.launch defaults) actions = some reached)
    (complete : EveryWriteAccepted reached) :
    storedIds reached = replay (acceptedEdits reached) {id | id ∈ favoriteIds defaults} ↔
      ∀ id, lastOn id (issuedEdits reached) = lastOn id (acceptedEdits reached) := by
  obtain ⟨_, faithful, replayed⟩ := run_invariant
    (fun client => (∀ flight ∈ client.inFlight, SendsItsEdit flight.task) ∧
      AcceptedAsEdited client ∧
      storedIds client = replay (issuedEdits client) {id | id ∈ favoriteIds defaults})
    (fun client action next held taken => ⟨sendsItsEdit_step held.1 taken,
      acceptedAsEdited_step held.1 held.2.1 taken, replayed_step held.2.2 taken⟩)
    ⟨fun flight impossible => (by cases impossible),
      fun entry impossible => (by cases impossible), rfl⟩ arrived
  have rearranged : (issuedEdits reached).Perm (acceptedEdits reached) := by
    rw [acceptedEdits_eq faithful]
    have mapped := complete.symm.map fun write => editOf write.task
    rwa [List.map_map] at mapped
  rw [replayed]
  exact replay_eq_iff _ _ _ (lastOn_eq_none_of_perm rearranged)

theorem storedIds_eq_savedIds_in_order :
    ∃ reached : Client Unit,
      run Client.step (.launch ⟨some "access", some "refresh", none⟩)
          [.addToFavorites (.titled 1 "Plov"), .removeFromFavorites (.titled 1 "Plov"),
            .runTask 0, .runTask 0, .accept 0, .accept 1] = some reached ∧
        storedIds reached = replay (acceptedEdits reached)
          {id | id ∈ favoriteIds ⟨some "access", some "refresh", none⟩} := by
  have arrived : run Client.step
      (.launch ⟨some "access", some "refresh", none⟩ : Client Unit)
      [.addToFavorites (.titled 1 "Plov"), .removeFromFavorites (.titled 1 "Plov"),
        .runTask 0, .runTask 0, .accept 0, .accept 1] = some _ := rfl
  refine ⟨_, arrived, (storedIds_eq_savedIds_iff _ _ _ arrived ?_).mpr fun _ => ?_⟩
  · exact List.Perm.refl _
  · rfl

/-- The tasks of an add and of a later remove run in their order, but the server
accepts the DELETE before the POST: the recipe stays saved and is not stored. -/
theorem not_storedIds_eq_savedIds_reordered :
    ¬ ∀ (defaults : UserDefaults) (actions : List (Client.Action Unit)) (reached : Client Unit),
      run Client.step (.launch defaults) actions = some reached → EveryWriteAccepted reached →
        storedIds reached = replay (acceptedEdits reached) {id | id ∈ favoriteIds defaults} := by
  intro always
  have same := always ⟨some "access", some "refresh", none⟩
    [.addToFavorites (.titled 1 "Plov"), .removeFromFavorites (.titled 1 "Plov"),
      .runTask 0, .runTask 0, .accept 1, .accept 0] _ rfl (List.Perm.swap _ _ [])
  have stored : (1 : Int64) ∈ favoriteIds _ := (Set.ext_iff.mp same 1).mpr (Or.inl rfl)
  exact absurd stored (by decide)

end SmartMeal.Convergence
