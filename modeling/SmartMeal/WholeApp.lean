/-
The app as a whole, from a tap on a bookmark to the saved list of the server.

The screens and the network side work on one store.  A tap edits the store, rebuilds the
screens and spawns the write; the network side answers, refreshes and repeats behind them.
Once every write has been accepted, what the favorites screen shows is what the server has
saved exactly when, for every id written since the last synchronization was answered, the
write accepted last leaves the id as the screen has it.
-/

import SmartMeal.Convergence
import SmartMeal.EditDelivery
import SmartMeal.FavoritesMirror
import SmartMeal.Library.History

namespace SmartMeal.WholeApp

open PartialStep ObjectHeap KeyedEdits Convergence EditDelivery FavoritesMirror
open Screens hiding step Action launch
open Client hiding step Action launch

variable {Caller : Type}

/-- The two sides share the store. -/
structure App (Caller : Type) where
  deliveries : Deliveries Caller
  screens : Screens
  shared : screens.defaults = deliveries.client.defaults

namespace App

abbrev client (app : App Caller) : Client Caller := app.deliveries.client

def launch (defaults : UserDefaults) : App Caller :=
  { deliveries := .launch defaults
    screens := .launch defaults
    shared := rfl }

def withDeliveries (app : App Caller) (deliveries : Deliveries Caller) : App Caller :=
  { deliveries := deliveries
    screens := { app.screens with defaults := deliveries.client.defaults }
    shared := rfl }

def withScreens (app : App Caller) (screens : Screens) : App Caller :=
  { deliveries :=
      { app.deliveries with client := { app.deliveries.client with defaults := screens.defaults } }
    screens := screens
    shared := rfl }

/-- `CollectionCellViewModel.toggleFavorite`, whose edit spawns a write. -/
def toggleFavorite (app : App Caller) (ref : Ref) (viewModel : CollectionCellViewModel) :
    App Caller :=
  let edited :=
    if viewModel.isFavorite then removeFromFavorites viewModel.recipe app.screens.defaults
    else addToFavorites viewModel.recipe app.screens.defaults
  { deliveries := { app.deliveries with client := app.deliveries.client.edit edited }
    screens := app.screens.toggleFavorite ref viewModel
    shared := by
      unfold Screens.toggleFavorite edited
      cases viewModel.isFavorite <;> rfl }

end App

inductive Action (Caller : Type) where
  | client (action : Client.Action Caller)
  | screens (action : Screens.Action)

/-- The edits of the network side are made by taps only. -/
def isEdit : Client.Action Caller → Bool
  | .addToFavorites _ => true
  | .removeFromFavorites _ => true
  | _ => false

def step (text : TextSearch) : Transition (App Caller) (Action Caller)
  | app, .client action =>
      if isEdit action then none
      else (Deliveries.step app.deliveries action).map app.withDeliveries
  | app, .screens (.toggleFavorite ref) =>
      (app.screens.viewModels[ref]?).map fun viewModel => app.toggleFavorite ref viewModel
  | app, .screens action => (Screens.step text app.screens action).map app.withScreens

def displayedIds (app : App Caller) : Set Int64 :=
  {id | ∃ ref ∈ app.screens.favorites.collectionCellViewModels, ∃ viewModel,
    app.screens.viewModels[ref]? = some viewModel ∧ viewModel.recipe.id = id}

/-- What the server has saved, from what it had at the launch. -/
def savedIds (start : Set Int64) (app : App Caller) : Set Int64 :=
  replay (acceptedEdits app.client) start

def replaces : Action Caller → Bool
  | .screens (.synced answer) => (FavoritesProcess.loaded answer).isSome
  | _ => false

variable {text : TextSearch} {app next : App Caller}

/-! ### What a step does -/

def tapped (viewModel : CollectionCellViewModel) : Client.Action Caller :=
  if viewModel.isFavorite then .removeFromFavorites viewModel.recipe
  else .addToFavorites viewModel.recipe

private theorem deliveries_toggleFavorite (app : App Caller) (ref : Ref)
    (viewModel : CollectionCellViewModel) :
    Deliveries.step app.deliveries (tapped viewModel) =
      some (app.toggleFavorite ref viewModel).deliveries := by
  have own : (app.toggleFavorite ref viewModel).deliveries =
      { app.deliveries with
        client := app.client.edit
          (if viewModel.isFavorite then removeFromFavorites viewModel.recipe app.screens.defaults
          else addToFavorites viewModel.recipe app.screens.defaults) } := rfl
  rw [own, app.shared]
  unfold tapped
  cases viewModel.isFavorite with
  | true => exact congrArg some (next_of_silent rfl)
  | false => exact congrArg some (next_of_silent rfl)

private theorem step_cases {action : Action Caller} (taken : step text app action = some next) :
    (∃ own deliveries, action = .client own ∧ isEdit own = false ∧
        Deliveries.step app.deliveries own = some deliveries ∧
          next = app.withDeliveries deliveries) ∨
      (∃ ref viewModel, action = .screens (.toggleFavorite ref) ∧
        app.screens.viewModels[ref]? = some viewModel ∧
          next = app.toggleFavorite ref viewModel) ∨
      ∃ own screens, action = .screens own ∧ (∀ ref, own ≠ .toggleFavorite ref) ∧
        Screens.step text app.screens own = some screens ∧ next = app.withScreens screens := by
  cases action with
  | client own =>
      simp only [step] at taken
      split at taken
      · cases taken
      · rename_i noEdit
        obtain ⟨deliveries, stepped, rfl⟩ := Option.map_eq_some_iff.mp taken
        exact Or.inl ⟨own, deliveries, rfl, by simpa using noEdit, stepped, rfl⟩
  | screens own =>
      by_cases tap : ∃ ref, own = .toggleFavorite ref
      · obtain ⟨ref, rfl⟩ := tap
        obtain ⟨viewModel, found, rfl⟩ := Option.map_eq_some_iff.mp taken
        exact Or.inr (Or.inl ⟨ref, viewModel, rfl, found, rfl⟩)
      · have noTap : ∀ ref, own ≠ .toggleFavorite ref := fun ref same => tap ⟨ref, same⟩
        have plain : step text app (.screens own) =
            (Screens.step text app.screens own).map app.withScreens := by
          cases own with
          | toggleFavorite ref => exact absurd rfl (noTap ref)
          | _ => rfl
        rw [plain] at taken
        obtain ⟨screens, stepped, rfl⟩ := Option.map_eq_some_iff.mp taken
        exact Or.inr (Or.inr ⟨own, screens, rfl, noTap, stepped, rfl⟩)

/-! ### The edits -/

private theorem unedited_step {client after : Client Caller} {action : Client.Action Caller}
    (noEdit : isEdit action = false) (taken : client.step action = some after) :
    after.issued = client.issued ∧ getFavorites after.defaults = getFavorites client.defaults := by
  cases action with
  | addToFavorites recipe => cases noEdit
  | removeFromFavorites recipe => cases noEdit
  | saveToken access refresh => cases taken; exact ⟨rfl, rfl⟩
  | signOut => cases taken; exact ⟨rfl, rfl⟩
  | validateToken caller =>
      cases taken
      exact ⟨rfl, by simp [Client.perform]⟩
  | refreshAccessToken caller =>
      cases taken
      exact ⟨rfl, by simp [Client.perform]⟩
  | runTask index =>
      obtain ⟨write, _, rfl⟩ := step_runTask taken
      exact ⟨rfl, by simp [Client.perform]⟩
  | accept index =>
      obtain ⟨_, _, _, rfl⟩ := step_accept taken
      exact ⟨rfl, rfl⟩
  | removeTokens =>
      obtain ⟨_, _, _, rfl⟩ := step_removeTokens taken
      exact ⟨rfl, rfl⟩
  | answer index result =>
      obtain ⟨flight, found, _, rfl⟩ := step_answer taken
      refine ⟨rfl, ?_⟩
      rw [deliver_defaults _ found]
      split <;> rfl

private theorem edits_toggleFavorite (app : App Caller) (ref : Ref)
    (viewModel : CollectionCellViewModel) :
    ∃ edit, issuedEdits (app.toggleFavorite ref viewModel).client =
        issuedEdits app.client ++ [edit] ∧
      storedIds (app.toggleFavorite ref viewModel).client = edit.apply (storedIds app.client) := by
  have own : (app.toggleFavorite ref viewModel).client = app.client.edit
      (if viewModel.isFavorite then removeFromFavorites viewModel.recipe app.screens.defaults
      else addToFavorites viewModel.recipe app.screens.defaults) := rfl
  rw [own, app.shared]
  cases viewModel.isFavorite with
  | true =>
      exact ⟨.erase viewModel.recipe.id, List.map_append, storedIds_remove viewModel.recipe _⟩
  | false =>
      exact ⟨.insert viewModel.recipe.id, List.map_append, storedIds_add viewModel.recipe _⟩

/-- A step that loads no list makes one edit, on both sides, or none. -/
private theorem edits_step {action : Action Caller} (loads : replaces action = false)
    (taken : step text app action = some next) :
    (issuedEdits next.client = issuedEdits app.client ∧
        storedIds next.client = storedIds app.client) ∨
      ∃ edit, issuedEdits next.client = issuedEdits app.client ++ [edit] ∧
        storedIds next.client = edit.apply (storedIds app.client) := by
  rcases step_cases taken with ⟨own, deliveries, rfl, noEdit, stepped, rfl⟩ |
    ⟨ref, viewModel, rfl, found, rfl⟩ | ⟨own, screens, rfl, noTap, stepped, rfl⟩
  · obtain ⟨client, changed, rfl⟩ := Option.map_eq_some_iff.mp stepped
    obtain ⟨issued, favorites⟩ := unedited_step noEdit changed
    left
    constructor
    · change client.issued.map _ = _
      rw [issued]
      rfl
    · change {id | id ∈ (getFavorites client.defaults).map Recipe.id} = _
      rw [favorites]
      rfl
  · exact Or.inr (edits_toggleFavorite app ref viewModel)
  · have kept : screens.defaults = app.screens.defaults := by
      rw [step_defaults stepped]
      unfold changedDefaults
      cases own with
      | toggleFavorite ref => exact absurd rfl (noTap ref)
      | synced answer =>
          change (FavoritesProcess.loaded answer).isSome = false at loads
          cases loaded : FavoritesProcess.loaded answer with
          | none => simp only [storeChange, loaded, Option.map_none]
          | some recipes => rw [loaded] at loads; cases loads
      | _ => rfl
    left
    refine ⟨rfl, ?_⟩
    change {id | id ∈ favoriteIds screens.defaults} = _
    rw [kept, app.shared]
    rfl

/-! ### What the network side keeps -/

private theorem deliveries_step (holds : Deliveries Caller → Prop)
    (kept : ∀ deliveries action after, holds deliveries →
      Deliveries.step deliveries action = some after → holds after)
    (stored : ∀ (deliveries : Deliveries Caller) (defaults : UserDefaults), holds deliveries →
      holds { deliveries with client := { deliveries.client with defaults := defaults } })
    {action : Action Caller} (before : holds app.deliveries)
    (taken : step text app action = some next) : holds next.deliveries := by
  rcases step_cases taken with ⟨own, deliveries, rfl, _, stepped, rfl⟩ |
    ⟨ref, viewModel, rfl, _, rfl⟩ | ⟨own, screens, rfl, _, _, rfl⟩
  · exact kept _ _ _ before stepped
  · exact kept _ _ _ before (deliveries_toggleFavorite app ref viewModel)
  · exact stored _ _ before

structure Faithful (deliveries : Deliveries Caller) : Prop where
  waiting : ∀ flight ∈ deliveries.client.inFlight, SendsItsEdit flight.task
  accepted : AcceptedAsEdited deliveries.client
  accounted : Accounted deliveries
  once : AcceptedOnce deliveries

private theorem faithful_step {action : Action Caller} (faithful : Faithful app.deliveries)
    (taken : step text app action = some next) : Faithful next.deliveries := by
  refine deliveries_step Faithful ?_ ?_ faithful taken
  · intro deliveries own after before stepped
    obtain ⟨client, changed, same⟩ := Option.map_eq_some_iff.mp stepped
    constructor
    · rw [← same]
      exact sendsItsEdit_step before.waiting changed
    · rw [← same]
      exact acceptedAsEdited_step before.waiting before.accepted changed
    · exact accounted_step before.accounted stepped
    · exact acceptedOnce_step before.once stepped
  · intro deliveries defaults before
    exact ⟨before.waiting, before.accepted, accounted_of_same before.accounted rfl rfl rfl,
      acceptedOnce_of_same before.once rfl rfl⟩

private theorem faithful_run {defaults : UserDefaults} {actions : List (Action Caller)}
    (arrived : run (step text) (.launch defaults) actions = some app) :
    Faithful app.deliveries := by
  refine run_invariant (fun later : App Caller => Faithful later.deliveries)
    (fun _ _ _ => faithful_step) ?_ arrived
  constructor
  · intro flight impossible
    cases impossible
  · intro entry impossible
    cases impossible
  · rfl
  · refine ⟨?_, le_refl _⟩
    intro flight impossible
    cases impossible

private theorem records_accepted (text : TextSearch) :
    Records (step text) fun app : App Caller => app.client.accepted := by
  intro app action next taken
  rcases step_cases taken with ⟨own, deliveries, rfl, _, stepped, rfl⟩ |
    ⟨ref, viewModel, rfl, _, rfl⟩ | ⟨own, screens, rfl, _, _, rfl⟩
  · obtain ⟨client, changed, rfl⟩ := Option.map_eq_some_iff.mp stepped
    cases own with
    | accept index =>
        obtain ⟨request, call, _, rfl⟩ := step_accept changed
        exact Or.inr ⟨_, rfl⟩
    | runTask index =>
        obtain ⟨write, _, rfl⟩ := step_runTask changed
        exact Or.inl rfl
    | answer index result =>
        obtain ⟨flight, _, _, rfl⟩ := step_answer changed
        exact Or.inl rfl
    | removeTokens =>
        obtain ⟨_, _, _, rfl⟩ := step_removeTokens changed
        exact Or.inl rfl
    | _ => cases changed; exact Or.inl rfl
  · exact Or.inl rfl
  · exact Or.inl rfl

/-! ### What the favorites screen shows -/

private theorem mirrors_stored_alike {screens : Screens} {defaults : UserDefaults}
    (mirrors : Mirrors screens)
    (alike : getFavorites defaults = getFavorites screens.defaults) :
    Mirrors { screens with defaults := defaults } where
  stored := mirrors.stored.trans alike.symm
  shown := by
    change screens.Shows _ (getFavorites defaults)
    rw [alike]
    exact mirrors.shown
  flags := by
    change Reads _ _ _ ((getFavorites defaults).map _)
    rw [alike]
    exact mirrors.flags

private theorem mirrors_app_step {action : Action Caller} (mirrors : Mirrors app.screens)
    (taken : step text app action = some next) : Mirrors next.screens := by
  rcases step_cases taken with ⟨own, deliveries, rfl, noEdit, stepped, rfl⟩ |
    ⟨ref, viewModel, rfl, found, rfl⟩ | ⟨own, screens, rfl, _, stepped, rfl⟩
  · obtain ⟨client, changed, rfl⟩ := Option.map_eq_some_iff.mp stepped
    have favorites := (unedited_step noEdit changed).2
    rw [← app.shared] at favorites
    exact mirrors_stored_alike mirrors favorites
  · have tapped : Screens.step text app.screens (.toggleFavorite ref) =
        some (app.screens.toggleFavorite ref viewModel) := by
      simp only [Screens.step, found, Option.map_some]
    exact mirrors_step_screens (fun _ => mirrors) tapped
  · exact mirrors_step_screens (fun _ => mirrors) stepped

private theorem displayedIds_eq (mirrors : Mirrors app.screens) :
    displayedIds app = storedIds app.client := by
  ext id
  change _ ↔ id ∈ favoriteIds app.client.defaults
  unfold favoriteIds
  rw [← app.shared, List.mem_map]
  constructor
  · rintro ⟨ref, member, viewModel, found, rfl⟩
    refine ⟨viewModel.recipe, (mirrors.shown.mem_iff viewModel.recipe).mpr ⟨ref, member, ?_⟩, rfl⟩
    rw [found]
    rfl
  · rintro ⟨recipe, stored, rfl⟩
    obtain ⟨ref, member, read⟩ := (mirrors.shown.mem_iff recipe).mp stored
    obtain ⟨viewModel, found, same⟩ := Option.map_eq_some_iff.mp read
    exact ⟨ref, member, viewModel, found, congrArg Recipe.id same⟩

/-! ### Since the last list was loaded -/

def editsSince (mark app : App Caller) : List (Edit Int64) :=
  (issuedEdits app.client).drop (issuedEdits mark.client).length

/-- The stored list follows the edits from the one of the mark on, and the favorites screen
mirrors it. -/
structure Follows (mark app : App Caller) : Prop where
  issued : issuedEdits mark.client <+: issuedEdits app.client
  stored : storedIds app.client = replay (editsSince mark app) (storedIds mark.client)
  mirrors : Mirrors app.screens

private theorem follows_step {mark : App Caller} {action : Action Caller}
    (follows : Follows mark app)
    (loads : replaces action = false) (taken : step text app action = some next) :
    Follows mark next := by
  have before := follows.stored
  have mirrors := mirrors_app_step follows.mirrors taken
  rcases edits_step loads taken with ⟨issued, stored⟩ | ⟨edit, issued, stored⟩
  · refine ⟨?_, ?_, mirrors⟩
    · rw [issued]
      exact follows.issued
    · unfold editsSince
      rw [stored, issued]
      exact before
  · refine ⟨?_, ?_, mirrors⟩
    · rw [issued]
      exact follows.issued.trans (List.prefix_append _ _)
    · unfold editsSince
      rw [stored, issued, List.drop_append_of_le_length follows.issued.length_le, replay_snoc,
        before]
      rfl

private theorem follows_run {mark : App Caller} {actions : List (Action Caller)}
    (mirrors : Mirrors mark.screens) (loads : ∀ action ∈ actions, replaces action = false)
    (arrived : run (step text) mark actions = some app) : Follows mark app := by
  refine run_invariant_of_allowed (Follows mark)
    (fun _ _ _ follows allowed taken => follows_step follows allowed taken) ?_ loads arrived
  refine ⟨List.prefix_refl _, ?_, mirrors⟩
  unfold editsSince
  rw [List.drop_length]
  rfl

/-! ### The two sides of the last synchronization -/

private theorem subperm_of_append {Item : Type} {first second others rest : List Item}
    (same : (first ++ second).Perm (others ++ rest)) (less : first.Subperm others) :
    rest.Subperm second := by
  obtain ⟨more, divided⟩ := Multiset.le_iff_exists_add.mp (Multiset.coe_le.mpr less)
  have whole : (first : Multiset Item) + second = others + rest := Multiset.coe_eq_coe.mpr same
  rw [divided, add_assoc] at whole
  apply Multiset.coe_le.mp
  rw [add_left_cancel whole]
  exact Multiset.le_add_left _ _

private theorem acceptedEdits_subperm (faithful : Faithful app.deliveries) :
    (acceptedEdits app.client).Subperm (issuedEdits app.client) := by
  rw [acceptedEdits_eq faithful.accepted]
  have bounded := faithful.once.subperm faithful.accounted
  rw [List.append_assoc] at bounded
  have writes := (List.sublist_append_left _ _).subperm.trans bounded
  have edits := Multiset.map_le_map (f := fun write : Write => editOf write.task)
    (Multiset.coe_le.mpr writes)
  rw [Multiset.map_coe, Multiset.map_coe, List.map_map] at edits
  exact Multiset.coe_le.mp edits

private theorem acceptedEdits_perm (faithful : Faithful app.deliveries)
    (complete : EveryWriteAccepted app.client) :
    (acceptedEdits app.client).Perm (issuedEdits app.client) := by
  rw [acceptedEdits_eq faithful.accepted]
  have edits := complete.map fun write => editOf write.task
  rw [List.map_map] at edits
  exact edits

/-- An id that was edited since the list was loaded has a write that the server accepted
after it had answered. -/
private theorem accepted_since {mark : App Caller} {known : Nat} (begun : Faithful mark.deliveries)
    (ended : Faithful app.deliveries) (complete : EveryWriteAccepted app.client)
    (issued : issuedEdits mark.client <+: issuedEdits app.client)
    (grown : acceptedEdits mark.client <+: acceptedEdits app.client)
    (answered : known ≤ (acceptedEdits mark.client).length) :
    (editsSince mark app).Subperm ((acceptedEdits app.client).drop known) := by
  obtain ⟨later, issuedLater⟩ := issued
  obtain ⟨more, acceptedLater⟩ := grown
  have since : editsSince mark app = later := by
    unfold editsSince
    rw [← issuedLater, List.drop_left]
  have perm := acceptedEdits_perm ended complete
  rw [← issuedLater, ← List.take_append_drop known (acceptedEdits app.client)] at perm
  rw [since]
  apply subperm_of_append perm
  rw [← acceptedLater, List.take_append_of_le_length answered]
  exact (List.take_sublist _ _).subperm.trans (acceptedEdits_subperm begun)

private theorem acceptedEdits_prefix {mark : App Caller} {actions : List (Action Caller)}
    (arrived : run (step text) mark actions = some app) :
    acceptedEdits mark.client <+: acceptedEdits app.client := by
  have grown := (@records_accepted Caller text).prefix_run arrived
  exact grown.filterMap _

private theorem handled_saved {middle synced : App Caller} {catalogue : Int64 → Fields}
    {saved : List Int64}
    (handled : step text middle (.screens (.synced (some (savedBody catalogue saved)))) =
      some synced) :
    Mirrors synced.screens ∧ storedIds synced.client = {id | id ∈ saved} ∧
      synced.client.issued = middle.client.issued := by
  obtain ⟨screens, stepped, rfl⟩ := Option.map_eq_some_iff.mp handled
  refine ⟨mirrors_step_screens (fun impossible => by cases impossible) stepped, ?_, rfl⟩
  obtain ⟨defaults, stored, rfl⟩ := Option.map_eq_some_iff.mp stepped
  ext id
  change id ∈ favoriteIds defaults ↔ id ∈ saved
  rw [favoriteIds_of_savedBody stored]

/-- In every run, with any screens shown, any refreshes and repeats, and any number of
synchronizations: the last synchronization that was handled had been answered with what the
server had saved after its first `known` writes, and every write issued has been accepted by
now.  The favorites screen shows what the server has saved exactly when, for every id of
which the server has accepted a write since it answered, the last of these writes does what
the last tap since the synchronization did, or, where no tap followed it, leaves the id as
the synchronization showed it. -/
theorem displayedIds_eq_savedIds_iff (text : TextSearch) (defaults : UserDefaults)
    (start : Set Int64) (catalogue : Int64 → Fields) (saved : List Int64) (known : Nat)
    (before after : List (Action Caller)) (middle synced reached : App Caller)
    (came : run (step text) (.launch defaults) before = some middle)
    (answered : known ≤ (acceptedEdits middle.client).length)
    (listed : {id | id ∈ saved} = replay ((acceptedEdits middle.client).take known) start)
    (handled : step text middle (.screens (.synced (some (savedBody catalogue saved)))) =
      some synced)
    (last : ∀ action ∈ after, replaces action = false)
    (arrived : run (step text) synced after = some reached)
    (complete : EveryWriteAccepted reached.client) :
    displayedIds reached = savedIds start reached ↔
      ∀ id inserted, lastOn id ((acceptedEdits reached.client).drop known) = some inserted →
        lastOn id (editsSince middle reached) = some inserted ∨
          (lastOn id (editsSince middle reached) = none ∧ (id ∈ saved ↔ inserted = true)) := by
  obtain ⟨mirrors, stored, issued⟩ := handled_saved handled
  have follows := follows_run mirrors last arrived
  have marks : editsSince synced reached = editsSince middle reached := by
    unfold editsSince issuedEdits
    rw [issued]
  have fromMiddle : run (step text) middle
      (.screens (.synced (some (savedBody catalogue saved))) :: after) = some reached := by
    rw [run_cons_of_step after handled]
    exact arrived
  have whole : run (step text) (.launch defaults)
      (before ++ .screens (.synced (some (savedBody catalogue saved))) :: after) =
        some reached := by
    rw [run_append, came]
    exact fromMiddle
  have grown := acceptedEdits_prefix fromMiddle
  have issuedGrown := follows.issued
  unfold issuedEdits at issuedGrown
  rw [issued] at issuedGrown
  have since := accepted_since (faithful_run came) (faithful_run whole) complete issuedGrown grown
    answered
  have first : (acceptedEdits reached.client).take known =
      (acceptedEdits middle.client).take known := by
    obtain ⟨more, later⟩ := grown
    rw [← later, List.take_append_of_le_length answered]
  have shown : displayedIds reached = replay (editsSince middle reached) {id | id ∈ saved} := by
    rw [displayedIds_eq follows.mirrors, follows.stored, marks, stored]
  have server : savedIds start reached =
      replay ((acceptedEdits reached.client).drop known) {id | id ∈ saved} := by
    unfold savedIds
    rw [listed, ← first, ← replay_append, List.take_append_drop]
  rw [shown, server]
  apply replay_eq_iff_last
  intro id untouched
  rw [lastOn_eq_none_iff] at untouched ⊢
  intro edit member
  exact untouched edit (since.subset member)

def syncedAndTapped : List (Action Unit) :=
  [.screens (.searchLoaded [.titled 2 "Laghman"]), .screens (.toggleFavorite 1),
    .client (.runTask 0), .client (.accept 0)]

theorem displayedIds_eq_savedIds_tapped :
    ∃ synced reached : App Unit,
      step ⟨id, fun _ _ => true⟩ (.launch ⟨some "access", some "refresh", none⟩)
          (.screens (.synced (some (savedBody (fun _ => []) [1])))) = some synced ∧
        run (step ⟨id, fun _ _ => true⟩) synced syncedAndTapped = some reached ∧
        displayedIds reached = savedIds {id | id ∈ [1]} reached := by
  obtain ⟨synced, reached, handled, arrived, complete, same⟩ : ∃ synced reached : App Unit,
      step ⟨id, fun _ _ => true⟩ (.launch ⟨some "access", some "refresh", none⟩)
          (.screens (.synced (some (savedBody (fun _ => []) [1])))) = some synced ∧
        run (step ⟨id, fun _ _ => true⟩) synced syncedAndTapped = some reached ∧
        EveryWriteAccepted reached.client ∧
        (acceptedEdits reached.client).drop 0 =
          editsSince (.launch ⟨some "access", some "refresh", none⟩) reached :=
    ⟨_, _, rfl, rfl, List.Perm.refl _, rfl⟩
  refine ⟨synced, reached, handled, arrived, ?_⟩
  have law := displayedIds_eq_savedIds_iff ⟨id, fun _ _ => true⟩
    ⟨some "access", some "refresh", none⟩ {id | id ∈ [1]} (fun _ => []) [1] 0 [] syncedAndTapped
    (.launch ⟨some "access", some "refresh", none⟩) synced reached rfl (Nat.zero_le 0) rfl handled
    (by decide) arrived complete
  rw [same] at law
  exact law.mpr fun id inserted last => Or.inl last

end SmartMeal.WholeApp
