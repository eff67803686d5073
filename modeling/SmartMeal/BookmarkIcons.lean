/-
The bookmarks that are seen, and the store.

An edit of the store writes the flags of the view models that table cells hold, and that of
the tapped one, each by an assignment that calls the listener of the flag.  Run together
with the listeners, the screens do what they do without them.  So a recipe cell that was
configured last for a view model of the search or the favorites screen shows what the store
says, always; and one for a home row, as long as every change of the store spares the rows
that no table cell holds.
-/

import SmartMeal.BookmarkFlags
import SmartMeal.RecipeCells

namespace SmartMeal.BookmarkIcons

open PartialStep ObjectHeap Traversal BookmarkFlags
open Screens (TextSearch)
open RecipeCells hiding step Action launch

/-- The screens with the recipe cells, whose `configured` is history. -/
structure Icons where
  screens : Screens
  cells : List RecipeCell
  listeners : Ref → Option Nat
  configured : List (Nat × Ref)

/-- `RecipeTableViewCell.updateFavorites` with the listeners that its assignments call. -/
def cellUpdateFavorites (defaults : UserDefaults) : List Ref → Cells → Option Cells
  | [], state => some state
  | ref :: rest, state =>
      match state.viewModels[ref]? with
      | none => cellUpdateFavorites defaults rest state
      | some viewModel =>
          let newValue := isFavorite defaults viewModel.recipe
          if viewModel.isFavorite != newValue then
            (assign ref newValue state).bind (cellUpdateFavorites defaults rest)
          else cellUpdateFavorites defaults rest state

namespace Icons

def launch (defaults : UserDefaults) : Icons :=
  { screens := .launch defaults, cells := [], listeners := fun _ => none, configured := [] }

def state (icons : Icons) : Cells :=
  { viewModels := icons.screens.viewModels
    cells := icons.cells
    listeners := icons.listeners
    configured := icons.configured }

def withState (icons : Icons) (state : Cells) : Icons :=
  { screens := { icons.screens with viewModels := state.viewModels }
    cells := state.cells
    listeners := state.listeners
    configured := state.configured }

def withScreens (icons : Icons) (screens : Screens) : Icons := { icons with screens := screens }

def cellsUpdateFavorites (icons : Icons) : Option Icons :=
  (icons.screens.cells.foldlM
    (fun state held => cellUpdateFavorites icons.screens.defaults held state) icons.state).map
      icons.withState

def perform (icons : Icons) : FavoritesEffect → Option Icons
  | .task _ => some icons
  | .favoritesUpdated => icons.cellsUpdateFavorites.map fun updated =>
      updated.withScreens updated.screens.searchUpdateFavorites
  | .onFavoritesUpdated => some (icons.withScreens icons.screens.loadFavorites)

def deliver (icons : Icons) (edited : UserDefaults × List FavoritesEffect) : Option Icons :=
  edited.2.foldlM perform (icons.withScreens { icons.screens with defaults := edited.1 })

def toggleFavorite (icons : Icons) (ref : Ref) (viewModel : CollectionCellViewModel) :
    Option Icons := do
  let edited :=
    if viewModel.isFavorite then removeFromFavorites viewModel.recipe icons.screens.defaults
    else addToFavorites viewModel.recipe icons.screens.defaults
  let delivered ← icons.deliver edited
  let assigned ← assign ref (isFavorite delivered.screens.defaults viewModel.recipe)
    delivered.state
  pure (delivered.withState assigned)

end Icons

/-- Any cell may be dequeued for any view model, anew or from the reuse pool. -/
inductive Action where
  | screens (action : Screens.Action)
  | dequeue
  | configure (cell : Nat) (ref : Ref)

def step (text : TextSearch) : Transition Icons Action := fun icons action =>
  match action with
  | .screens (.toggleFavorite ref) =>
      (icons.screens.viewModels[ref]?).bind fun viewModel => icons.toggleFavorite ref viewModel
  | .screens (.synced answer) =>
      (syncFavoritesAnswered answer icons.screens.defaults).bind fun defaults =>
        icons.deliver (defaults, [.favoritesUpdated, .onFavoritesUpdated])
  | .screens action => (Screens.step text icons.screens action).map icons.withScreens
  | .dequeue => some { icons with cells := icons.cells ++ [RecipeCell.init] }
  | .configure cell ref => (configure cell ref icons.state).map icons.withState

variable {state next : Cells} {icons after : Icons} {text : TextSearch}

/-! ### The listeners keep up with the screens -/

private theorem viewModels_assign {ref : Ref} {value : Bool} {viewModel : CollectionCellViewModel}
    (found : state.viewModels[ref]? = some viewModel)
    (taken : assign ref value state = some next) :
    next.viewModels = state.viewModels.set ref { viewModel with isFavorite := value } := by
  unfold assign at taken
  simp only [found, Option.bind_eq_bind, Option.bind_some] at taken
  cases listens : state.listeners ref with
  | none =>
      simp only [listens] at taken
      cases taken
      rfl
  | some cell =>
      simp only [listens] at taken
      obtain ⟨listening, _, later⟩ := Option.bind_eq_some_iff.mp taken
      obtain ⟨updated, _, same⟩ := Option.bind_eq_some_iff.mp later
      cases same
      rfl

private theorem assign_follows {ref : Ref} {viewModel : CollectionCellViewModel}
    (listening : Listening state) (found : state.viewModels[ref]? = some viewModel)
    (value : Bool) :
    ∃ next, assign ref value state = some next ∧ Listening next ∧
      next.viewModels = state.viewModels.set ref { viewModel with isFavorite := value } := by
  have inside := (List.getElem?_eq_some_iff.mp found).1
  obtain ⟨next, taken⟩ := Option.isSome_iff_exists.mp
    (assignsFlags_of_listening listening ref value inside)
  exact ⟨next, taken, listening_assign listening taken, viewModels_assign found taken⟩

private theorem cellUpdateFavorites_follows (defaults : UserDefaults) (index : Nat)
    (held : List Ref)
    (listening : Listening state) :
    ∃ next, cellUpdateFavorites defaults held state = some next ∧ Listening next ∧
      next.viewModels =
        (Screens.cellUpdateFavorites defaults index held state.viewModels).1 := by
  induction held generalizing index state with
  | nil => exact ⟨state, rfl, listening, rfl⟩
  | cons ref rest ih =>
      unfold cellUpdateFavorites Screens.cellUpdateFavorites
      cases found : state.viewModels[ref]? with
      | none => exact ih (index + 1) listening
      | some viewModel =>
          simp only
          by_cases changed : (viewModel.isFavorite != isFavorite defaults viewModel.recipe) = true
          · rw [if_pos changed, if_pos changed]
            obtain ⟨assigned, taken, listens, viewModels⟩ :=
              assign_follows listening found (isFavorite defaults viewModel.recipe)
            obtain ⟨last, later, listensLast, final⟩ := ih (index + 1) listens
            refine ⟨last, ?_, listensLast, ?_⟩
            · rw [taken]
              exact later
            · rw [final, viewModels]
          · rw [if_neg changed, if_neg changed]
            exact ih (index + 1) listening

structure Follows (icons : Icons) (screens : Screens) : Prop where
  listening : Listening icons.state
  screens : icons.screens = screens

private theorem cellsUpdateFavorites_follows (listening : Listening icons.state) :
    ∃ after, icons.cellsUpdateFavorites = some after ∧
      Follows after icons.screens.cellsUpdateFavorites := by
  have keeps : ∀ (state : Cells) (viewModels : List CollectionCellViewModel) (held : List Ref),
      Listening state ∧ state.viewModels = viewModels →
        ∃ next, cellUpdateFavorites icons.screens.defaults held state = some next ∧
          Listening next ∧ next.viewModels =
            (Screens.cellUpdateFavorites icons.screens.defaults 0 held viewModels).1 := by
    rintro state viewModels held ⟨listening, rfl⟩
    exact cellUpdateFavorites_follows icons.screens.defaults 0 held listening
  obtain ⟨last, taken, listens, viewModels⟩ :=
    foldlM_related keeps icons.screens.cells ⟨listening, rfl⟩
  refine ⟨icons.withState last, congrArg (Option.map icons.withState) taken, listens, ?_⟩
  unfold Icons.withState Screens.cellsUpdateFavorites
  rw [viewModels]
  rfl

private theorem follows_append {screens : Screens} {created : List CollectionCellViewModel}
    (listening : Listening icons.state)
    (grown : screens.viewModels = icons.screens.viewModels ++ created) :
    Follows (icons.withScreens screens) screens := by
  have bound : ∀ listener, Displays icons.state listener →
      Displays (icons.withScreens screens).state listener := by
    rintro listener ⟨cell, own, there, displays, inside⟩
    refine ⟨cell, own, there, displays, Nat.lt_of_lt_of_le inside ?_⟩
    change icons.screens.viewModels.length ≤ screens.viewModels.length
    rw [grown, List.length_append]
    exact Nat.le_add_right _ _
  refine ⟨⟨fun ref listener listens => bound listener (listening.displays ref listener listens),
    listening.last, ?_⟩, rfl⟩
  intro index cell ref there displays last viewModel found
  obtain ⟨stood, own, here, shown, inside⟩ :=
    listening.displays ref index ((listening.last ref).trans last)
  cases here.symm.trans there
  cases shown.symm.trans displays
  change screens.viewModels[ref]? = some viewModel at found
  have existed : ref < icons.screens.viewModels.length := inside
  rw [grown, List.getElem?_append_left existed] at found
  exact listening.shows index cell ref there displays last viewModel found

private theorem perform_follows (effect : FavoritesEffect) {screens : Screens}
    (follows : Follows icons screens) :
    ∃ after, icons.perform effect = some after ∧ Follows after (screens.perform effect) := by
  obtain ⟨listening, rfl⟩ := follows
  cases effect with
  | task task => exact ⟨icons, rfl, listening, rfl⟩
  | favoritesUpdated =>
      obtain ⟨updated, taken, listens, same⟩ := cellsUpdateFavorites_follows listening
      refine ⟨updated.withScreens updated.screens.searchUpdateFavorites,
        congrArg (Option.map _) taken, ?_⟩
      change Follows _ icons.screens.cellsUpdateFavorites.searchUpdateFavorites
      rw [← same]
      exact follows_append listens rfl
  | onFavoritesUpdated =>
      exact ⟨icons.withScreens icons.screens.loadFavorites, rfl, follows_append listening rfl⟩

private theorem deliver_follows (listening : Listening icons.state)
    (edited : UserDefaults × List FavoritesEffect) :
    ∃ after, icons.deliver edited = some after ∧ Follows after (icons.screens.deliver edited) :=
  foldlM_related (fun _ _ effect follows => perform_follows effect follows) edited.2
    ⟨listening, rfl⟩

private theorem toggleFavorite_follows {ref : Ref} {viewModel : CollectionCellViewModel}
    (listening : Listening icons.state)
    (found : icons.screens.viewModels[ref]? = some viewModel) :
    ∃ after, icons.toggleFavorite ref viewModel = some after ∧
      Follows after (icons.screens.toggleFavorite ref viewModel) := by
  obtain ⟨edited, tapped⟩ : ∃ edited, edited =
      if viewModel.isFavorite then removeFromFavorites viewModel.recipe icons.screens.defaults
      else addToFavorites viewModel.recipe icons.screens.defaults := ⟨_, rfl⟩
  obtain ⟨delivered, taken, listens, screens⟩ := deliver_follows listening edited
  have notified : icons.screens.deliver edited = icons.screens.notified edited.1 := by
    rw [tapped]
    cases viewModel.isFavorite <;> rfl
  have kept := Screens.fieldKept_notified icons.screens edited.1 ref viewModel.recipe
    (by rw [found]; rfl)
  rw [← notified, ← screens] at kept
  obtain ⟨current, foundNow, same⟩ := Option.map_eq_some_iff.mp kept
  obtain ⟨assigned, written, listensLast, viewModels⟩ := assign_follows listens foundNow
    (isFavorite delivered.screens.defaults viewModel.recipe)
  refine ⟨delivered.withState assigned, ?_, listensLast, ?_⟩
  · unfold Icons.toggleFavorite
    simp only [← tapped, taken, written, Option.bind_eq_bind, Option.bind_some, Option.pure_def]
  · unfold Icons.withState Screens.toggleFavorite
    simp only [← tapped, ← screens, viewModels, same]
    rfl

/-! ### Steps -/

private theorem viewModels_step {action : Screens.Action} {screens next : Screens}
    (unchanged : ∀ ref, action ≠ .toggleFavorite ref) (unsynced : ∀ answer, action ≠ .synced answer)
    (taken : Screens.step text screens action = some next) :
    ∃ created, next.viewModels = screens.viewModels ++ created := by
  cases action with
  | toggleFavorite ref => exact absurd rfl (unchanged ref)
  | synced answer => exact absurd rfl (unsynced answer)
  | updateSearchController searchBarText =>
      cases taken
      obtain ⟨search, recipes, same⟩ :=
        Screens.updateSearchController_eq text searchBarText screens
      rw [same]
      exact ⟨_, rfl⟩
  | configure reused atSection =>
      cases reused <;> cases taken <;> exact ⟨[], (List.append_nil _).symm⟩
  | releaseCell cell => cases taken; exact ⟨[], (List.append_nil _).symm⟩
  | _ => cases taken; exact ⟨_, rfl⟩

private theorem step_follows {action : Screens.Action} {screens : Screens}
    (listening : Listening icons.state)
    (taken : Screens.step text icons.screens action = some screens) :
    ∃ after, step text icons (.screens action) = some after ∧ Follows after screens := by
  have quiet (unchanged : ∀ ref, action ≠ .toggleFavorite ref)
      (unsynced : ∀ answer, action ≠ .synced answer)
      (same : step text icons (.screens action) =
        (Screens.step text icons.screens action).map icons.withScreens) :
      ∃ after, step text icons (.screens action) = some after ∧ Follows after screens := by
    obtain ⟨created, grown⟩ := viewModels_step unchanged unsynced taken
    rw [same, taken]
    exact ⟨_, rfl, follows_append listening grown⟩
  cases action with
  | toggleFavorite ref =>
      obtain ⟨viewModel, found, rfl⟩ := Screens.step_toggleFavorite taken
      obtain ⟨after, toggled, follows⟩ := toggleFavorite_follows listening found
      refine ⟨after, ?_, follows⟩
      change (icons.screens.viewModels[ref]?).bind _ = _
      rw [found]
      exact toggled
  | synced answer =>
      obtain ⟨defaults, handled, rfl⟩ := Option.map_eq_some_iff.mp taken
      obtain ⟨after, delivered, follows⟩ :=
        deliver_follows listening (defaults, [.favoritesUpdated, .onFavoritesUpdated])
      refine ⟨after, ?_, follows⟩
      change (syncFavoritesAnswered answer icons.screens.defaults).bind _ = _
      rw [handled]
      exact delivered
  | _ => exact quiet (by simp) (by simp) rfl

private theorem step_screens {action : Screens.Action} (listening : Listening icons.state)
    (taken : step text icons (.screens action) = some after) :
    Screens.step text icons.screens action = some after.screens ∧ Listening after.state := by
  cases moved : Screens.step text icons.screens action with
  | some screens =>
      obtain ⟨same, stepped, follows⟩ := step_follows listening moved
      cases stepped.symm.trans taken
      exact ⟨congrArg some follows.screens.symm, follows.listening⟩
  | none =>
      cases action with
      | toggleFavorite ref =>
          have absent := Option.map_eq_none_iff.mp moved
          change (icons.screens.viewModels[ref]?).bind _ = _ at taken
          rw [absent] at taken
          cases taken
      | synced answer =>
          have trapped := Option.map_eq_none_iff.mp moved
          change (syncFavoritesAnswered answer icons.screens.defaults).bind _ = _ at taken
          rw [trapped] at taken
          cases taken
      | configure reused atSection => cases reused <;> cases moved
      | _ => cases moved

private theorem screens_of_step (listening : Listening icons.state) (action : Screens.Action) :
    (step text icons (.screens action)).map Icons.screens =
      Screens.step text icons.screens action := by
  cases moved : Screens.step text icons.screens action with
  | some screens =>
      obtain ⟨after, taken, follows⟩ := step_follows listening moved
      rw [taken]
      exact congrArg some follows.screens
  | none =>
      cases taken : step text icons (.screens action) with
      | none => rfl
      | some after =>
          rw [(step_screens listening taken).1] at moved
          cases moved

private theorem listening_dequeue (listening : Listening icons.state) :
    Listening { icons.state with cells := icons.cells ++ [RecipeCell.init] } where
  displays := by
    intro ref listener listens
    obtain ⟨cell, own, there, displays, inside⟩ := listening.displays ref listener listens
    have existed : listener < icons.cells.length := (List.getElem?_eq_some_iff.mp there).1
    exact ⟨cell, own, (List.getElem?_append_left existed).trans there, displays, inside⟩
  last := listening.last
  shows := by
    intro index cell ref there displays last
    obtain ⟨stood, own, here, _, _⟩ :=
      listening.displays ref index ((listening.last ref).trans last)
    have existed : index < icons.cells.length := (List.getElem?_eq_some_iff.mp here).1
    have stood := (List.getElem?_append_left existed).symm.trans there
    exact listening.shows index cell ref stood displays last

private theorem listening_iconsStep {action : Action} (listening : Listening icons.state)
    (taken : step text icons action = some after) : Listening after.state := by
  cases action with
  | screens action => exact (step_screens listening taken).2
  | dequeue =>
      cases taken
      exact listening_dequeue listening
  | configure cell ref =>
      obtain ⟨configured, done, rfl⟩ := Option.map_eq_some_iff.mp taken
      exact listening_configure listening done

private theorem screens_step {action : Action} (listening : Listening icons.state)
    (taken : step text icons action = some after) :
    (∃ screensAction, action = .screens screensAction ∧
      Screens.step text icons.screens screensAction = some after.screens) ∨
    after.screens = icons.screens ∧ ∀ screensAction, action ≠ .screens screensAction := by
  cases action with
  | screens action => exact Or.inl ⟨action, rfl, (step_screens listening taken).1⟩
  | dequeue =>
      cases taken
      exact Or.inr ⟨rfl, by simp⟩
  | configure cell ref =>
      obtain ⟨configured, done, rfl⟩ := Option.map_eq_some_iff.mp taken
      obtain ⟨viewModel, content, found, inside, content', rfl⟩ := configure_eq_some done
      exact Or.inr ⟨rfl, by simp⟩

/-! ### Whole runs -/

/-- A cell that was configured last for one of the view models shows what the store says. -/
def ShowsStore (icons : Icons) (refs : List Ref) : Prop :=
  ∀ index cell ref viewModel, icons.cells[index]? = some cell → cell.viewModel = some ref →
    lastConfigured icons.configured ref = some index → ref ∈ refs →
      icons.screens.viewModels[ref]? = some viewModel →
        cell.content.favoriteButton =
          bookmark (isFavorite icons.screens.defaults viewModel.recipe)

def SparesRows (icons : Icons) (action : Action) : Prop :=
  ∀ screensAction, action = .screens screensAction →
    SparesUnheldRows icons.screens screensAction

private theorem showsStore_of_agree {refs : List Ref} (listening : Listening icons.state)
    (agree : AllAgree refs icons.screens) : ShowsStore icons refs := by
  intro index cell ref viewModel there displays last member found
  rw [listening.shows index cell ref there displays last viewModel found]
  exact congrArg bookmark (agree ref member viewModel found)

structure Renewed (icons : Icons) : Prop where
  listening : Listening icons.state
  search : AllAgree icons.screens.search.collectionCellViewModels icons.screens
  favorites : AllAgree icons.screens.favorites.collectionCellViewModels icons.screens

private theorem renewed_launch (defaults : UserDefaults) : Renewed (.launch defaults) where
  listening := listening_launch [] 0
  search := by intro ref impossible; cases impossible
  favorites := by intro ref impossible; cases impossible

private theorem renewed_step {action : Action} (renewed : Renewed icons)
    (taken : step text icons action = some after) : Renewed after := by
  have listening := listening_iconsStep renewed.listening taken
  rcases screens_step renewed.listening taken with ⟨screensAction, _, moved⟩ | ⟨same, _⟩
  · exact ⟨listening, searchAgrees_step renewed.search moved,
      favoritesAgree_step renewed.favorites moved⟩
  · exact ⟨listening, same ▸ renewed.search, same ▸ renewed.favorites⟩

private theorem homeAgrees_step {action : Action} (renewed : Renewed icons)
    (home : AllAgree (homeRefs icons.screens) icons.screens) (spares : SparesRows icons action)
    (taken : step text icons action = some after) :
    AllAgree (homeRefs after.screens) after.screens := by
  rcases screens_step renewed.listening taken with ⟨screensAction, rfl, moved⟩ | ⟨same, _⟩
  · exact ((flagsAgree_step ⟨home, renewed.search, renewed.favorites⟩ moved).mpr
      (spares screensAction rfl)).home
  · exact same ▸ home

/-- In every run the listeners let the screens do exactly what they do without them, and every
cell that was configured last for a row of the search or the favorites screen shows what the
store says; as long as every change of the store spares the home rows that no table cell
holds, so does every cell of a home row. -/
theorem icons_follow_store (text : TextSearch) (defaults : UserDefaults)
    (actions : List Action) :
    Throughout (step text)
      (fun icons =>
        (∀ action, (step text icons (.screens action)).map Icons.screens =
          Screens.step text icons.screens action) ∧
        ShowsStore icons icons.screens.search.collectionCellViewModels ∧
        ShowsStore icons icons.screens.favorites.collectionCellViewModels)
      (.launch defaults) actions ∧
    (EachStep (step text) SparesRows (.launch defaults) actions →
      Throughout (step text) (fun icons => ShowsStore icons (homeRefs icons.screens))
        (.launch defaults) actions) := by
  constructor
  · apply throughout_mono Renewed
    · intro icons renewed
      exact ⟨screens_of_step renewed.listening,
        showsStore_of_agree renewed.listening renewed.search,
        showsStore_of_agree renewed.listening renewed.favorites⟩
    · exact throughout_of_eachStep Renewed
        (fun _ _ _ renewed _ taken => renewed_step renewed taken) (renewed_launch defaults)
        (eachStep_of_forall (fun _ _ => trivial) _ actions)
  · intro spares
    apply throughout_mono
      (fun icons => Renewed icons ∧ AllAgree (homeRefs icons.screens) icons.screens)
    · rintro icons ⟨renewed, home⟩
      exact showsStore_of_agree renewed.listening home
    · refine throughout_of_eachStep _ ?_ ⟨renewed_launch defaults, ?_⟩ spares
      · rintro icons action after ⟨renewed, home⟩ spared taken
        exact ⟨renewed_step renewed taken, homeAgrees_step renewed home spared taken⟩
      · intro ref impossible
        cases impossible

def bookmarked : List Action :=
  [.screens (.homeLoaded [{ Recipe.titled 1 "Plov" with imageUrl := some "plov.png" }]),
   .screens (.configure none 0), .dequeue, .configure 0 0, .screens (.toggleFavorite 0)]

def plainText : TextSearch := ⟨id, fun _ _ => true⟩

private theorem sparesRows_of_noChange {action : Screens.Action}
    (unchanged : icons.screens.storeChange action = none) :
    SparesRows icons (.screens action) := by
  intro screensAction same change changes
  cases same
  rw [unchanged] at changes
  cases changes

private theorem sparesRows_bookmarked :
    EachStep (step plainText) SparesRows (.launch ⟨none, none, none⟩) bookmarked := by
  refine fun _ taken => ⟨sparesRows_of_noChange rfl, ?_⟩
  cases taken
  refine fun _ taken => ⟨sparesRows_of_noChange rfl, ?_⟩
  cases taken
  refine fun _ taken => ⟨fun _ impossible => (by cases impossible), ?_⟩
  cases taken
  refine fun _ taken => ⟨fun _ impossible => (by cases impossible), ?_⟩
  cases taken
  refine fun _ _ => ⟨?_, trivial⟩
  -- The only home row is the tapped one.
  intro screensAction same change _ ref member untouched
  cases same
  exact absurd (Or.inr (List.mem_singleton.mp member)) untouched

theorem icons_follow_store_bookmarked :
    ∃ reached, run (step plainText) (.launch ⟨none, none, none⟩) bookmarked = some reached ∧
      ShowsStore reached (homeRefs reached.screens) ∧
      reached.cells.map (fun cell => cell.content.favoriteButton) = ["bookmark.fill"] := by
  obtain ⟨reached, arrived, icon⟩ :
      ∃ reached, run (step plainText) (.launch ⟨none, none, none⟩) bookmarked = some reached ∧
        reached.cells.map (fun cell => cell.content.favoriteButton) = ["bookmark.fill"] :=
    ⟨_, rfl, rfl⟩
  have shows := (icons_follow_store plainText ⟨none, none, none⟩ bookmarked).2 sparesRows_bookmarked
  exact ⟨reached, arrived, (throughout_iff_prefixes _ _).mp shows _ (List.prefix_refl _) _ arrived,
    icon⟩

end SmartMeal.BookmarkIcons
