/-
Whether one account sees the favorites of another.

The sign-out removes the two tokens and nothing else.  What the next account reads
is the list it has built itself, after whatever is left of the list of the account
before it: only the removal of an id, or a list loaded from the server, takes
recipes away from that rest.  Two runs that differ in the favorites of the first
account read alike exactly while the rests are equal.
-/

import SmartMeal.FavoritesProcess

namespace SmartMeal.AccountIsolation

open PartialStep FavoritesProcess

/-- An event without what it says about favorites: edits disappear, and of an
answer only its arrival remains. -/
def withoutFavorites : Event → Option Event
  | .addToFavorites _ => none
  | .removeFromFavorites _ => none
  | .syncAnswered index _ => some (.syncAnswered index none)
  | event => some event

def ReadsAgree (left right : Process) : Prop :=
  getFavorites left.defaults = getFavorites right.defaults ∧
  ∀ recipe, isFavorite left.defaults recipe = isFavorite right.defaults recipe

def accountSwitch (between : List Event) (access refresh : String) : List Event :=
  .signOut :: between ++ [.saveToken access refresh]

/-- The processes read alike at every moment of the session that follows. -/
def Isolated (left right : Process) (opening session : List Event) : Prop :=
  ∀ done, done <+: session → ∀ first second,
    run Process.step left (opening ++ done) = some first →
    run Process.step right (opening ++ done) = some second → ReadsAgree first second

/-! ### What remains of a list -/

def remaining (favorites : List Recipe) : Event → List Recipe
  | .removeFromFavorites recipe => favorites.filter fun stored => stored.id != recipe.id
  | .syncAnswered _ answer => if (loaded answer).isSome then [] else favorites
  | _ => favorites

def leftover (favorites : List Recipe) (events : List Event) : List Recipe :=
  events.foldl remaining favorites

private theorem edited_append (rest own : List Recipe) (event : Event) :
    edited (rest ++ own) event = remaining rest event ++ edited own event := by
  cases event with
  | addToFavorites recipe => exact List.append_assoc rest own [recipe]
  | removeFromFavorites recipe => exact List.filter_append rest own
  | syncAnswered index answer =>
      simp only [edited, remaining]
      cases loaded answer <;> rfl
  | _ => rfl

private theorem foldl_edited_append (rest own : List Recipe) (events : List Event) :
    events.foldl edited (rest ++ own) = leftover rest events ++ events.foldl edited own := by
  induction events generalizing rest own with
  | nil => rfl
  | cons event later ih =>
      simp only [List.foldl_cons, leftover]
      rw [edited_append]
      exact ih (remaining rest event) (edited own event)

private theorem getFavorites_eq_leftover_append {process reached : Process} {events : List Event}
    (arrived : run Process.step process events = some reached) :
    getFavorites reached.defaults =
      leftover (getFavorites process.defaults) events ++ events.foldl edited [] := by
  rw [getFavorites_run arrived]
  have split := foldl_edited_append (getFavorites process.defaults) [] events
  rwa [List.append_nil] at split

private theorem readsAgree_iff (left right : Process) :
    ReadsAgree left right ↔ getFavorites left.defaults = getFavorites right.defaults := by
  constructor
  · exact And.left
  · intro same
    refine ⟨same, fun recipe => ?_⟩
    unfold isFavorite
    rw [same]

/-! ### Two runs -/

private theorem alike_step_edit {process stripped next : Process} {event : Event}
    (alike : Alike process stripped) (dropped : withoutFavorites event = none)
    (taken : process.step event = some next) : Alike next stripped := by
  cases event with
  | addToFavorites recipe =>
      cases taken
      exact ⟨alike.authToken, alike.refreshToken, alike.syncing⟩
  | removeFromFavorites recipe =>
      cases taken
      exact ⟨alike.authToken, alike.refreshToken, alike.syncing⟩
  | _ => cases dropped

private theorem alike_step_kept {process stripped next : Process} {event kept : Event}
    (alike : Alike process stripped) (keeps : withoutFavorites event = some kept)
    (taken : process.step event = some next) :
    ∃ other, stripped.step kept = some other ∧ Alike next other := by
  cases event with
  | addToFavorites recipe => cases keeps
  | removeFromFavorites recipe => cases keeps
  | syncAnswered index answer =>
      cases keeps
      obtain ⟨request, found, handled, erased⟩ := Process.step_syncAnswered taken
      have tokens := syncFavoritesAnswered_tokens handled
      rw [alike.syncing] at found
      refine ⟨⟨stripped.defaults, stripped.syncing.eraseIdx index⟩, ?_, ?_, ?_, ?_⟩
      · simp only [Process.step, found, syncFavoritesAnswered]
      · exact tokens.1.trans alike.authToken
      · exact tokens.2.trans alike.refreshToken
      · rw [erased, alike.syncing]
  | _ => cases keeps; exact alike_step alike taken

private theorem alike_withoutFavorites {process stripped reached : Process} {events : List Event}
    (alike : Alike process stripped) (arrived : run Process.step process events = some reached) :
    ∃ other, run Process.step stripped (events.filterMap withoutFavorites) = some other ∧
      Alike reached other := by
  induction events generalizing process stripped with
  | nil =>
      cases arrived
      exact ⟨stripped, rfl, alike⟩
  | cons event rest ih =>
      cases taken : process.step event with
      | none => rw [run_cons, taken] at arrived; cases arrived
      | some next =>
          rw [run_cons_of_step rest taken] at arrived
          cases keeps : withoutFavorites event with
          | none =>
              rw [List.filterMap_cons_none keeps]
              exact ih (alike_step_edit alike keeps taken) arrived
          | some kept =>
              obtain ⟨other, takenOther, alikeNext⟩ := alike_step_kept alike keeps taken
              rw [List.filterMap_cons_some keeps, run_cons_of_step _ takenOther]
              exact ih alikeNext arrived

private theorem alike_of_same_history {start start' left right : Process}
    {before before' : List Event}
    (alike : Alike start start')
    (same : before.filterMap withoutFavorites = before'.filterMap withoutFavorites)
    (arrived : run Process.step start before = some left)
    (arrived' : run Process.step start' before' = some right) : Alike left right := by
  obtain ⟨middle, reaches, alikeLeft⟩ := alike_withoutFavorites alike arrived
  obtain ⟨middle', reaches', alikeRight⟩ := alike_withoutFavorites (.refl start') arrived'
  rw [← same, reaches] at reaches'
  cases reaches'
  exact alikeLeft.trans alikeRight.symm

private theorem leftover_append (favorites : List Recipe) (first second : List Event) :
    leftover favorites (first ++ second) = leftover (leftover favorites first) second :=
  List.foldl_append

private theorem leftover_opening (favorites : List Recipe) (between done : List Event)
    (access refresh : String) :
    leftover favorites (accountSwitch between access refresh ++ done) =
      leftover (leftover favorites between) done := by
  unfold accountSwitch
  rw [leftover_append, leftover_append]
  rfl

/-- Two runs of one process up to the sign-out of account A, apart in nothing but
favorites, are indistinguishable throughout the session of account B exactly when
the same rest of A's list is stored at B's login. -/
theorem isolated_iff_leftover_eq (authToken refreshToken : Option String)
    (favorites favorites' : Option Data) (before before' between session : List Event)
    {left right final : Process} (access refresh : String)
    (same : before.filterMap withoutFavorites = before'.filterMap withoutFavorites)
    (arrived : run Process.step (.launch ⟨authToken, refreshToken, favorites⟩) before =
      some left)
    (arrived' : run Process.step (.launch ⟨authToken, refreshToken, favorites'⟩) before' =
      some right)
    (taken : run Process.step left
      (accountSwitch between access refresh ++ session) = some final) :
    Isolated left right (accountSwitch between access refresh) session ↔
      leftover (getFavorites left.defaults) between =
        leftover (getFavorites right.defaults) between := by
  have begun : Alike (.launch ⟨authToken, refreshToken, favorites⟩)
      (.launch ⟨authToken, refreshToken, favorites'⟩) := ⟨rfl, rfl, rfl⟩
  have alike : Alike left right := alike_of_same_history begun same arrived arrived'
  constructor
  · intro isolated
    rw [run_append] at taken
    cases opened : run Process.step left (accountSwitch between access refresh) with
    | none => rw [opened] at taken; cases taken
    | some first =>
        obtain ⟨second, opened', _⟩ := alike_run alike opened
        rw [← List.append_nil (accountSwitch between access refresh)] at opened opened'
        have agree := (isolated [] List.nil_prefix first second opened opened').1
        rw [getFavorites_eq_leftover_append opened, getFavorites_eq_leftover_append opened',
          leftover_opening, leftover_opening] at agree
        exact List.append_cancel_right agree
  · intro rest done _ first second reaches reaches'
    rw [readsAgree_iff, getFavorites_eq_leftover_append reaches,
      getFavorites_eq_leftover_append reaches', leftover_opening, leftover_opening, rest]

theorem isolated_after_cleanup :
    ∃ left right : Process,
      run Process.step (.launch ⟨some "access-A", some "refresh-A", none⟩)
          [.addToFavorites (.titled 1 "Plov"), .removeFromFavorites (.titled 1 "Plov")] =
        some left ∧
      run Process.step (.launch ⟨some "access-A", some "refresh-A", none⟩) [] = some right ∧
      Isolated left right (accountSwitch [] "access-B" "refresh-B")
        [.addToFavorites (.titled 2 "Laghman")] := by
  have arrived : run Process.step (.launch ⟨some "access-A", some "refresh-A", none⟩)
      [.addToFavorites (.titled 1 "Plov"), .removeFromFavorites (.titled 1 "Plov")] =
        some _ := rfl
  have arrived' : run Process.step (.launch ⟨some "access-A", some "refresh-A", none⟩) [] =
      some _ := rfl
  refine ⟨_, _, arrived, arrived', ?_⟩
  exact (isolated_iff_leftover_eq (some "access-A") (some "refresh-A") none none
    [.addToFavorites (.titled 1 "Plov"), .removeFromFavorites (.titled 1 "Plov")] [] []
    [.addToFavorites (.titled 2 "Laghman")] "access-B" "refresh-B" rfl arrived arrived' rfl).mpr
      rfl

/-- Account A adds a recipe and signs out; account B logs in and reads it. -/
theorem not_isolated_after_signOut :
    ¬ ∀ (authToken refreshToken : Option String) (favorites favorites' : Option Data)
      (before before' between session : List Event) (left right final : Process)
      (access refresh : String),
      before.filterMap withoutFavorites = before'.filterMap withoutFavorites →
      run Process.step (.launch ⟨authToken, refreshToken, favorites⟩) before = some left →
      run Process.step (.launch ⟨authToken, refreshToken, favorites'⟩) before' = some right →
      run Process.step left
        (accountSwitch between access refresh ++ session) = some final →
      Isolated left right (accountSwitch between access refresh) session := by
  intro always
  have isolated := always (some "access-A") (some "refresh-A") none none
    [.addToFavorites (.titled 1 "Plov")] [] [] [] _ _ _ "access-B" "refresh-B" rfl rfl rfl rfl
  have agree := (isolated [] List.nil_prefix _ _ rfl rfl).2 (.titled 1 "Plov")
  exact absurd agree (by decide)

end SmartMeal.AccountIsolation
