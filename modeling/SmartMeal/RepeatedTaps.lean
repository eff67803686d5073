/-
What any number of taps on one bookmark leaves behind.

A tap removes or adds by the flag that the view model has cached, and caches anew.  Where a
stored recipe shares the title of the tapped one under another id, the second tap at the
latest makes the flag stick: every later tap removes what is gone already.  Otherwise the
taps alternate, and the entries of the tapped id are reduced to the one that was added last.
-/

import SmartMeal.ToggleLaw
import Mathlib.Data.Nat.Bits
import Mathlib.Logic.Function.Iterate

namespace SmartMeal.RepeatedTaps

open PartialStep ObjectHeap Screens ToggleLaw

def others (recipe : Recipe) (favorites : List Recipe) : List Recipe :=
  favorites.filter fun stored => stored.id != recipe.id

def titled (recipe : Recipe) (favorites : List Recipe) : Bool :=
  favorites.any fun stored => stored.title == recipe.title

def tap (recipe : Recipe) : Bool × List Recipe → Bool × List Recipe
  | (isFavorite, favorites) =>
      let edited := if isFavorite then others recipe favorites else favorites ++ [recipe]
      (titled recipe edited, edited)

/-- The flag after a number of taps: stuck by a shared title, or alternating. -/
def flagAfter (recipe : Recipe) (favorites : List Recipe) (isFavorite : Bool) (taps : Nat) :
    Bool :=
  titled recipe (others recipe favorites) || (isFavorite ^^ taps.bodd)

def favoritesAfter (recipe : Recipe) (favorites : List Recipe) (isFavorite : Bool) (taps : Nat) :
    List Recipe :=
  if taps = 1 ∧ isFavorite = false then favorites ++ [recipe]
  else if titled recipe (others recipe favorites) then others recipe favorites
  else if isFavorite ^^ taps.bodd then others recipe favorites ++ [recipe]
  else others recipe favorites

/-! ### The flag and the list alone -/

private theorem others_others (recipe : Recipe) (favorites : List Recipe) :
    others recipe (others recipe favorites) = others recipe favorites := by
  unfold others
  rw [List.filter_filter]
  congr 1
  funext stored
  exact Bool.and_self _

private theorem others_append_self (recipe : Recipe) (favorites : List Recipe) :
    others recipe (favorites ++ [recipe]) = others recipe favorites := by
  unfold others
  rw [List.filter_append]
  simp

private theorem titled_append_self (recipe : Recipe) (favorites : List Recipe) :
    titled recipe (favorites ++ [recipe]) = true := by
  unfold titled
  rw [List.any_append]
  simp

private theorem tap_set (recipe : Recipe) (favorites : List Recipe) :
    tap recipe (true, favorites) =
      (titled recipe (others recipe favorites), others recipe favorites) := rfl

private theorem tap_unset (recipe : Recipe) (favorites : List Recipe) :
    tap recipe (false, favorites) = (true, favorites ++ [recipe]) :=
  congrArg (·, favorites ++ [recipe]) (titled_append_self recipe favorites)

variable {recipe : Recipe} {favorites : List Recipe}

private theorem tap_first (isFavorite : Bool) :
    tap recipe (isFavorite, favorites) =
      (flagAfter recipe favorites isFavorite 1, favoritesAfter recipe favorites isFavorite 1) := by
  cases isFavorite with
  | false =>
      rw [tap_unset]
      simp [flagAfter, favoritesAfter]
  | true =>
      rw [tap_set]
      cases shared : titled recipe (others recipe favorites) with
      | true => simp [flagAfter, favoritesAfter, shared]
      | false => simp [flagAfter, favoritesAfter, shared]

private theorem others_favoritesAfter (isFavorite : Bool) (taps : Nat) :
    others recipe (favoritesAfter recipe favorites isFavorite taps) = others recipe favorites := by
  unfold favoritesAfter
  split
  · exact others_append_self recipe favorites
  · split
    · exact others_others recipe favorites
    · split
      · rw [others_append_self, others_others]
      · exact others_others recipe favorites

private theorem tap_later_of_set {isFavorite : Bool} {taps : Nat}
    (isSet : flagAfter recipe favorites isFavorite (taps + 1) = true) :
    tap recipe (true, favoritesAfter recipe favorites isFavorite (taps + 1)) =
      (flagAfter recipe favorites isFavorite (taps + 2),
        favoritesAfter recipe favorites isFavorite (taps + 2)) := by
  have later : ¬ (taps + 2 = 1 ∧ isFavorite = false) := by omega
  rw [tap_set, others_favoritesAfter]
  unfold flagAfter favoritesAfter at *
  rw [if_neg later]
  cases shared : titled recipe (others recipe favorites) with
  | true => simp
  | false =>
      rw [shared, Bool.false_or] at isSet
      have unset : (isFavorite ^^ (taps + 2).bodd) = false := by
        rw [Nat.bodd_succ (taps + 1), Bool.xor_not, isSet]
        rfl
      simp only [unset, Bool.false_or, Bool.false_eq_true, if_false]

private theorem tap_later_of_unset {isFavorite : Bool} {taps : Nat}
    (unset : flagAfter recipe favorites isFavorite (taps + 1) = false) :
    tap recipe (false, favoritesAfter recipe favorites isFavorite (taps + 1)) =
      (flagAfter recipe favorites isFavorite (taps + 2),
        favoritesAfter recipe favorites isFavorite (taps + 2)) := by
  have later : ¬ (taps + 2 = 1 ∧ isFavorite = false) := by omega
  obtain ⟨alone, even⟩ := Bool.or_eq_false_iff.mp unset
  have first : ¬ (taps + 1 = 1 ∧ isFavorite = false) := by
    rintro ⟨one, rfl⟩
    rw [one] at even
    cases even
  have odd : (isFavorite ^^ (taps + 2).bodd) = true := by
    rw [Nat.bodd_succ (taps + 1), Bool.xor_not, even]
    rfl
  rw [tap_unset]
  unfold flagAfter favoritesAfter
  rw [if_neg first, if_neg later, alone, even, odd]
  rfl

private theorem tap_iterate (isFavorite : Bool) (taps : Nat) :
    (tap recipe)^[taps + 1] (isFavorite, favorites) =
      (flagAfter recipe favorites isFavorite (taps + 1),
        favoritesAfter recipe favorites isFavorite (taps + 1)) := by
  induction taps with
  | zero => exact tap_first isFavorite
  | succ taps ih =>
      rw [Function.iterate_succ_apply', ih]
      cases flag : flagAfter recipe favorites isFavorite (taps + 1) with
      | true => exact tap_later_of_set flag
      | false => exact tap_later_of_unset flag

/-! ### The taps on a screen -/

variable {text : TextSearch} {screens : Screens} {ref : Ref} {viewModel : CollectionCellViewModel}

/-- A tap on a view model does to its flag and to the stored list what `tap` does. -/
private theorem tap_toggleFavorite (found : screens.viewModels[ref]? = some viewModel) :
    ∃ toggled, (screens.toggleFavorite ref viewModel).viewModels[ref]? = some toggled ∧
      toggled.recipe = viewModel.recipe ∧
      (toggled.isFavorite, getFavorites (screens.toggleFavorite ref viewModel).defaults) =
        tap viewModel.recipe (viewModel.isFavorite, getFavorites screens.defaults) := by
  refine ⟨_, toggled_viewModel found, rfl, ?_⟩
  have edited : getFavorites (screens.toggleFavorite ref viewModel).defaults =
      if viewModel.isFavorite then others viewModel.recipe (getFavorites screens.defaults)
      else getFavorites screens.defaults ++ [viewModel.recipe] := by
    rw [toggled_defaults found]
    cases viewModel.isFavorite with
    | true => exact getFavorites_removeFromFavorites viewModel.recipe screens.defaults
    | false => exact getFavorites_addToFavorites viewModel.recipe screens.defaults
  unfold tap isFavorite titled
  rw [edited]

private theorem taps_run (taps : Nat) (found : screens.viewModels[ref]? = some viewModel) :
    ∃ reached tapped,
      run (step text) screens (List.replicate taps (.toggleFavorite ref)) = some reached ∧
      reached.viewModels[ref]? = some tapped ∧ tapped.recipe = viewModel.recipe ∧
      (tapped.isFavorite, getFavorites reached.defaults) =
        (tap viewModel.recipe)^[taps] (viewModel.isFavorite, getFavorites screens.defaults) := by
  induction taps generalizing screens viewModel with
  | zero => exact ⟨screens, viewModel, rfl, found, rfl, rfl⟩
  | succ taps ih =>
      obtain ⟨toggled, foundNext, same, once⟩ := tap_toggleFavorite found
      obtain ⟨reached, tapped, arrived, foundLast, kept, later⟩ := ih foundNext
      have taken : step text screens (.toggleFavorite ref) =
          some (screens.toggleFavorite ref viewModel) := by
        simp only [step, found, Option.map_some]
      refine ⟨reached, tapped, ?_, foundLast, kept.trans same, ?_⟩
      · rw [List.replicate_succ, run_cons_of_step _ taken]
        exact arrived
      · rw [later, once, same, Function.iterate_succ_apply]

/-- From any state of the screens, any number of taps on one bookmark succeeds.  Where
another stored recipe has the title of the tapped one under another id, the flag is set
after every tap, and from the second on the store lacks the tapped id.  Otherwise the flag
alternates, and apart from the first add the store holds the tapped recipe once or not at
all, with every other entry in its place. -/
theorem taps_alternate (text : TextSearch) (screens : Screens) (ref : Ref)
    (viewModel : CollectionCellViewModel) (taps : Nat)
    (found : screens.viewModels[ref]? = some viewModel) :
    ∃ reached tapped,
      run (step text) screens (List.replicate (taps + 1) (.toggleFavorite ref)) = some reached ∧
      reached.viewModels[ref]? = some tapped ∧ tapped.recipe = viewModel.recipe ∧
      tapped.isFavorite = flagAfter viewModel.recipe (getFavorites screens.defaults)
        viewModel.isFavorite (taps + 1) ∧
      getFavorites reached.defaults = favoritesAfter viewModel.recipe
        (getFavorites screens.defaults) viewModel.isFavorite (taps + 1) := by
  obtain ⟨reached, tapped, arrived, foundLast, kept, both⟩ := @taps_run text _ _ _ (taps + 1) found
  rw [tap_iterate] at both
  exact ⟨reached, tapped, arrived, foundLast, kept, congrArg Prod.fst both,
    congrArg Prod.snd both⟩

def sharedTitle : Screens :=
  oneViewModel [.titled 1 "Plov", .titled 2 "Plov"] ⟨.titled 1 "Plov", false⟩

theorem taps_alternate_sharedTitle :
    ∃ reached tapped,
      run (step ⟨id, fun _ _ => true⟩) sharedTitle (List.replicate 3 (.toggleFavorite 0)) =
        some reached ∧
      reached.viewModels[0]? = some tapped ∧ tapped.recipe = .titled 1 "Plov" ∧
      tapped.isFavorite = true ∧ getFavorites reached.defaults = [.titled 2 "Plov"] := by
  obtain ⟨reached, tapped, arrived, found, kept, flag, favorites⟩ :=
    taps_alternate ⟨id, fun _ _ => true⟩ sharedTitle 0 ⟨.titled 1 "Plov", false⟩ 2 rfl
  exact ⟨reached, tapped, arrived, found, kept, flag, favorites⟩

end SmartMeal.RepeatedTaps
