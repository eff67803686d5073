/-
The notation `name(amount)` of an ingredient, and what the parser makes of it.

The parser takes the first and the last piece between opening parentheses and drops
the last character of the latter, whether or not it is a closing parenthesis.  A
character is an extended grapheme cluster, so a parenthesis that is written next to a
text may become part of a character of it, and is then no parenthesis any more.  What
joins a character is left open where the results do not depend on it.
-/

import SmartMeal.FavoritesManager
import SmartMeal.Library.Pieces

namespace SmartMeal.IngredientNotation

open Pieces Clusters Graphemes

variable {joins : List Char → Char → Bool}

def closes : Nat → List (List Char) → Bool
  | depth, [] => depth == 0
  | depth, ['('] :: rest => closes (depth + 1) rest
  | 0, [')'] :: _ => false
  | depth + 1, [')'] :: rest => closes depth rest
  | depth, _ :: rest => closes depth rest

/-- Every parenthesis of the text has its partner. -/
def Balanced (joins : List Char → Char → Bool) (text : String) : Prop :=
  closes 0 (characters joins text) = true

/-- Written as `name(amount)`, the texts and the parentheses keep their characters. -/
structure KeepsCharacters (joins : List Char → Char → Bool) (name amount : String) : Prop where
  opening : Apart joins name.toList ['(']
  opened : Apart joins ['('] (amount.toList ++ [')'])
  closing : Apart joins amount.toList [')']

/-! ### The parser by the pieces of its text -/

theorem parts_eq (text : String) :
    (((characters joins text).splitOn ['(']).filter fun part => !part.isEmpty) =
      pieces ['('] (characters joins text) := rfl

private theorem parseIngredientBy_of_pieces {text : String} {first last : List (List Char)}
    (head : (pieces ['('] (characters joins text)).head? = some first)
    (final : (pieces ['('] (characters joins text)).getLast? = some last) :
    parseIngredientBy joins text =
      some ⟨String.ofList first.flatten, String.ofList last.dropLast.flatten⟩ := by
  simp only [parseIngredientBy, parts_eq, head, final]

private theorem parseIngredientBy_of_cons {text : String} {first : List (List Char)}
    {rest : List (List (List Char))}
    (found : pieces ['('] (characters joins text) = first :: rest) :
    ∃ last ∈ first :: rest, (pieces ['('] (characters joins text)).getLast? = some last ∧
      parseIngredientBy joins text =
        some ⟨String.ofList first.flatten, String.ofList last.dropLast.flatten⟩ := by
  have final := List.getLast?_eq_some_getLast (List.cons_ne_nil first rest)
  refine ⟨_, List.getLast_mem (List.cons_ne_nil first rest), ?_, ?_⟩
  · rw [found]
    exact final
  · apply parseIngredientBy_of_pieces
    · rw [found]
      rfl
    · rw [found]
      exact final

private theorem parseIngredientBy_eq_none_iff (text : String) :
    parseIngredientBy joins text = none ↔
      ∀ character ∈ characters joins text, character = ['('] := by
  rw [← pieces_eq_nil_iff]
  cases found : pieces ['('] (characters joins text) with
  | nil =>
      apply iff_of_true _ rfl
      simp only [parseIngredientBy, parts_eq, found, List.head?_nil]
  | cons first rest =>
      obtain ⟨last, _, _, parsed⟩ := parseIngredientBy_of_cons found
      rw [parsed]
      exact iff_of_false (Option.some_ne_none _) (List.cons_ne_nil first rest)

private theorem pieces_of_parsed {text : String} {ingredient : Ingredient}
    (parsed : parseIngredientBy joins text = some ingredient) :
    ∃ first last, (pieces ['('] (characters joins text)).head? = some first ∧
      (pieces ['('] (characters joins text)).getLast? = some last ∧
      first.flatten = ingredient.name.toList ∧
      last.dropLast.flatten = ingredient.amount.toList := by
  cases found : pieces ['('] (characters joins text) with
  | nil =>
      rw [(parseIngredientBy_eq_none_iff text).mpr ((pieces_eq_nil_iff _).mp found)] at parsed
      cases parsed
  | cons first rest =>
      obtain ⟨last, _, final, read⟩ := parseIngredientBy_of_cons found
      rw [read] at parsed
      cases parsed
      exact ⟨first, last, rfl, found ▸ final, by simp, by simp⟩

theorem parseIngredient_eq_none_iff (text : String) :
    parseIngredient text = none ↔ ∀ character ∈ text.toList, character = '(' := by
  unfold parseIngredient
  rw [parseIngredientBy_eq_none_iff]
  constructor
  · intro all scalar member
    rw [← @flatten_clusters _ Graphemes.joins text.toList] at member
    obtain ⟨character, there, inside⟩ := List.mem_flatten.mp member
    rw [all character there] at inside
    exact List.mem_singleton.mp inside
  · intro all character member
    have alone : ∀ first ∈ text.toList, ∀ second ∈ text.toList,
        Graphemes.joins [first] second = false := by
      intro first here second there
      rw [all first here, all second there]
      rfl
    unfold characters at member
    rw [clusters_eq_map alone] at member
    obtain ⟨scalar, inside, rfl⟩ := List.mem_map.mp member
    rw [all scalar inside]

/-! ### A bare name -/

private theorem flatten_eq_nil_iff {text : List Char} {part : List (List Char)}
    (members : part.Sublist (clusters joins text)) : part.flatten = [] ↔ part = [] := by
  constructor
  · intro empty
    cases part with
    | nil => rfl
    | cons first rest =>
        have nonempty := ne_nil_of_mem_clusters (members.subset List.mem_cons_self)
        rw [List.flatten_cons] at empty
        exact absurd (List.append_eq_nil_iff.mp empty).1 nonempty
  · rintro rfl
    rfl

private theorem toList_ne_nil {text : String} (nonempty : text ≠ "") : text.toList ≠ [] := by
  simpa using nonempty

private theorem parseIngredientBy_bare {name : String} (nonempty : name ≠ "")
    (plain : ['('] ∉ characters joins name) :
    parseIngredientBy joins name =
      some ⟨name, String.ofList (characters joins name).dropLast.flatten⟩ := by
  have single : pieces ['('] (characters joins name) = [characters joins name] :=
    pieces_of_absent (clusters_ne_nil (toList_ne_nil nonempty)) plain
  obtain ⟨last, member, _, parsed⟩ := parseIngredientBy_of_cons single
  rw [List.mem_singleton.mp member] at parsed
  rw [parsed]
  unfold characters
  rw [flatten_clusters, String.ofList_toList]

private theorem parseIngredientBy_bare_iff {name : String} (nonempty : name ≠ "")
    (plain : ['('] ∉ characters joins name) :
    parseIngredientBy joins name = some ⟨name, ""⟩ ↔ (characters joins name).length = 1 := by
  have some := List.length_pos_of_ne_nil
    (@clusters_ne_nil _ joins _ (toList_ne_nil nonempty))
  have empty : String.ofList (characters joins name).dropLast.flatten = "" ↔
      (characters joins name).dropLast = [] := by
    rw [← String.toList_eq_nil_iff, String.toList_ofList]
    exact flatten_eq_nil_iff (List.dropLast_sublist _)
  rw [parseIngredientBy_bare nonempty plain, Option.some_inj, Ingredient.mk.injEq]
  rw [eq_self_iff_true, true_and, empty, ← List.length_eq_zero_iff, List.length_dropLast]
  unfold characters
  omega

/-! ### A name with an amount -/

private theorem toList_noted (name amount : String) :
    (name ++ "(" ++ amount ++ ")").toList = name.toList ++ '(' :: (amount.toList ++ [')']) := by
  simp

private theorem characters_noted {name amount : String}
    (opening : Apart joins name.toList ['('])
    (opened : Apart joins ['('] (amount.toList ++ [')'])) :
    characters joins (name ++ "(" ++ amount ++ ")") =
      characters joins name ++ ['('] :: clusters joins (amount.toList ++ [')']) := by
  have noted := (apart_cons_iff_apart_cons name.toList '(' (amount.toList ++ [')']) []).mpr opening
  unfold characters
  rw [toList_noted, noted, ← List.singleton_append, opened]
  rfl

private theorem parseIngredientBy_noted {name amount : String} (nonempty : name ≠ "")
    (plain : ['('] ∉ characters joins name) (keeps : KeepsCharacters joins name amount)
    (flat : ['('] ∉ characters joins amount) :
    parseIngredientBy joins (name ++ "(" ++ amount ++ ")") = some ⟨name, amount⟩ := by
  have left : pieces ['('] (characters joins name) = [characters joins name] :=
    pieces_of_absent (clusters_ne_nil (toList_ne_nil nonempty)) plain
  have right : pieces ['('] (characters joins amount ++ [[')']]) =
      [characters joins amount ++ [[')']]] := by
    apply pieces_of_absent (by simp)
    simpa using flat
  have noted : pieces ['('] (characters joins (name ++ "(" ++ amount ++ ")")) =
      [characters joins name, characters joins amount ++ [[')']]] := by
    rw [characters_noted keeps.opening keeps.opened, pieces_append, left, keeps.closing]
    exact congrArg _ right
  have final : (pieces ['('] (characters joins (name ++ "(" ++ amount ++ ")"))).getLast? =
      some (characters joins amount ++ [[')']]) := by
    rw [noted]
    rfl
  rw [parseIngredientBy_of_pieces (by rw [noted]; rfl) final, List.dropLast_concat]
  unfold characters
  rw [flatten_clusters, flatten_clusters, String.ofList_toList, String.ofList_toList]

private theorem length_le_of_first {text : String} {name : List Char}
    {before later : List (List Char)}
    {character : List Char} {first : List (List Char)}
    (split : characters joins text = before ++ character :: later)
    (plain : ['('] ∉ before) (other : character ≠ ['('])
    (head : (pieces ['('] (characters joins text)).head? = some first)
    (same : first.flatten = name) : before.flatten.length + character.length ≤ name.length := by
  have absent : ['('] ∉ before ++ [character] := by
    simp [plain, other.symm]
  obtain ⟨more, begins⟩ := head_pieces_append (by simp) absent later
  rw [List.append_assoc, List.singleton_append, ← split, head] at begins
  rw [← same, Option.some.inj begins]
  simp

/-- If the name is read back, the parenthesis is not merged with it. -/
private theorem apart_opening_of_first {name amount : String} {first : List (List Char)}
    (nonempty : name ≠ "") (plain : ['('] ∉ characters joins name)
    (head : (pieces ['('] (characters joins (name ++ "(" ++ amount ++ ")"))).head? = some first)
    (same : first.flatten = name.toList) : Apart joins name.toList ['('] := by
  obtain ⟨done, last, own, append⟩ :=
    @exists_clusters_append _ joins _ (toList_ne_nil nonempty)
  rw [apart_cons_iff own, ← Bool.not_eq_true]
  intro taken
  obtain ⟨more, later, grown⟩ :=
    @exists_grow_eq _ joins (last ++ ['(']) (amount.toList ++ [')'])
  have split : characters joins (name ++ "(" ++ amount ++ ")") =
      done ++ (last ++ ['('] ++ more) :: later := by
    unfold characters
    rw [toList_noted, append, grow, if_pos taken, grown]
  have positive : 0 < last.length := by
    apply List.length_pos_of_ne_nil
    apply @ne_nil_of_mem_clusters _ joins name.toList
    rw [own]
    simp
  have grew : last ++ ['('] ++ more ≠ ['('] := by
    intro impossible
    have lengths := congrArg List.length impossible
    simp only [List.length_append, List.length_cons, List.length_nil] at lengths
    omega
  have absent : ['('] ∉ done := by
    intro impossible
    apply plain
    unfold characters
    rw [own]
    exact List.mem_append_left _ impossible
  have long := length_le_of_first split absent grew head same
  have counted := congrArg List.length (@flatten_clusters _ joins name.toList)
  rw [own] at counted
  simp only [List.flatten_append, List.flatten_cons, List.flatten_nil, List.length_append,
    List.length_cons, List.length_nil] at counted long
  omega

private theorem apart_opened_of_first {name amount : String} {first : List (List Char)}
    (plain : ['('] ∉ characters joins name) (opening : Apart joins name.toList ['('])
    (head : (pieces ['('] (characters joins (name ++ "(" ++ amount ++ ")"))).head? = some first)
    (same : first.flatten = name.toList) : Apart joins ['('] (amount.toList ++ [')']) := by
  obtain ⟨symbol, rest, follows⟩ :=
    List.exists_cons_of_ne_nil (List.append_ne_nil_of_right_ne_nil amount.toList
      (List.cons_ne_nil ')' []))
  have alone : clusters joins ['('] = [] ++ [['(']] := rfl
  rw [follows, apart_cons_iff alone, ← Bool.not_eq_true]
  intro taken
  obtain ⟨more, later, grown⟩ := @exists_grow_eq _ joins ['(', symbol] rest
  have split : characters joins (name ++ "(" ++ amount ++ ")") =
      characters joins name ++ (['(', symbol] ++ more) :: later := by
    have noted := (apart_cons_iff_apart_cons name.toList '(' (symbol :: rest) []).mpr opening
    unfold characters
    rw [toList_noted, follows, noted, ← grown]
    change _ ++ grow joins ['('] (symbol :: rest) = _
    rw [grow, if_pos taken]
    rfl
  have long := length_le_of_first split plain (by simp) head same
  unfold characters at long
  rw [flatten_clusters, List.length_append, List.length_cons, List.length_singleton] at long
  omega

private theorem pieces_closing_ne_nil (amount : List Char) :
    pieces ['('] (clusters joins (amount ++ [')'])) ≠ [] := by
  intro none
  have all := (pieces_eq_nil_iff _).mp none
  have closes : ')' ∈ (clusters joins (amount ++ [')'])).flatten := by
    rw [flatten_clusters]
    simp
  obtain ⟨character, member, inside⟩ := List.mem_flatten.mp closes
  rw [all character member] at inside
  exact absurd inside (by decide)

/-- If the amount is read back, it opens no parenthesis. -/
private theorem not_mem_of_last {amount : String} {last : List (List Char)}
    (member : last ∈ pieces ['('] (clusters joins (amount.toList ++ [')'])))
    (same : last.dropLast.flatten = amount.toList) :
    ['('] ∉ clusters joins (amount.toList ++ [')']) := by
  intro present
  obtain ⟨before, after, split, beside⟩ := sublist_beside_of_mem_pieces present member
  have short : last.flatten.length ≤ before.flatten.length + after.flatten.length :=
    beside.elim (fun left => Nat.le_add_right_of_le left.flatten.length_le)
      (fun right => Nat.le_add_left_of_le right.flatten.length_le)
  obtain impossible | ⟨done, final, rfl⟩ := List.eq_nil_or_concat' last
  · exact ne_nil_of_mem_pieces member impossible
  · have inside := (sublist_of_mem_pieces member).subset (List.mem_append_right done
      (List.mem_singleton_self final))
    have positive := List.length_pos_of_ne_nil (ne_nil_of_mem_clusters inside)
    have counted := congrArg List.length (@flatten_clusters _ joins (amount.toList ++ [')']))
    rw [List.dropLast_concat] at same
    rw [split] at counted
    simp only [List.flatten_append, List.flatten_cons, List.flatten_nil, List.length_append,
      List.length_cons, List.length_nil, same] at counted short
    omega

private theorem apart_closing_of_last {amount : String} {last : List (List Char)}
    (member : last ∈ pieces ['('] (clusters joins (amount.toList ++ [')'])))
    (same : last.dropLast.flatten = amount.toList) : Apart joins amount.toList [')'] := by
  have absent := not_mem_of_last member same
  rw [pieces_of_absent (clusters_ne_nil (by simp)) absent, List.mem_singleton] at member
  obtain impossible | ⟨done, final, split⟩ :=
    List.eq_nil_or_concat' (clusters joins (amount.toList ++ [')']))
  · exact absurd impossible (clusters_ne_nil (by simp))
  · rw [member, split, List.dropLast_concat] at same
    exact apart_of_flatten split same

/-- A bare name is read back exactly when it is a single character; a name with an amount,
balanced or not, exactly when the notation merges no characters and the amount opens no
parenthesis.  Nothing is assumed of what joins a character. -/
theorem parseIngredient_inverts_iff (joins : List Char → Char → Bool) (name : String)
    (nonempty : name ≠ "") (plain : ['('] ∉ characters joins name) :
    (parseIngredientBy joins name = some ⟨name, ""⟩ ↔ (characters joins name).length = 1) ∧
      ∀ amount : String,
        parseIngredientBy joins (name ++ "(" ++ amount ++ ")") = some ⟨name, amount⟩ ↔
          KeepsCharacters joins name amount ∧ ['('] ∉ characters joins amount := by
  refine ⟨parseIngredientBy_bare_iff nonempty plain, fun amount => ⟨fun parsed => ?_, ?_⟩⟩
  · obtain ⟨first, last, head, final, named, measured⟩ := pieces_of_parsed parsed
    have opening := apart_opening_of_first nonempty plain head named
    have opened := apart_opened_of_first plain opening head named
    rw [characters_noted opening opened, pieces_append,
      List.getLast?_append_of_ne_nil _ (pieces_closing_ne_nil amount.toList)] at final
    have member := List.mem_of_getLast? final
    have closing := apart_closing_of_last member measured
    refine ⟨⟨opening, opened, closing⟩, fun impossible => not_mem_of_last member measured ?_⟩
    rw [closing]
    exact List.mem_append_left _ impossible
  · rintro ⟨keeps, flat⟩
    exact parseIngredientBy_noted nonempty plain keeps flat

theorem parseIngredient_inverts_salt :
    (parseIngredientBy Graphemes.joins "Salt" = some ⟨"Salt", ""⟩ ↔
      (characters Graphemes.joins "Salt").length = 1) ∧
      ∀ amount : String,
        parseIngredientBy Graphemes.joins ("Salt" ++ "(" ++ amount ++ ")") =
            some ⟨"Salt", amount⟩ ↔
          KeepsCharacters Graphemes.joins "Salt" amount ∧
            ['('] ∉ characters Graphemes.joins amount :=
  parseIngredient_inverts_iff Graphemes.joins "Salt" (by decide) (by decide)

/-- A bare name loses its last character to the amount. -/
theorem not_parseIngredient_inverts_salt :
    ¬ ∀ name : String, name ≠ "" → ['('] ∉ characters Graphemes.joins name →
      [')'] ∉ characters Graphemes.joins name →
        parseIngredient name = some ⟨name, ""⟩ ∧
          ∀ amount : String, Balanced Graphemes.joins amount →
            parseIngredient (name ++ "(" ++ amount ++ ")") = some ⟨name, amount⟩ := by
  intro always
  have bare := (always "Salt" (by decide) (by decide) (by decide)).1
  exact absurd bare (by decide)

/-! ### The notation in Unicode 15.0 -/

/-- A parenthesis is merged with a prefix before it and with a mark after it. -/
theorem keepsCharacters_iff (name amount : String) :
    KeepsCharacters Graphemes.joins name amount ↔
      (∀ last, name.toList.getLast? = some last → graphemeBreak last ≠ .prepend) ∧
      (∀ first, amount.toList.head? = some first → isAttached (graphemeBreak first) = false) ∧
      (∀ last, amount.toList.getLast? = some last → graphemeBreak last ≠ .prepend) := by
  have opened : Apart Graphemes.joins ['('] (amount.toList ++ [')']) ↔
      ∀ first, amount.toList.head? = some first → isAttached (graphemeBreak first) = false := by
    rw [apart_after_other_iff rfl]
    cases amount.toList with
    | nil =>
        apply iff_of_true
        · intro scalar here
          cases here
          rfl
        · intro first impossible
          cases impossible
    | cons first rest => rfl
  rw [← apart_other_iff (rfl : graphemeBreak '(' = .other), ← opened,
    ← apart_other_iff (rfl : graphemeBreak ')' = .other)]
  exact ⟨fun keeps => ⟨keeps.opening, keeps.opened, keeps.closing⟩,
    fun ⟨opening, opened, closing⟩ => ⟨opening, opened, closing⟩⟩

/-- An accent after the opening parenthesis: the text is not split. -/
example : parseIngredient "Salt(\u0301x)" = some ⟨"Salt(\u0301x)", "Salt(\u0301x"⟩ := by
  decide +kernel

end SmartMeal.IngredientNotation
