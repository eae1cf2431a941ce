import TextAdventure.Text.Substring

/-!
Replacing. A text that is put together from pieces, some of which are the needle, is replaced piece
by piece, provided that the needle occurs nowhere but in those pieces (`replaceAll_flatMap`). It is
enough to count: a text has at least as many occurrences as pieces that are the needle, and if it
has no more, there is none inside another piece and none across two of them.
-/
namespace TextAdventure.Text

variable (needle value : Text)

/-- The number of places in `t` at which the needle begins, with the text `u` behind `t`. -/
def occurrencesBefore (u : Text) : Text → Nat
  | [] => 0
  | c :: t => (if needle.isPrefixOf (c :: t ++ u) then 1 else 0) + occurrencesBefore u t

/-- The number of places at which the needle begins. -/
def occurrences (t : Text) : Nat := occurrencesBefore needle [] t

theorem occurrencesBefore_append (s t u : Text) :
    occurrencesBefore needle u (s ++ t) =
      occurrencesBefore needle (t ++ u) s + occurrencesBefore needle u t := by
  induction s with
  | nil => exact (Nat.zero_add _).symm
  | cons c s ih =>
    rw [List.cons_append, occurrencesBefore, occurrencesBefore, ih, List.cons_append,
      List.cons_append, List.append_assoc, Nat.add_assoc]

theorem occurrences_append (s t : Text) :
    occurrences needle (s ++ t) = occurrencesBefore needle t s + occurrences needle t := by
  rw [occurrences, occurrencesBefore_append, List.append_nil, occurrences]

theorem occurrences_cons (c : Char) (t : Text) :
    occurrences needle (c :: t) =
      (if needle.isPrefixOf (c :: t) then 1 else 0) + occurrences needle t := by
  rw [occurrences, occurrencesBefore, List.append_nil, occurrences]

/-- The needle occurs where it stands. -/
theorem occurrencesBefore_self_pos (nonempty : needle ≠ []) (u : Text) :
    0 < occurrencesBefore needle u needle := by
  obtain ⟨c, n, rfl⟩ := List.exists_cons_of_ne_nil nonempty
  have here : (c :: n).isPrefixOf (c :: n ++ u) = true :=
    List.isPrefixOf_iff_prefix.mpr (List.prefix_append _ _)
  rw [occurrencesBefore, if_pos here]
  exact Nat.add_pos_left Nat.one_pos _

/-- What no occurrence begins in is kept. -/
theorem replaceAll_append_of_none (s u : Text) (none : occurrencesBefore needle u s = 0) :
    replaceAll needle value (s ++ u) = s ++ replaceAll needle value u := by
  induction s with
  | nil => rfl
  | cons c s ih =>
    obtain ⟨here, later⟩ := Nat.add_eq_zero_iff.mp none
    cases found : needle.isPrefixOf (c :: s ++ u) with
    | true =>
      rw [if_pos found] at here
      cases here
    | false =>
      rw [List.cons_append, replaceAll, replaceFrom, ← List.cons_append, found]
      exact congrArg (c :: ·) (ih later)

theorem replaceFrom_append (s u : Text) :
    replaceFrom needle value s.length (s ++ u) = replaceAll needle value u := by
  induction s with
  | nil => rfl
  | cons c s ih => rw [List.cons_append, List.length_cons, replaceFrom, ih]

theorem replaceAll_needle_append (nonempty : needle ≠ []) (u : Text) :
    replaceAll needle value (needle ++ u) = value ++ replaceAll needle value u := by
  obtain ⟨c, n, rfl⟩ := List.exists_cons_of_ne_nil nonempty
  have here : (c :: n).isPrefixOf (c :: n ++ u) = true :=
    List.isPrefixOf_iff_prefix.mpr (List.prefix_append _ _)
  rw [List.cons_append, replaceAll, replaceFrom, ← List.cons_append, here, if_pos rfl,
    List.length_cons, Nat.add_sub_cancel, replaceFrom_append]

section

variable {α : Type} (spell : α → Text) (isNeedle : α → Bool)
  (spelled : ∀ x, isNeedle x = true → spell x = needle) (nonempty : needle ≠ [])

include spelled nonempty

/-- There are at least as many occurrences as pieces that are the needle. -/
theorem countP_le_occurrences (xs : List α) :
    xs.countP isNeedle ≤ occurrences needle (xs.flatMap spell) := by
  induction xs with
  | nil => exact Nat.le_refl 0
  | cons x xs ih =>
    rw [List.flatMap_cons, occurrences_append, List.countP_cons]
    split
    next found =>
      -- the needle counts at least for itself
      rw [spelled x found, Nat.add_comm]
      exact Nat.add_le_add (occurrencesBefore_self_pos needle nonempty _) ih
    · exact Nat.le_trans ih (Nat.le_add_left _ _)

/-- If the needle occurs in no other place, the pieces that are the needle are replaced. -/
theorem replaceAll_flatMap (xs : List α)
    (only : occurrences needle (xs.flatMap spell) ≤ xs.countP isNeedle) :
    replaceAll needle value (xs.flatMap spell) =
      xs.flatMap fun x => if isNeedle x then value else spell x := by
  induction xs with
  | nil => rfl
  | cons x xs ih =>
    have least := countP_le_occurrences needle spell isNeedle spelled nonempty xs
    rw [List.flatMap_cons, occurrences_append, List.countP_cons] at only
    rw [List.flatMap_cons, List.flatMap_cons]
    -- the pieces behind need an occurrence each, which leaves one for a needle and none for another
    split at only
    next found =>
      have here := occurrencesBefore_self_pos needle nonempty (xs.flatMap spell)
      rw [spelled x found] at only ⊢
      rw [replaceAll_needle_append needle value nonempty, ih (by omega), if_pos found]
    next other =>
      rw [replaceAll_append_of_none needle value _ _ (by omega), ih (by omega), if_neg other]

end

end TextAdventure.Text
