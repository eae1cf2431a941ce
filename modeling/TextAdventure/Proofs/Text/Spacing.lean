import Mathlib.Data.List.DropRight
import Mathlib.Data.List.TakeWhile
import TextAdventure.Proofs.Text.Trim

/-!
Texts up to their spacing. Squeezing a text puts one space in the place of every run of blanks. A
trimmed text is squeezed to its words, joined by single spaces (`squeeze_eq_unwords`), and behind a
solid character a text may be cut before it is squeezed (`squeeze_append`).
-/
namespace TextAdventure.Text

/-- The text with one space for each run of blanks. -/
def squeeze : Text → Text
  | [] => []
  | c :: t => if isBlank c then ' ' :: trimStart (squeeze t) else c :: squeeze t

theorem squeeze_cons_solid (t : Text) (c : Char) (solid : isBlank c = false) :
    squeeze (c :: t) = c :: squeeze t := by rw [squeeze, if_neg (by simp [solid])]

theorem trimStart_cons_blank (t : Text) (c : Char) (blank : isBlank c = true) :
    trimStart (c :: t) = trimStart t := List.dropWhile_cons_of_pos blank

theorem trimStart_trimStart (t : Text) : trimStart (trimStart t) = trimStart t :=
  List.dropWhile_idempotent ..

theorem trimStart_squeeze (t : Text) : trimStart (squeeze t) = squeeze (trimStart t) := by
  induction t with
  | nil => rfl
  | cons c t ih =>
    cases blank : isBlank c with
    | true =>
      rw [squeeze, if_pos blank, trimStart_cons_blank _ ' ' isBlank_space, trimStart_trimStart, ih,
        trimStart_cons_blank t c blank]
    | false =>
      rw [squeeze_cons_solid t c blank, trimStart_cons _ c blank, trimStart_cons t c blank,
        squeeze_cons_solid t c blank]

theorem squeeze_cons_blank (t : Text) (c : Char) (blank : isBlank c = true) :
    squeeze (c :: t) = ' ' :: squeeze (trimStart t) := by
  rw [squeeze, if_pos blank, trimStart_squeeze]

@[simp] theorem squeeze_eq_nil_iff (t : Text) : squeeze t = [] ↔ t = [] := by
  cases t with
  | nil => exact iff_of_true rfl rfl
  | cons c t =>
    rw [squeeze]
    split <;> simp

/-! ### Cutting -/

theorem trimStart_append (t u : Text) (nonempty : trimStart t ≠ []) :
    trimStart (t ++ u) = trimStart t ++ u := by
  unfold trimStart at nonempty ⊢
  rw [List.dropWhile_append, if_neg (by simpa using nonempty)]

theorem trimStart_ne_nil (t : Text) (c : Char) (solid : isBlank c = false) :
    trimStart (t ++ [c]) ≠ [] := by
  intro empty
  have blank := List.dropWhile_eq_nil_iff.mp empty c (by simp)
  rw [solid] at blank
  cases blank

/-- Behind a solid character a text may be cut. -/
theorem squeeze_append (t u : Text) (c : Char) (solid : isBlank c = false) :
    squeeze (t ++ [c] ++ u) = squeeze (t ++ [c]) ++ squeeze u := by
  induction t with
  | nil =>
    have single : squeeze [c] = [c] := squeeze_cons_solid [] c solid
    rw [List.nil_append, single]
    exact squeeze_cons_solid u c solid
  | cons d t ih =>
    cases blank : isBlank d with
    | true =>
      have left := trimStart_ne_nil t c solid
      calc squeeze (d :: t ++ [c] ++ u)
          = ' ' :: squeeze (trimStart (t ++ [c] ++ u)) := squeeze_cons_blank _ d blank
        _ = ' ' :: trimStart (squeeze (t ++ [c]) ++ squeeze u) := by rw [← trimStart_squeeze, ih]
        _ = ' ' :: (squeeze (trimStart (t ++ [c])) ++ squeeze u) := by
          rw [trimStart_append _ _ (by simpa [trimStart_squeeze] using left), trimStart_squeeze]
        _ = squeeze (d :: t ++ [c]) ++ squeeze u := by
          rw [List.cons_append, squeeze_cons_blank _ d blank, List.cons_append]
    | false =>
      calc squeeze (d :: t ++ [c] ++ u)
          = d :: squeeze (t ++ [c] ++ u) := squeeze_cons_solid _ d blank
        _ = d :: (squeeze (t ++ [c]) ++ squeeze u) := by rw [ih]
        _ = squeeze (d :: t ++ [c]) ++ squeeze u := by
          rw [List.cons_append, squeeze_cons_solid _ d blank, List.cons_append]

/-! ### Words -/

theorem trimStart_append_of_isWord (w t : Text) (word : IsWord w) :
    trimStart (w ++ t) = w ++ t := by
  obtain ⟨c, w, rfl⟩ := List.exists_cons_of_ne_nil word.1
  exact trimStart_cons _ c (word.2 c List.mem_cons_self)

/-- The pieces of a text, with nothing in front of the first word. -/
theorem trimStart_splitWords (t : Text) :
    trimStart ((splitWords t).1 ++ afterWord (splitWords t).2) = unwords (words t) := by
  obtain ⟨solid, proper⟩ := splitWords_pieces t
  change _ = unwords (consWord (splitWords t).1 (splitWords t).2)
  cases first : (splitWords t).1 with
  | nil =>
    cases others : (splitWords t).2 with
    | nil => rfl
    | cons v vs =>
      have word : IsWord v := proper v (others ▸ List.mem_cons_self)
      rw [List.nil_append, afterWord_cons, trimStart_cons_blank _ ' ' isBlank_space,
        trimStart_append_of_isWord v _ word]
      exact (unwords_cons v vs).symm
  | cons c w =>
    have word : IsWord (c :: w) := ⟨List.cons_ne_nil c w, first ▸ solid⟩
    rw [trimStart_append_of_isWord _ _ word]
    exact (unwords_cons _ _).symm

/-- A text that does not end in a blank is squeezed to its pieces. -/
theorem squeeze_eq_splitWords (t : Text) (ends : ∀ c ∈ t.getLast?, isBlank c = false) :
    squeeze t = (splitWords t).1 ++ afterWord (splitWords t).2 := by
  induction t with
  | nil => rfl
  | cons c t ih =>
    have later : ∀ d ∈ t.getLast?, isBlank d = false := fun d last => ends d (by
      rw [List.getLast?_cons, Option.mem_def.mp last]
      rfl)
    cases blank : isBlank c with
    | false =>
      simp only [squeeze_cons_solid t c blank, ih later, splitWords, blank, Bool.false_eq_true,
        if_false, List.cons_append]
    | true =>
      have nonempty : words t ≠ [] := by
        intro empty
        have blanks : ∀ d ∈ c :: t, isBlank d = true :=
          List.forall_mem_cons.mpr ⟨blank, isBlank_of_words_eq_nil t empty⟩
        have last := ends _ (List.getLast?_eq_some_getLast (List.cons_ne_nil c t))
        rw [blanks _ (List.getLast_mem _)] at last
        cases last
      have pieces : splitWords (c :: t) = ([], words t) := by
        simp only [splitWords, blank, if_true, words]
      rw [squeeze, if_pos blank, ih later, trimStart_splitWords, pieces, List.nil_append,
        space_cons_unwords _ nonempty]

/-- A trimmed text is squeezed to its words. -/
theorem squeeze_eq_unwords (t : Text) (trimmed : trim t = t) : squeeze t = unwords (words t) := by
  by_cases nonempty : t = []
  · rw [nonempty]
    rfl
  · obtain ⟨⟨c, u, start, solid⟩, v, d, stop, solid'⟩ :=
      trimmed ▸ isTrimmed_trim t (trimmed.symm ▸ nonempty)
    have opens : trimStart t = t := by rw [start, trimStart_cons u c solid]
    have ends : ∀ e ∈ t.getLast?, isBlank e = false := by
      rw [stop, List.getLast?_concat]
      rintro e ⟨⟩
      exact solid'
    calc squeeze t = trimStart (squeeze t) := by rw [trimStart_squeeze, opens]
      _ = unwords (words t) := by rw [squeeze_eq_splitWords t ends, trimStart_splitWords]

end TextAdventure.Text
