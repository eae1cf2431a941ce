import TextAdventure.Pattern.Compile
import TextAdventure.Proofs.Regex.WrittenForm

/-!
The expressions of patterns. Each choice in them has a word to choose, so the expression can be read
back from its written form, and it captures exactly once for each slot (`groups_layout`).
-/
namespace TextAdventure

namespace Regex

theorem hasChoices_spaced (rs : List Regex) (choices : ∀ r ∈ rs, r.HasChoices) :
    (spaced rs).HasChoices := by
  induction rs with
  | nil => trivial
  | cons r rs ih =>
    obtain ⟨first, rest⟩ := List.forall_mem_cons.mp choices
    cases rs with
    | nil => exact first
    | cons s rs => exact ⟨first, trivial, ih rest⟩

theorem groups_spaced (rs : List Regex) (plain : ∀ r ∈ rs, r.groups = 0) :
    (spaced rs).groups = 0 := by
  induction rs with
  | nil => rfl
  | cons r rs ih =>
    obtain ⟨first, rest⟩ := List.forall_mem_cons.mp plain
    cases rs with
    | nil => exact first
    | cons s rs => simp only [spaced, groups, first, ih rest]

theorem eraseDups_ne_nil (ws : List Text) (nonempty : ws ≠ []) : ws.eraseDups ≠ [] := by
  obtain ⟨w, vs, rfl⟩ := List.exists_cons_of_ne_nil nonempty
  exact List.ne_nil_of_mem (List.mem_eraseDups.mpr List.mem_cons_self)

theorem hasChoices_nameExcept (excluded : List Text) : (nameExcept excluded).HasChoices := by
  unfold nameExcept
  split
  · trivial
  next some =>
    have nonempty : excluded ≠ [] := fun none => some (List.isEmpty_iff.mpr none)
    exact ⟨⟨eraseDups_ne_nil excluded nonempty, trivial⟩, trivial⟩

theorem groups_nameExcept (excluded : List Text) : (nameExcept excluded).groups = 0 := by
  unfold nameExcept
  split <;> rfl

end Regex

variable (spell : Text → Text)

theorem Choice.hasChoices_regex (c : Choice) : (c.regex spell).HasChoices := by
  unfold regex
  split
  · trivial
  · exact Regex.eraseDups_ne_nil _ (List.cons_ne_nil _ _)

theorem Choice.groups_regex (c : Choice) : (c.regex spell).groups = 0 := by
  unfold regex
  split <;> rfl

theorem Element.hasChoices_regex (before : List Element) (e : Element) :
    (e.regex spell before).HasChoices := by
  cases e with
  | choice c => exact c.hasChoices_regex spell
  | optional c cs =>
    apply Regex.hasChoices_spaced
    intro r member
    obtain ⟨d, -, rfl⟩ := List.mem_map.mp member
    exact d.hasChoices_regex spell
  | capture name =>
    have choices := Regex.hasChoices_nameExcept ((excludedWords before).map spell)
    exact ⟨choices, trivial, choices⟩
  | wildcard => trivial

/-- Only captures capture, each one phrase. -/
theorem Element.groups_regex (before : List Element) (e : Element) :
    (e.regex spell before).groups = (slotNames [e]).length := by
  cases e with
  | choice c => exact c.groups_regex spell
  | optional c cs =>
    apply Regex.groups_spaced
    intro r member
    obtain ⟨d, -, rfl⟩ := List.mem_map.mp member
    exact d.groups_regex spell
  | capture name =>
    have plain := Regex.groups_nameExcept ((excludedWords before).map spell)
    simp only [Element.regex, Regex.phrase, Regex.groups, plain]
    rfl
  | wildcard => rfl

theorem hasChoices_layout (before es : List Element) : (layout spell before es).HasChoices := by
  induction es generalizing before with
  | nil => trivial
  | cons e es ih =>
    have body := e.hasChoices_regex spell before
    refine ⟨?_, ih (e :: before)⟩
    split
    · exact ⟨body, trivial⟩
    · exact body
    · exact ⟨trivial, body⟩
    · exact ⟨trivial, body⟩

theorem slotNames_cons (e : Element) (es : List Element) :
    slotNames (e :: es) = slotNames [e] ++ slotNames es :=
  List.filterMap_append (l := [e])

theorem groups_layout (before es : List Element) :
    (layout spell before es).groups = (slotNames es).length := by
  induction es generalizing before with
  | nil => rfl
  | cons e es ih =>
    have body := e.groups_regex spell before
    rw [slotNames_cons, List.length_append, ← body, ← ih (e :: before), layout, Regex.groups]
    congr 1
    split <;> simp [Regex.groups]

end TextAdventure
