import TextAdventure.Proofs.Pattern.Matching

/-!
No pattern fits the empty text. Every body of an element reads at least one character as long as the
words are not spelled as nothing, so none can be read at the end of a text (`FailsAtEnd`), and a
layout with a required element fails there (`run_layout_nil`). Nothing is asked about blanks in the
spellings.
-/
namespace TextAdventure

open Regex

/-- Whether the expression cannot be read where the text ends, whatever is to follow. -/
def Regex.FailsAtEnd (r : Regex) : Prop :=
  ∀ n caps (k : Cursor → Option Cursor), run r ⟨[], n, caps⟩ k = none

namespace Regex

theorem failsAtEnd_literal (w : Text) (nonempty : w ≠ []) : FailsAtEnd (literal w) := by
  obtain ⟨c, u, rfl⟩ := List.exists_cons_of_ne_nil nonempty
  exact fun _ _ _ => rfl

theorem failsAtEnd_oneOf (ws : List Text) (nonempty : ∀ w ∈ ws, w ≠ []) : FailsAtEnd (oneOf ws) :=
  fun n caps k => List.findSome?_eq_none_iff.mpr fun w member =>
    failsAtEnd_literal w (nonempty w member) n caps k

theorem FailsAtEnd.cat (r s : Regex) (fails : FailsAtEnd r) : FailsAtEnd (cat r s) :=
  fun n caps k => fails n caps fun c => run s c k

theorem failsAtEnd_nameExcept (excluded : List Text) : FailsAtEnd (nameExcept excluded) := by
  intro n caps k
  unfold nameExcept
  split
  · rfl
  · -- whether or not an excluded word is ahead, no name is
    rw [run_cat]
    exact ite_self none

end Regex

section Elements

variable (spell : Text → Text)

theorem Choice.failsAtEnd (c : Choice) (spelled : ∀ w ∈ c.words, spell w ≠ []) :
    FailsAtEnd (c.regex spell) := by
  have nonempty : ∀ v ∈ (c.words.map spell).eraseDups, v ≠ [] := by
    intro v member
    obtain ⟨w, source, rfl⟩ := List.mem_map.mp (List.mem_eraseDups.mp member)
    exact spelled w source
  unfold Choice.regex
  split
  next v single =>
    rw [single] at nonempty
    exact failsAtEnd_literal v (nonempty v List.mem_cons_self)
  · exact failsAtEnd_oneOf _ nonempty

theorem Element.failsAtEnd (before : List Element) (e : Element)
    (spelled : ∀ w ∈ e.words, spell w ≠ []) : FailsAtEnd (e.regex spell before) := by
  cases e with
  | choice c => exact c.failsAtEnd spell spelled
  | optional c cs =>
    have first : FailsAtEnd (c.regex spell) :=
      c.failsAtEnd spell fun w member => spelled w (List.mem_append_left _ member)
    cases cs with
    | nil => exact first
    | cons d ds => exact first.cat _ _
  | capture name =>
    exact fun n caps k => (failsAtEnd_nameExcept _).cat _ _ n caps _
  | wildcard => exact fun _ _ _ => rfl

/-- In front of the first required element everything else can be left out at the end of the text,
but not that element. -/
theorem run_layout_nil (before es : List Element) (fresh : before.any Element.isRequired = false)
    (required : es.any Element.isRequired = true)
    (spelled : ∀ e ∈ es, ∀ w ∈ e.words, spell w ≠ []) : FailsAtEnd (layout spell before es) := by
  induction es generalizing before with
  | nil => cases required
  | cons e es ih =>
    obtain ⟨first, later⟩ := List.forall_mem_cons.mp spelled
    have body := e.failsAtEnd spell before first
    intro n caps k
    rw [layout_ahead spell before e es fresh, run_cat]
    cases needed : e.isRequired with
    | true => exact body n caps _
    | false =>
      -- left in or left out, the element leads to the end of the text with the required one to come
      rw [List.any_cons, needed, Bool.false_or] at required
      have rest := ih (e :: before) (by simp [fresh, needed]) required later n caps k
      have left := body.cat _ blanks n caps fun c => run (layout spell (e :: before) es) c k
      simp only [Bool.false_eq_true, if_false]
      rw [run_opt, left, Option.none_or]
      exact rest

end Elements

theorem Rule.spans?_nil (spell : Text → Text) (r : Rule) (regex : r.regex = r.pattern.regex spell)
    (spelled : ∀ e ∈ r.pattern.elements, ∀ w ∈ e.words, spell w ≠ []) : r.spans? [] = none := by
  have fails := run_layout_nil spell [] r.pattern.elements rfl r.pattern.has_required spelled
  have searched : run r.regex ⟨[], 0, []⟩ atEnd = none := regex ▸ fails 0 [] atEnd
  rw [spans?, matchWhole?, searched]
  rfl

end TextAdventure
