import TextAdventure.Lexicon.Lookup
import TextAdventure.Proofs.Text.Case

/-!
Looking words up. In a lexicon whose canonical forms have no blank in them (`HasSolidForms`) every
word expands to one word, so expansion keeps the number of words and the spaces between them. In any
lexicon that is made from tables a word expands to some text with a word in it (`FormsHaveWords`),
and then the search for a verb cannot fail: a phrase without a word of its own would have to stand
between two blanks in a row, and single-spaced text has none.
-/
namespace TextAdventure

open Text (IsWord)

namespace Lexicon

/-- Whether no canonical form has a blank in it. -/
def HasSolidForms (l : Lexicon) : Prop :=
  ∀ e ∈ l.verbs ++ l.directions, ∀ c ∈ e.canonical, Text.isBlank c = false

instance (l : Lexicon) : Decidable l.HasSolidForms :=
  decidable_of_iff
    (((l.verbs ++ l.directions).all fun e => e.canonical.all fun c => !Text.isBlank c) = true)
    (by simp only [HasSolidForms, List.all_eq_true, Bool.not_eq_true'])

theorem canonicalIn_mem (es : List Entry) (w v : Text) (found : canonicalIn es w = some v) :
    ∃ e ∈ es, e.canonical = v := by
  obtain ⟨e, chosen, rfl⟩ := Option.map_eq_some_iff.mp found
  rcases Option.or_eq_some_iff.mp chosen with first | ⟨-, second⟩
  · exact ⟨e, List.mem_of_find?_eq_some first, rfl⟩
  · exact ⟨e, List.mem_of_find?_eq_some second, rfl⟩

theorem nonempty?_eq_some (t u : Text) : t.nonempty? = some u ↔ t ≠ [] ∧ u = t := by
  cases t <;> simp [Text.nonempty?, eq_comm]

theorem mem_of_nonempty (es : List Entry) (w v : Text)
    (found : (canonicalIn es w).bind Text.nonempty? = some v) :
    v ≠ [] ∧ ∃ e ∈ es, e.canonical = v := by
  obtain ⟨u, canonical, kept⟩ := Option.bind_eq_some_iff.mp found
  obtain ⟨nonempty, rfl⟩ := (nonempty?_eq_some u v).mp kept
  exact ⟨nonempty, canonicalIn_mem es w v canonical⟩

/-- Whether every canonical form that is not empty has a word in it. -/
def FormsHaveWords (l : Lexicon) : Prop :=
  ∀ e ∈ l.verbs ++ l.directions, e.canonical ≠ [] → Text.words e.canonical ≠ []

instance (l : Lexicon) : Decidable l.FormsHaveWords :=
  inferInstanceAs (Decidable
    (∀ e ∈ l.verbs ++ l.directions, e.canonical ≠ [] → Text.words e.canonical ≠ []))

/-- Without blanks a canonical form is one word. -/
theorem formsHaveWords_of_hasSolidForms (l : Lexicon) (solid : l.HasSolidForms) :
    l.FormsHaveWords := by
  intro e member nonempty
  rw [Text.words_of_isWord e.canonical ⟨nonempty, solid e member⟩]
  exact List.cons_ne_nil _ _

theorem words_normal_ne_nil (t : Text) (nonempty : Text.normal t ≠ []) :
    Text.words (Text.normal t) ≠ [] := by
  intro empty
  rw [Text.words_normal, List.map_eq_nil_iff] at empty
  rw [Text.normal, empty] at nonempty
  exact nonempty rfl

/-- A lexicon that is made from tables holds them in normal form, where only the empty form has no
word. -/
theorem formsHaveWords_ofVocabulary (v : Vocabulary) : (ofVocabulary v).FormsHaveWords := by
  have entries (t : Table (List Text)) : ∀ e ∈ entriesOf t,
      e.canonical ≠ [] → Text.words e.canonical ≠ [] := by
    intro e member
    obtain ⟨entry, -, rfl⟩ := List.mem_map.mp member
    exact words_normal_ne_nil entry.1
  exact List.forall_mem_append.mpr ⟨entries v.verbs, entries v.directions⟩

variable (l : Lexicon)

/-- A word expands to itself or to a canonical form, but never to an empty one. -/
theorem canonicalWord_cases (w : Text) :
    l.canonicalWord w = Text.normal w ∨
      l.canonicalWord w ≠ [] ∧ ∃ e ∈ l.verbs ++ l.directions, e.canonical = l.canonicalWord w := by
  unfold canonicalWord
  cases expanded : (l.verb? w).or (l.direction? w) with
  | none => exact .inl rfl
  | some v =>
    rw [Option.getD_some]
    rcases Option.or_eq_some_iff.mp expanded with verb | ⟨-, direction⟩
    · obtain ⟨nonempty, e, member, form⟩ := mem_of_nonempty l.verbs _ v verb
      exact .inr ⟨nonempty, e, List.mem_append_left _ member, form⟩
    · obtain ⟨nonempty, e, member, form⟩ := mem_of_nonempty l.directions _ v direction
      exact .inr ⟨nonempty, e, List.mem_append_right _ member, form⟩

theorem isWord_canonicalWord (solid : l.HasSolidForms) (w : Text) (word : IsWord w) :
    IsWord (l.canonicalWord w) := by
  rcases l.canonicalWord_cases w with same | ⟨nonempty, e, member, form⟩
  · rw [same, Text.normal_of_isWord w word]
    exact Text.isWord_casefold w word
  · exact ⟨nonempty, form ▸ solid e member⟩

theorem canonicalWord_ne_nil (w : Text) (word : IsWord w) : l.canonicalWord w ≠ [] := by
  rcases l.canonicalWord_cases w with same | ⟨nonempty, -⟩
  · rw [same, Text.normal_of_isWord w word]
    exact (Text.isWord_casefold w word).1
  · exact nonempty

theorem words_canonicalWord_ne_nil (forms : l.FormsHaveWords) (w : Text) (word : IsWord w) :
    Text.words (l.canonicalWord w) ≠ [] := by
  rcases l.canonicalWord_cases w with same | ⟨nonempty, e, member, form⟩
  · rw [same, Text.words_normal, Text.words_of_isWord w word]
    exact List.cons_ne_nil _ _
  · rw [← form] at nonempty ⊢
    exact forms e member nonempty

theorem isWord_of_mem_expandWords (solid : l.HasSolidForms) (ws : List Text)
    (proper : ∀ w ∈ ws, IsWord w) : ∀ w ∈ l.expandWords ws, IsWord w := by
  intro v member
  obtain ⟨w, source, rfl⟩ := List.mem_map.mp member
  exact l.isWord_canonicalWord solid w (proper w source)

theorem length_expandWords (ws : List Text) : (l.expandWords ws).length = ws.length :=
  List.length_map _

end Lexicon

/-! ### Texts within texts -/

namespace Text

theorem occursIn_iff (needle t : Text) : occursIn needle t = true ↔ needle <:+: t := by
  induction t with
  | nil => rw [occursIn, List.isEmpty_iff, List.infix_nil]
  | cons c t ih =>
    rw [occursIn, Bool.or_eq_true, List.isPrefixOf_iff_prefix, ih, List.infix_cons_iff]

end Text

end TextAdventure
