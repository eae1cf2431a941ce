import TextAdventure.Proofs.Interpreter.Captures
import TextAdventure.Proofs.Lexicon.Phrases

/-!
Expanding words. In a consistent lexicon every form of a verb expands to the canonical form of its
entry, and every form of a direction does so unless it is a form of a verb as well, since verbs take
precedence (`canonicalWord_of_mem_forms`). Expanding again changes only the words that expand to a
direction whose canonical form is a form of another verb (`canonicalWord_canonicalWord_iff`).
-/
namespace TextAdventure

namespace Lexicon

variable (l : Lexicon)

/-! ### Canonical forms -/

/-- A text in normal form without spaces has no blank in it. -/
theorem solid_of_normal (t : Text) (normal : Text.normal t = t) (unspaced : ' ' ∉ t) :
    ∀ c ∈ t, Text.isBlank c = false := by
  have whole := Text.unwords_words_of_normal t normal
  cases cut : Text.words t with
  | nil =>
    rw [cut] at whole
    rw [← whole]
    exact List.forall_mem_nil _
  | cons w ws =>
    cases ws with
    | nil =>
      rw [cut] at whole
      rw [← whole]
      exact (Text.isWord_of_mem_words t w (cut ▸ List.mem_cons_self)).2
    | cons v vs =>
      refine absurd ?_ unspaced
      rw [← whole, cut, Text.unwords_cons, Text.afterWord_cons]
      exact List.mem_append_right w List.mem_cons_self

theorem hasSolidForms_of_defects (forms : l.HasNormalForms) (consistent : l.defects = []) :
    l.HasSolidForms := by
  simp only [defects, List.append_eq_nil_iff, List.map_eq_nil_iff, List.filter_eq_nil_iff]
    at consistent
  obtain ⟨⟨⟨-, unspaced⟩, -⟩, -⟩ := consistent
  intro e member
  refine solid_of_normal e.canonical (forms e member _ ((e.mem_forms _).mpr (.inl rfl))) ?_
  simpa using unspaced e member

/-- The canonical form of an entry is looked up as itself. -/
theorem canonicalIn_canonical (es : List Entry) (e : Entry) (member : e ∈ es) :
    canonicalIn es e.canonical = some e.canonical := by
  cases first : es.find? fun e' => e'.canonical == e.canonical with
  | none => exact absurd (beq_self_eq_true _) (List.find?_eq_none.mp first e member)
  | some e' =>
    have same := List.find?_some first
    rw [beq_iff_eq] at same
    rw [canonicalIn, first, Option.some_or, Option.map_some, same]

/-- What a word is looked up as is looked up as itself. -/
theorem bind_canonicalIn_self (es : List Entry)
    (normal : ∀ e ∈ es, Text.normal e.canonical = e.canonical) (w v : Text)
    (found : (canonicalIn es w).bind Text.nonempty? = some v) :
    (canonicalIn es (Text.normal v)).bind Text.nonempty? = some v := by
  obtain ⟨nonempty, e, member, rfl⟩ := mem_of_nonempty es w v found
  rw [normal e member, canonicalIn_canonical es e member]
  exact (nonempty?_eq_some _ _).mpr ⟨nonempty, rfl⟩

/-- If entries agree, a form in normal form is looked up as the canonical form of its entry. -/
theorem bind_canonicalIn_of_mem_forms (es : List Entry) (agree : es.Pairwise Entry.Agree)
    (e : Entry) (member : e ∈ es) (named : e.canonical ≠ []) (f : Text) (form : f ∈ e.forms)
    (normal : Text.normal f = f) :
    (canonicalIn es (Text.normal f)).bind Text.nonempty? = some e.canonical := by
  rw [normal, canonicalIn_of_mem_forms es agree e member f form]
  exact (nonempty?_eq_some _ _).mpr ⟨named, rfl⟩

theorem canonicalWord_of_mem_forms (forms : l.HasNormalForms) (consistent : l.defects = []) :
    (∀ e ∈ l.verbs, e.canonical ≠ [] → ∀ f ∈ e.forms, l.canonicalWord f = e.canonical) ∧
    ∀ e ∈ l.directions, e.canonical ≠ [] → ∀ f ∈ e.forms,
      l.canonicalWord f = (l.verb? f).getD e.canonical := by
  obtain ⟨verbs, directions⟩ := l.agree_of_defects consistent
  constructor
  · intro e member named f form
    have normal := forms e (List.mem_append_left _ member) f form
    have verb : l.verb? f = some e.canonical :=
      bind_canonicalIn_of_mem_forms l.verbs verbs e member named f form normal
    rw [canonicalWord, verb, Option.some_or, Option.getD_some]
  · intro e member named f form
    have normal := forms e (List.mem_append_right _ member) f form
    have direction : l.direction? f = some e.canonical :=
      bind_canonicalIn_of_mem_forms l.directions directions e member named f form normal
    rw [canonicalWord, direction]
    cases l.verb? f <;> rfl

/-! ### Expanding again -/

/-- Whether the direction that the word expands to, if any, is a form of no other verb. -/
def IsSettled (w : Text) : Prop :=
  l.verb? w = none → ∀ d ∈ l.direction? w, ∀ u ∈ l.verb? d, u = d

theorem canonicalWord_canonicalWord_iff (forms : l.HasNormalForms) (w : Text) :
    l.canonicalWord (l.canonicalWord w) = l.canonicalWord w ↔ l.IsSettled w := by
  have normal : ∀ e ∈ l.verbs ++ l.directions, Text.normal e.canonical = e.canonical :=
    fun e member => forms e member _ ((e.mem_forms _).mpr (.inl rfl))
  obtain ⟨verbs, directions⟩ := List.forall_mem_append.mp normal
  unfold IsSettled
  cases verb : l.verb? w with
  | some v =>
    have again : l.verb? v = some v := bind_canonicalIn_self l.verbs verbs _ v verb
    simp [canonicalWord, verb, again]
  | none =>
    cases direction : l.direction? w with
    | none =>
      -- the word stays as it is, and its normal form is looked up like itself
      have kept : l.canonicalWord w = Text.normal w := by simp [canonicalWord, verb, direction]
      have same : l.canonicalWord (Text.normal w) = l.canonicalWord w := by
        simp [canonicalWord, verb?, direction?, canonicalVerb, canonicalDirection,
          Text.normal_normal]
      simp [kept, same]
    | some d =>
      -- the direction is expanded to itself unless a verb takes precedence
      have again : l.direction? d = some d :=
        bind_canonicalIn_self l.directions directions _ d direction
      cases u : l.verb? d <;> simp [canonicalWord, verb, direction, again, u]

theorem expandWords_expandWords_iff (forms : l.HasNormalForms) (ws : List Text) :
    l.expandWords (l.expandWords ws) = l.expandWords ws ↔ ∀ w ∈ ws, l.IsSettled w := by
  rw [expandWords, expandWords, List.map_map, List.map_inj_left]
  exact forall₂_congr fun w _ => l.canonicalWord_canonicalWord_iff forms w

end Lexicon

/-! ### Interpreted lines -/

namespace Interpreter

variable (i : Interpreter)

/-- The words of the text that is told are the expanded words of the line, and if there are any, the
verb was looked for among them. -/
theorem words_text_of_interpret (solid : i.lexicon.HasSolidForms) (line : Text) (o : Outcome)
    (interpreted : i.interpret line = .ok o) :
    Text.words o.text = i.normalize line ∧
      (i.normalize line ≠ [] → i.lexicon.findVerb (i.normalize line) = .ok o.verb?) := by
  by_cases empty : i.normalize line = []
  · rw [i.interpret_of_nil line empty] at interpreted
    cases interpreted
    exact ⟨empty.symm, fun nonempty => absurd empty nonempty⟩
  · rw [i.interpret_of_ne_nil line empty] at interpreted
    obtain ⟨verb, found, rfl⟩ := (map_eq_ok _ _ _).mp interpreted
    rw [text_outcomeOf, verb?_outcomeOf]
    exact ⟨Text.words_unwords _ (i.isWord_of_mem_normalize solid line), fun _ => found⟩

/-- In a consistent lexicon the forms of one verb expand alike, and so do the forms of one direction
that are no forms of verbs. Expanding again changes no words exactly if none of them expands to a
direction that is a form of another verb; and the words in which a verb is looked for and which the
reply is about are those that were expanded once. -/
theorem expansion_of_consistent (v : Vocabulary) (l : Lexicon) (tables : l = .ofVocabulary v)
    (consistent : l.defects = []) :
    (∀ e ∈ l.verbs, e.canonical ≠ [] → ∀ f ∈ e.forms, l.canonicalWord f = e.canonical) ∧
    (∀ e ∈ l.directions, e.canonical ≠ [] → ∀ f ∈ e.forms,
      l.canonicalWord f = (l.verb? f).getD e.canonical) ∧
    (∀ ws, l.expandWords (l.expandWords ws) = l.expandWords ws ↔ ∀ w ∈ ws, l.IsSettled w) ∧
    ∀ i : Interpreter, i.lexicon = l → ∀ line o, i.interpret line = .ok o →
      Text.words o.text = i.normalize line ∧
      (i.normalize line ≠ [] → l.findVerb (i.normalize line) = .ok o.verb?) ∧
      (l.expandWords (Text.words o.text) = Text.words o.text ↔
        ∀ w ∈ i.surfaceWords line, l.IsSettled w) := by
  have forms : l.HasNormalForms := tables ▸ Lexicon.hasNormalForms_ofVocabulary v
  obtain ⟨verbs, directions⟩ := l.canonicalWord_of_mem_forms forms consistent
  refine ⟨verbs, directions, l.expandWords_expandWords_iff forms, ?_⟩
  rintro i rfl line o interpreted
  obtain ⟨words, verb⟩ := i.words_text_of_interpret
    (i.lexicon.hasSolidForms_of_defects forms consistent) line o interpreted
  refine ⟨words, verb, ?_⟩
  rw [words]
  exact i.lexicon.expandWords_expandWords_iff forms (i.surfaceWords line)

end Interpreter

/-- An interpreter without rules, in whose lexicon one goes in two directions and `s` is a nod as
well as the south. -/
def walker : Interpreter :=
  .ofRulebook
    (.ofVocabulary
      { verbs := .ofPairs
          [("go".toList, ["walk".toList, "head".toList]), ("nod".toList, ["s".toList])]
        directions := .ofPairs [("north".toList, ["n".toList]), ("south".toList, ["s".toList])] })
    ⟨[], none⟩ true

/-- The words of `Walk N` stay as they are once they are expanded. -/
theorem walker_expansion :
    walker.lexicon.defects = [] ∧
      walker.lexicon.canonicalWord "walk".toList = walker.lexicon.canonicalWord "head".toList ∧
      walker.lexicon.canonicalWord "n".toList = walker.lexicon.canonicalWord "north".toList ∧
      ∃ o, walker.interpret "Walk N".toList = .ok o ∧
        Text.words o.text = ["go".toList, "north".toList] ∧
        walker.lexicon.expandWords (Text.words o.text) = Text.words o.text := by
  have consistent : walker.lexicon.defects = [] := by decide +kernel
  obtain ⟨verbs, directions, -, told⟩ :=
    Interpreter.expansion_of_consistent _ walker.lexicon rfl consistent
  have going := verbs ⟨"go".toList, .ofList ["walk".toList, "head".toList]⟩ (by decide +kernel)
    (by decide)
  have heading := directions ⟨"north".toList, .ofList ["n".toList]⟩ (by decide +kernel) (by decide)
  have interpreted : walker.interpret "Walk N".toList =
      .ok (.refused .verbRecognizedNoPatternMatch (some "go".toList) "go north".toList) := by
    decide +kernel
  obtain ⟨-, -, again⟩ := told walker rfl _ _ interpreted
  have settled : ∀ w ∈ walker.surfaceWords "Walk N".toList, walker.lexicon.IsSettled w := by
    unfold Lexicon.IsSettled
    decide +kernel
  refine ⟨consistent, ?_, ?_, _, interpreted, by decide, again.mpr settled⟩
  · exact (going _ (by decide +kernel)).trans (going _ (by decide +kernel)).symm
  · rw [heading _ (by decide +kernel), heading _ (by decide +kernel)]
    decide +kernel

/-- A lexicon in which one nods by saying `north`. -/
def nodder : Interpreter :=
  .ofRulebook
    (.ofVocabulary
      { verbs := .ofPairs [("nod".toList, ["north".toList])]
        directions := .ofPairs [("north".toList, ["n".toList])] })
    ⟨[], none⟩ true

/-- The two spellings of the direction expand to different words, and the first expansion of `n` is
expanded again to another word, though the lexicon has no defect. -/
theorem nodder_expands_again :
    nodder.lexicon.defects = [] ∧
      (∃ e ∈ nodder.lexicon.directions, e.canonical ≠ [] ∧ "n".toList ∈ e.forms ∧
        "north".toList ∈ e.forms) ∧
      nodder.lexicon.canonicalWord "n".toList ≠ nodder.lexicon.canonicalWord "north".toList ∧
      nodder.lexicon.expandWords (nodder.lexicon.expandWords ["n".toList]) ≠
        nodder.lexicon.expandWords ["n".toList] := by
  decide +kernel

end TextAdventure
