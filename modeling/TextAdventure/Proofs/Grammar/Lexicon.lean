import TextAdventure.Grammar.File
import TextAdventure.Proofs.Grammar.WellFormed
import TextAdventure.Proofs.Lexicon.Phrases
import TextAdventure.Proofs.Rulebook.Binding

/-!
The lexicon of a grammar that was read. A canonical form is written in front of a colon and ends
before the first blank, so the lexicon's canonical forms have no blank in them. A phrase is written
on the rest of a line or has a space inside, so there is a word in every phrase. Every interpreter
that can be loaded, the built-in one included, has the lexicon of such a grammar
(`exists_document_of_loaded`).
-/
namespace TextAdventure.Grammar

open Text (IsWord)

theorem isWord_of_mem_entriesOf (t : Table (List Text)) (keys : ∀ e ∈ t.entries, IsWord e.1) :
    ∀ e ∈ Lexicon.entriesOf t, IsWord e.canonical := by
  intro e member
  obtain ⟨entry, source, rfl⟩ := List.mem_map.mp member
  have word : IsWord entry.1 := keys entry source
  change IsWord (Text.normal entry.1)
  rw [Text.normal_of_isWord entry.1 word]
  exact Text.isWord_casefold entry.1 word

/-- The lexicon of every grammar that can be read has solid canonical forms. -/
theorem hasSolidForms_of_parse (t : Text) (d : Document) (parsed : parse t = .ok d) :
    d.lexicon.HasSolidForms := by
  have wellFormed := wellFormed_of_parse t d parsed
  have verbs := isWord_of_mem_entriesOf d.verbs fun e member =>
    (wellFormed.verbs e member).1.isWord isFormChar e.1 isBlank_of_isFormChar
  have directions := isWord_of_mem_entriesOf d.directions fun e member =>
    (wellFormed.directions e member).1.isWord isFormChar e.1 isBlank_of_isFormChar
  exact List.forall_mem_append.mpr
    ⟨fun e member => (verbs e member).2, fun e member => (directions e member).2⟩

theorem isBound_of_interpreter (t : Text) (d : Document) (stripFillers strict : Bool)
    (i : Interpreter) (parsed : parse t = .ok d)
    (made : d.interpreter stripFillers strict = .ok i) :
    i.IsBound ∧ i.lexicon.HasSolidForms := by
  refine ⟨Interpreter.isBound_of_ofSources _ _ _ _ i made, ?_⟩
  obtain ⟨b, -, last⟩ := (bind_eq_ok _ _ _).mp made
  cases last
  exact hasSolidForms_of_parse t d parsed

theorem phrasesHaveWords_of_wellFormed (d : Document) (wellFormed : d.WellFormed) :
    d.lexicon.PhrasesHaveWords := by
  intro p listed
  have forms := Lexicon.hasNormalForms_ofVocabulary d.vocabulary
  have normal := d.lexicon.normal_of_mem_phrases forms p listed
  have nonempty : p ≠ [] := by
    rcases (d.lexicon.mem_phrases p).mp listed with multiWord | ⟨e, -, -, spaced⟩
    · obtain ⟨u, member, rfl⟩ := List.mem_map.mp multiWord
      obtain ⟨v, source, rfl⟩ := List.mem_map.mp member
      -- the phrase begins with something solid, so it has a first word
      obtain ⟨c, t, rfl, solid⟩ := (wellFormed.multiWordVerbs _ source).trimmed.head
      rw [Text.normal_normal]
      intro empty
      have words : (Text.words (c :: t)).map Text.casefold = [] := by
        rw [← Text.words_normal, empty]
        rfl
      have blank := Text.isBlank_of_words_eq_nil _ (List.map_eq_nil_iff.mp words) c
        List.mem_cons_self
      rw [solid] at blank
      cases blank
    · exact List.ne_nil_of_mem spaced
  rw [← normal] at nonempty ⊢
  exact Lexicon.words_normal_ne_nil p nonempty

theorem wellFormed_builtIn : builtIn.WellFormed := by
  unfold builtIn
  cases read : parse builtInText with
  | ok d => exact wellFormed_of_parse _ d read
  | error fault => exact Document.wellFormed_empty

theorem ofSources_nil (l : Lexicon) (stripFillers : Bool) :
    Interpreter.ofSources l [] stripFillers false = .ok ⟨l, ⟨[], some l⟩, stripFillers⟩ := rfl

theorem exists_sources_builtIn (stripFillers : Bool) :
    ∃ sources ⊆ builtIn.rules, Interpreter.ofSources builtIn.lexicon sources stripFillers false =
      .ok (.builtIn stripFillers) := by
  unfold Interpreter.builtIn
  cases made : builtIn.interpreter stripFillers false with
  | ok i => exact ⟨builtIn.rules, fun _ member => member, made⟩
  | error fault => exact ⟨[], List.nil_subset _, ofSources_nil _ stripFillers⟩

theorem wellFormed_of_loadDocument (files : Text → Option Text) (path : Text) (d : Document)
    (loaded : (loadDocument files path).result = .ok d) : d.WellFormed := by
  unfold loadDocument at loaded
  split at loaded
  · cases loaded
  next t _ =>
    split at loaded
    · cases loaded
    next parsed =>
      obtain rfl := Except.ok.inj loaded
      exact wellFormed_of_parse t _ parsed

theorem interpreter_of_load (d : Document) (stripFillers : Bool) (i : Interpreter)
    (loaded : (d.load stripFillers).result = .ok i) : d.interpreter stripFillers false = .ok i := by
  unfold Document.load at loaded
  split at loaded
  · cases loaded
  next made =>
    obtain rfl := Except.ok.inj loaded
    exact made

/-- An interpreter that was loaded is made of rules and the lexicon of one grammar. -/
theorem exists_document_of_loaded (files : Text → Option Text) (path : Option Text)
    (stripFillers : Bool) (i : Interpreter)
    (loaded : (loadInterpreter files path stripFillers).result = .ok i) :
    ∃ (d : Document) (sources : List RuleSource), d.WellFormed ∧ sources ⊆ d.rules ∧
      Interpreter.ofSources d.lexicon sources stripFillers false = .ok i := by
  unfold loadInterpreter at loaded
  cases named : path.bind Text.nonempty? with
  | none =>
    rw [named] at loaded
    obtain ⟨sources, within, made⟩ := exists_sources_builtIn stripFillers
    obtain rfl : Interpreter.builtIn stripFillers = i := Except.ok.inj loaded
    exact ⟨builtIn, sources, wellFormed_builtIn, within, made⟩
  | some p =>
    simp only [named] at loaded
    cases read : (loadDocument files p).result with
    | error fault =>
      rw [read] at loaded
      cases loaded
    | ok d =>
      rw [read] at loaded
      exact ⟨d, d.rules, wellFormed_of_loadDocument files p d read, fun _ member => member,
        interpreter_of_load d stripFillers i loaded⟩

theorem isBound_of_loaded (files : Text → Option Text) (path : Option Text) (stripFillers : Bool)
    (i : Interpreter) (loaded : (loadInterpreter files path stripFillers).result = .ok i) :
    i.IsBound ∧ i.lexicon.FormsHaveWords ∧ i.lexicon.PhrasesHaveWords := by
  obtain ⟨d, sources, wellFormed, -, made⟩ := exists_document_of_loaded _ _ _ i loaded
  have bound := Interpreter.isBound_of_ofSources _ _ _ _ i made
  obtain ⟨b, -, last⟩ := (bind_eq_ok _ _ _).mp made
  cases last
  exact ⟨bound, Lexicon.formsHaveWords_ofVocabulary d.vocabulary,
    phrasesHaveWords_of_wellFormed d wellFormed⟩

end TextAdventure.Grammar
