import TextAdventure.Proofs.Interpreter.Probing
import TextAdventure.Proofs.Rulebook.Phrases

/-!
Which phrases are whole, and for whom. A phrase is judged as it is spelled after expansion, so the
player's own words are whole where expansion leaves articles and prepositions what they are
(`whole_of_interpret`). And a rule is judged by one reading of the line only: a line is accepted if
and only if the first reading by some rule takes whole phrases (`interpret_first_readings`), even if
a later reading by the same rule would do.
-/
namespace TextAdventure

open Text (IsWord unwords)

/-! ### The player's own phrases -/

/-- Whether an article or preposition is still one when it is expanded. -/
structure Lexicon.KeepsRoles (l : Lexicon) (w : Text) : Prop where
  article : l.isArticle w = true → l.isArticle (l.canonicalWord w) = true
  preposition : l.isPreposition w = true → l.isPreposition (l.canonicalWord w) = true

instance (l : Lexicon) (w : Text) : Decidable (l.KeepsRoles w) :=
  decidable_of_iff
    ((l.isArticle w = true → l.isArticle (l.canonicalWord w) = true) ∧
      (l.isPreposition w = true → l.isPreposition (l.canonicalWord w) = true))
    ⟨fun ⟨article, preposition⟩ => ⟨article, preposition⟩,
      fun ⟨article, preposition⟩ => ⟨article, preposition⟩⟩

/-- Only the last word of a phrase decides, so only its roles must be kept. -/
theorem Lexicon.IsWholePhrase.of_expandWords (l : Lexicon) (solid : l.HasSolidForms)
    (phrase : Text) (whole : l.IsWholePhrase (unwords (l.expandWords (Text.words phrase))))
    (kept : ∀ w ∈ (Text.words phrase).getLast?, l.KeepsRoles w) : l.IsWholePhrase phrase := by
  have proper := l.isWord_of_mem_expandWords solid _ (Text.isWord_of_mem_words phrase)
  have cut := Text.words_unwords _ proper
  constructor
  · intro w single
    have roles := kept w (by simp [single])
    have expanded : l.expandWords [w] = [l.canonicalWord w] := rfl
    rw [single, expanded] at cut
    have noun := whole.lone (l.canonicalWord w) (by rw [single, expanded, cut])
    exact eq_false_of_ne_true fun article => by simp [roles.article article] at noun
  · intro w several stop
    have roles := kept w stop
    have stop' : (l.expandWords (Text.words phrase)).getLast? = some (l.canonicalWord w) := by
      rw [expandWords, List.getLast?_map, stop]
      rfl
    have noun := whole.last (l.canonicalWord w) (by rwa [cut, l.length_expandWords])
      (by rwa [cut])
    exact eq_false_of_ne_true fun article => by simp [roles.preposition article] at noun

namespace Interpreter

variable (i : Interpreter)

/-- What the player is told is whole once it is expanded. It is whole in the player's own words as
well, unless expansion takes a role from its last word. -/
theorem whole_of_interpret (bound : i.IsBound) (solid : i.lexicon.HasSolidForms) (line : Text)
    (o : Outcome) (interpreted : i.interpret line = .ok o) (matched : o.matched = true) :
    ∀ c ∈ o.captures,
      i.lexicon.IsWholePhrase (unwords (i.lexicon.expandWords (Text.words c.2))) ∧
        ((∀ w ∈ (Text.words c.2).getLast?, i.lexicon.KeepsRoles w) →
          i.lexicon.IsWholePhrase c.2) := by
  obtain ⟨f, verb, found, rfl⟩ := i.interpret_accepted line o interpreted matched
  have proper := i.isWord_of_mem_normalize solid line
  obtain ⟨ranges, valid, spans, captures⟩ := i.decide?_ranges bound solid _ proper f found
  have told := i.captures_outcomeOf line verb f ranges solid valid spans
  -- the rule captured what the player is told, expanded word by word
  have expanded := phrasesOf_expandWords (i.surfaceWords line) ranges i.lexicon
    (i.isWord_of_mem_surfaceWords line)
  obtain ⟨-, -, -, accepted⟩ := i.rulebook.find?_spec _ _ f found
  have whole := (acceptable_iff i.lexicon f).mp accepted
  intro c member
  have captured : (c.1, unwords (i.lexicon.expandWords (Text.words c.2))) ∈ f.captures := by
    rw [captures]
    rw [told] at member
    exact expanded ▸ List.mem_map_of_mem member
  exact ⟨whole _ captured, .of_expandWords i.lexicon solid c.2 (whole _ captured)⟩

end Interpreter

/-- A lexicon in which `into` is a preposition and a direction that is spelled `in`. -/
def porterLexicon : Lexicon :=
  .ofVocabulary
    { verbs := .ofPairs [("give".toList, ["hand".toList]), ("put".toList, [])]
      directions := .ofPairs [("in".toList, ["into".toList])]
      articles := ["the".toList]
      prepositions := ["to".toList, "into".toList] }

def porterSources : List RuleSource :=
  [⟨"put <item>".toList, "PUT".toList⟩, ⟨"give <item> [to] <character>".toList, "GIVE".toList⟩]

theorem porter_whole :
    ∃ i, Interpreter.ofSources porterLexicon porterSources true false = .ok i ∧
      i.IsBound ∧ i.lexicon.HasSolidForms ∧
      ∃ o, i.interpret "Put the lamp".toList = .ok o ∧ o.matched = true ∧
        o.captures = [("item".toList, "the lamp".toList)] ∧
        i.lexicon.KeepsRoles "lamp".toList ∧ i.lexicon.IsWholePhrase "the lamp".toList := by
  have facts : (Interpreter.ofSources porterLexicon porterSources true false).map (fun i =>
      (decide i.lexicon.HasSolidForms, i.interpret "Put the lamp".toList,
        decide (i.lexicon.KeepsRoles "lamp".toList))) =
      .ok (true, .ok (.accepted "PUT".toList [("item".toList, "the lamp".toList)]
        (some "put".toList) "put the lamp".toList), true) := by decide +kernel
  obtain ⟨i, made, same⟩ := (map_eq_ok _ _ _).mp facts
  obtain ⟨solid, interpreted, roles⟩ : _ ∧ _ ∧ _ := by
    simpa only [Prod.mk.injEq, decide_eq_true_eq] using same
  have bound := Interpreter.isBound_of_ofSources _ _ _ _ i made
  obtain ⟨-, whole⟩ := i.whole_of_interpret bound solid _ _ interpreted rfl
    ("item".toList, "the lamp".toList) (List.mem_singleton_self _)
  refine ⟨i, made, bound, solid, _, interpreted, rfl, rfl, roles, whole fun w last => ?_⟩
  obtain rfl : "lamp".toList = w := Option.some.inj last
  exact roles

/-- The preposition at the end is spelled as a direction before it is looked at, so the player is
told a phrase that is not whole. -/
theorem porter_not_whole :
    ∃ i, Interpreter.ofSources porterLexicon porterSources true false = .ok i ∧
      i.IsBound ∧ i.lexicon.HasSolidForms ∧
      ∃ o, i.interpret "put the lamp into".toList = .ok o ∧ o.matched = true ∧
        ¬∀ c ∈ o.captures, i.lexicon.IsWholePhrase c.2 := by
  have facts : (Interpreter.ofSources porterLexicon porterSources true false).map (fun i =>
      (decide i.lexicon.HasSolidForms, i.interpret "put the lamp into".toList,
        decide (i.lexicon.IsWholePhrase "the lamp into".toList))) =
      .ok (true, .ok (.accepted "PUT".toList [("item".toList, "the lamp into".toList)]
        (some "put".toList) "put the lamp in".toList), false) := by decide +kernel
  obtain ⟨i, made, same⟩ := (map_eq_ok _ _ _).mp facts
  obtain ⟨solid, interpreted, partly⟩ : _ ∧ _ ∧ _ := by
    simpa only [Prod.mk.injEq, decide_eq_true_eq, decide_eq_false_iff_not] using same
  have bound := Interpreter.isBound_of_ofSources _ _ _ _ i made
  exact ⟨i, made, bound, solid, _, interpreted, rfl,
    fun whole => partly (whole _ (List.mem_singleton_self _))⟩

/-! ### Readings that take whole phrases -/

/-- Whether the words can be divided so among the elements that every capture is a whole phrase. -/
structure Pattern.IsCompleteReading (p : Pattern) (l : Lexicon) (ws : List Text)
    (shares : List (List Text)) : Prop where
  isReading : p.IsReading l.canonicalWord ws shares
  whole : ∀ (n : Nat) (name : Text) (share : List Text), p.elements[n]? = some (.capture name) →
    shares[n]? = some share → l.IsWholePhrase (unwords share)

theorem forall_capturedPhrases_iff (P : Text → Prop) (es : List Element)
    (shares : List (List Text)) :
    (∀ c ∈ capturedPhrases es shares, P c.2) ↔
      ∀ (n : Nat) (name : Text) (share : List Text), es[n]? = some (.capture name) →
        shares[n]? = some share → P (unwords share) := by
  constructor
  · intro all n name share atElement atShare
    have place : (es.zip shares)[n]? = some (.capture name, share) :=
      List.getElem?_zip_eq_some.mpr ⟨atElement, atShare⟩
    exact all _ (List.mem_filterMap.mpr ⟨_, List.mem_of_getElem? place, rfl⟩)
  · intro all c member
    obtain ⟨⟨e, share⟩, pair, named⟩ := List.mem_filterMap.mp member
    obtain ⟨n, place⟩ := List.mem_iff_getElem?.mp pair
    obtain ⟨atElement, atShare⟩ := List.getElem?_zip_eq_some.mp place
    cases e with
    | capture name =>
      cases named
      exact all n name share atElement atShare
    | _ => cases named

/-- A rule captures whole phrases if and only if its first reading is complete. -/
theorem Rule.captures_whole_iff (l : Lexicon) (r : Rule)
    (bound : r.regex = r.pattern.regex l.canonicalWord)
    (spelled : SpelledAsWords l.canonicalWord r.pattern.elements) (ws : List Text)
    (proper : ∀ w ∈ ws, IsWord w) :
    (∃ captures, r.captures? (unwords ws) = some captures ∧
        ∀ c ∈ captures, l.IsWholePhrase c.2) ↔
      ∃ shares, r.pattern.IsFirstReading l.canonicalWord ws shares ∧
        r.pattern.IsCompleteReading l ws shares := by
  rw [r.captures?_eq_readings l.canonicalWord bound spelled ws proper]
  constructor
  · rintro ⟨captures, shown, whole⟩
    obtain ⟨shares, listed, rfl⟩ := Option.map_eq_some_iff.mp shown
    have first := (r.pattern.head?_readings _ ws shares).mp listed
    exact ⟨shares, first, first.isReading, (forall_capturedPhrases_iff _ _ _).mp whole⟩
  · rintro ⟨shares, first, complete⟩
    have listed := (r.pattern.head?_readings _ ws shares).mpr first
    exact ⟨_, congrArg _ listed, (forall_capturedPhrases_iff _ _ _).mpr complete.whole⟩

namespace Interpreter

variable (i : Interpreter)

/-- Every line is interpreted, and it is accepted if and only if the first reading of its expanded
words by some rule is complete. -/
theorem interpret_first_readings (bound : i.IsBound) (solid : i.lexicon.HasSolidForms)
    (line : Text) :
    ∃ o, i.interpret line = .ok o ∧
      (o.matched = true ↔ ∃ r ∈ i.rulebook.rules, ∃ shares,
        r.pattern.IsFirstReading i.lexicon.canonicalWord (i.normalize line) shares ∧
          r.pattern.IsCompleteReading i.lexicon (i.normalize line) shares) := by
  have proper := i.isWord_of_mem_normalize solid line
  obtain ⟨o, interpreted⟩ :=
    i.interpret_total (i.lexicon.formsHaveWords_of_hasSolidForms solid) line
  obtain ⟨matched, -⟩ := i.decide?_of_interpret bound line o interpreted
  refine ⟨o, interpreted, ?_⟩
  rw [matched, decide?, i.rulebook.isSome_find?_iff, i.rulebook.exists_isComplete_iff]
  refine exists_congr fun r => and_congr_right fun member => ?_
  have regex := ((Rule.compile_eq_ok _ _ _).mp (bound.compiled r member)).2.2
  exact r.captures_whole_iff i.lexicon regex (bound.spelledAsWords _ _ solid r member) _ proper

end Interpreter

/-- The preposition leaves the item no choice. -/
theorem porter_first_readings :
    ∃ i, Interpreter.ofSources porterLexicon porterSources true false = .ok i ∧
      i.IsBound ∧ i.lexicon.HasSolidForms ∧
      i.normalize "Hand the sword to Bob".toList =
        ["give", "the", "sword", "to", "bob"].map String.toList ∧
      ∃ o, i.interpret "Hand the sword to Bob".toList = .ok o ∧ o.matched = true := by
  have facts : (Interpreter.ofSources porterLexicon porterSources true false).map (fun i =>
      (decide i.lexicon.HasSolidForms, i.normalize "Hand the sword to Bob".toList,
        decide (∃ r ∈ i.rulebook.rules,
          (readings i.lexicon.canonicalWord [] r.pattern.elements
            (i.normalize "Hand the sword to Bob".toList)).head? =
              some ([["give"], ["the", "sword"], ["to"], ["bob"]].map (List.map String.toList)) ∧
          ∀ c ∈ capturedPhrases r.pattern.elements
            ([["give"], ["the", "sword"], ["to"], ["bob"]].map (List.map String.toList)),
              i.lexicon.IsWholePhrase c.2))) =
      .ok (true, ["give", "the", "sword", "to", "bob"].map String.toList, true) := by
    decide +kernel
  obtain ⟨i, made, same⟩ := (map_eq_ok _ _ _).mp facts
  obtain ⟨solid, words, r, member, listed, whole⟩ : _ ∧ _ ∧ _ := by
    simpa only [Prod.mk.injEq, decide_eq_true_eq] using same
  have bound := Interpreter.isBound_of_ofSources _ _ _ _ i made
  obtain ⟨o, interpreted, accepted⟩ :=
    i.interpret_first_readings bound solid "Hand the sword to Bob".toList
  have first := (r.pattern.head?_readings _ _ _).mp listed
  refine ⟨i, made, bound, solid, words, o, interpreted, accepted.mpr ⟨r, member, _, first, ?_⟩⟩
  exact ⟨first.isReading, (forall_capturedPhrases_iff _ _ _).mp whole⟩

/-- The first reading stops the item at the article, and the line is refused although the item could
have been `the sword`. -/
theorem porter_refuses_complete :
    ∃ i, Interpreter.ofSources porterLexicon porterSources true false = .ok i ∧
      i.IsBound ∧ i.lexicon.HasSolidForms ∧
      (∃ r ∈ i.rulebook.rules, ∃ shares, r.pattern.IsCompleteReading i.lexicon
        (i.normalize "give the sword Bob".toList) shares) ∧
      ∃ o, i.interpret "give the sword Bob".toList = .ok o ∧ o.matched = false := by
  have facts : (Interpreter.ofSources porterLexicon porterSources true false).map (fun i =>
      (decide i.lexicon.HasSolidForms, i.interpret "give the sword Bob".toList,
        decide (∃ r ∈ i.rulebook.rules,
          [["give"], ["the", "sword"], [], ["bob"]].map (List.map String.toList) ∈
            readings i.lexicon.canonicalWord [] r.pattern.elements
              (i.normalize "give the sword Bob".toList) ∧
          ∀ c ∈ capturedPhrases r.pattern.elements
            ([["give"], ["the", "sword"], [], ["bob"]].map (List.map String.toList)),
              i.lexicon.IsWholePhrase c.2))) =
      .ok (true, .ok (.refused .verbRecognizedNoPatternMatch (some "give".toList)
        "give the sword bob".toList), true) := by decide +kernel
  obtain ⟨i, made, same⟩ := (map_eq_ok _ _ _).mp facts
  obtain ⟨solid, refused, r, member, listed, whole⟩ : _ ∧ _ ∧ _ := by
    simpa only [Prod.mk.injEq, decide_eq_true_eq] using same
  have bound := Interpreter.isBound_of_ofSources _ _ _ _ i made
  have reading := (r.pattern.mem_readings _ _ _).mp listed
  have complete := (forall_capturedPhrases_iff _ _ _).mp whole
  exact ⟨i, made, bound, solid, ⟨r, member, _, reading, complete⟩, _, refused, rfl⟩

end TextAdventure
