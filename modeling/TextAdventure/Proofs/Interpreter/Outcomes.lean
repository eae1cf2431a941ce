import TextAdventure.Proofs.Interpreter.Expansion
import TextAdventure.Proofs.Interpreter.Probing
import TextAdventure.Proofs.Interpreter.Totality
import TextAdventure.Proofs.Lexicon.LongestPhrase

/-!
Outcomes are consistent (`interpret_consistent`). The fields of an outcome come from different views
of a line: the captures from the player's words, the verb from the expanded words, the action from
their text. They agree all the same. Expansion keeps a verb a verb, so a verb that the player names
is found, under whatever name; and a phrase that is found has a word, so what is found is never
empty. The expanded words are in normal form, so no space of their text stands at an end or next to
another.
-/
namespace TextAdventure

open Text (afterWord unwords)

/-! ### Single spaces -/

namespace Text

/-- Whether no space stands at an end or next to another. -/
structure IsSingleSpaced (t : Text) : Prop where
  front : t.head? ≠ some ' '
  back : t.getLast? ≠ some ' '
  inside : ¬[' ', ' '] <:+: t

theorem isSingleSpaced_of_padded (t : Text) (apart : ¬[' ', ' '] <:+: ' ' :: t ++ [' ']) :
    IsSingleSpaced t := by
  -- a space at an end would stand next to the one that is put there
  refine ⟨fun first => apart ?_, fun last => apart ?_, fun inside => apart ?_⟩
  · obtain ⟨rest, rfl⟩ := List.head?_eq_some_iff.mp first
    exact ⟨[], rest ++ [' '], rfl⟩
  · obtain ⟨front, rfl⟩ := List.getLast?_eq_some_iff.mp last
    exact ⟨' ' :: front, [], by simp⟩
  · obtain ⟨front, behind, rfl⟩ := inside
    exact ⟨' ' :: front, behind ++ [' '], by simp⟩

end Text

namespace Lexicon

theorem isSingleSpaced_unwords (ws : List Text) (normal : ∀ w ∈ ws, Text.normal w = w)
    (worded : ∀ w ∈ ws, Text.words w ≠ []) : Text.IsSingleSpaced (unwords ws) := by
  by_cases empty : ws = []
  · subst empty
    exact ⟨nofun, nofun, fun inside => by simp at inside⟩
  · apply Text.isSingleSpaced_of_padded
    -- with spaces around them the words are one row of tokens, none of which is empty
    have row : ' ' :: unwords ws = afterWord (tokens ws) := by
      rw [Text.space_cons_unwords ws empty, ← afterWord_map_normal ws worded,
        List.map_congr_left normal, List.map_id']
    rw [row]
    have proper := isWord_of_mem_tokens ws
    exact fun inside =>
      ((Text.padded_infix_iff (tokens ws) proper []).mp inside).ne_nil proper rfl

/-! ### The verb of a line -/

variable (l : Lexicon)

theorem verb?_ne_nil (w v : Text) (verb : l.verb? w = some v) : v ≠ [] :=
  (mem_of_nonempty l.verbs _ v verb).1

theorem verbNamed_ne_nil (p : Text) (nonempty : p ≠ []) : l.verbNamed p ≠ [] := by
  unfold verbNamed
  cases named : (l.verb? p).or ((Text.words p).head?.bind l.verb?) with
  | none => exact nonempty
  | some v =>
    rcases Option.or_eq_some_iff.mp named with whole | ⟨-, first⟩
    · exact l.verb?_ne_nil p v whole
    · obtain ⟨w, -, verb⟩ := Option.bind_eq_some_iff.mp first
      exact l.verb?_ne_nil w v verb

/-- A verb stays a verb when it is expanded, whatever else the tables say of it. -/
theorem verb?_canonicalWord (forms : l.HasNormalForms) (w v : Text) (verb : l.verb? w = some v) :
    l.verb? (l.canonicalWord w) = some v := by
  rw [canonicalWord, verb, Option.some_or, Option.getD_some]
  refine bind_canonicalIn_self l.verbs (fun e member => ?_) _ v verb
  exact forms e (List.mem_append_left _ member) _ ((e.mem_forms _).mpr (.inl rfl))

section

variable (ws : List Text) (verb : Option Text) (found : l.findVerb ws = .ok verb)

include found

/-- A verb comes of a phrase among the words, or else of the first word that has one. -/
theorem findVerb_cases :
    (∃ p v, l.phraseIn? ws = some p ∧ l.verbOfPhrase p = .ok v ∧ verb = some v) ∨
      l.phraseIn? ws = none ∧ verb = ws.findSome? l.verb? := by
  unfold findVerb at found
  cases phrase : l.phraseIn? ws with
  | some p =>
    rw [phrase] at found
    obtain ⟨v, named, rfl⟩ := (map_eq_ok _ _ _).mp found
    exact .inl ⟨p, v, rfl, named, rfl⟩
  | none =>
    rw [phrase] at found
    exact .inr ⟨rfl, (Except.ok.inj found).symm⟩

/-- A verb is found where one of the words is a verb: itself or another in front of it. -/
theorem findVerb_ne_none (w : Text) (member : w ∈ ws) (named : (l.verb? w).isSome = true) :
    verb ≠ none := by
  rcases l.findVerb_cases ws verb found with ⟨p, v, -, -, rfl⟩ | ⟨-, rfl⟩
  · exact Option.some_ne_none v
  · rw [← Option.isSome_iff_ne_none]
    exact List.findSome?_isSome_iff.mpr ⟨w, member, named⟩

theorem findVerb_ne_nil (worded : ∀ w ∈ ws, Text.words w ≠ []) (nonempty : ws ≠ []) :
    verb ≠ some [] := by
  rcases l.findVerb_cases ws verb found with ⟨p, v, phrase, named, rfl⟩ | ⟨-, rfl⟩
  · -- the phrase is some of the words, so it is not blank, and nor is what it names
    have longest := l.isLongestPhrase_of_phraseIn? ws worded (fun _ _ => .inl nonempty) p phrase
    have proper := isWord_of_mem_tokens ws
    rw [l.verbOfPhrase_eq p (longest.standsIn.words_ne_nil proper)] at named
    obtain rfl := Except.ok.inj named
    intro empty
    exact l.verbNamed_ne_nil p (longest.standsIn.ne_nil proper) (Option.some.inj empty)
  · intro empty
    obtain ⟨w, -, verb⟩ := List.exists_of_findSome?_eq_some empty
    exact l.verb?_ne_nil w [] verb rfl

end

end Lexicon

/-! ### Interpreted lines -/

namespace Interpreter

variable (i : Interpreter) (line : Text)

/-- Whether an outcome of the line agrees with itself and with what the line says. -/
structure IsConsistent (o : Outcome) : Prop where
  text_eq : o.text = unwords (i.normalize line)
  spaced : Text.IsSingleSpaced o.text
  accepted : o.matched = true →
    o.hint? = none ∧ (∃ r ∈ i.rulebook.rules, o.action? = some r.action) ∧
      ∀ d, i.explain? o d = none
  refused : o.matched = false →
    o.action? = none ∧ o.captures = [] ∧ (∀ d, ∃ reply, i.explain? o d = some reply) ∧
      (o.hint? = some .noVerbRecognized ↔ o.verb? = none)
  verb_ne_nil : o.verb? ≠ some []
  verb_of_word : ∀ w ∈ i.surfaceWords line, ∀ v, i.lexicon.canonicalVerb w = some v → v ≠ [] →
    o.verb? ≠ none

theorem normal_of_mem_normalize (forms : i.lexicon.HasNormalForms) :
    ∀ w ∈ i.normalize line, Text.normal w = w := by
  intro v member
  obtain ⟨w, -, rfl⟩ := List.mem_map.mp member
  exact i.lexicon.normal_canonicalWord forms w

theorem exists_explain?_refused (hint : Hint) (verb : Option Text) (text : Text) (d : Details) :
    ∃ reply, i.explain? (.refused hint verb text) d = some reply := by
  obtain ⟨reply, told, -⟩ := i.lexicon.explain?_refused hint verb text d
  exact ⟨reply, told⟩

theorem isConsistent_of_nil (empty : i.normalize line = []) :
    i.IsConsistent line (.refused .noVerbRecognized none []) where
  text_eq := by rw [empty]; rfl
  spaced := Lexicon.isSingleSpaced_unwords [] (List.forall_mem_nil _) (List.forall_mem_nil _)
  accepted := nofun
  refused _ := ⟨rfl, rfl, i.exists_explain?_refused _ _ _, iff_of_true rfl rfl⟩
  verb_ne_nil := nofun
  verb_of_word := by
    intro w member
    rw [List.map_eq_nil_iff.mp empty] at member
    cases member

theorem isConsistent_outcomeOf (verb : Option Text) (d : Option Found)
    (decided : i.decide? (unwords (i.normalize line)) = d)
    (spaced : Text.IsSingleSpaced (unwords (i.normalize line))) (named : verb ≠ some [])
    (found : ∀ w ∈ i.surfaceWords line, ∀ v, i.lexicon.canonicalVerb w = some v → v ≠ [] →
      verb ≠ none) :
    i.IsConsistent line (i.outcomeOf line verb d) where
  text_eq := i.text_outcomeOf line verb d
  spaced := (i.text_outcomeOf line verb d).symm ▸ spaced
  accepted := by
    cases d with
    | none => exact nofun
    | some f =>
      obtain ⟨member, -⟩ := Rulebook.find?_spec _ _ _ f decided
      exact fun _ => ⟨rfl, ⟨f.rule, member, rfl⟩, fun _ => rfl⟩
  refused := by
    cases d with
    | some f => exact nofun
    | none =>
      refine fun _ => ⟨rfl, rfl, i.exists_explain?_refused _ _ _, ?_⟩
      cases verb <;> simp
  verb_ne_nil := (i.verb?_outcomeOf line verb d).symm ▸ named
  verb_of_word := (i.verb?_outcomeOf line verb d).symm ▸ found

/-- Every line has an outcome, and it is consistent: its text is single-spaced; it has an action of
a rule and no hint and no reply if it is accepted, and otherwise a reply and neither action nor
captures, and the hint says whether there is a verb; the verb is never empty, and there is one if
the player names one. -/
theorem interpret_consistent (v : Vocabulary) (tables : i.lexicon = .ofVocabulary v)
    (raw : Option Text) :
    ∃ o, i.interpret (raw.getD []) = .ok o ∧ i.IsConsistent (raw.getD []) o := by
  generalize raw.getD [] = line
  have forms : i.lexicon.HasNormalForms := tables ▸ Lexicon.hasNormalForms_ofVocabulary v
  have named : i.lexicon.FormsHaveWords := tables ▸ Lexicon.formsHaveWords_ofVocabulary v
  have worded := i.words_ne_nil_of_mem_normalize line named
  by_cases empty : i.normalize line = []
  · exact ⟨_, i.interpret_of_nil line empty, i.isConsistent_of_nil line empty⟩
  · obtain ⟨verb, found⟩ := i.lexicon.findVerb_of_words _ worded empty
    refine ⟨i.outcomeOf line verb _, by rw [i.interpret_of_ne_nil line empty, found, Except.map],
      i.isConsistent_outcomeOf line verb _ rfl ?_ ?_ fun w member u canonical nonempty => ?_⟩
    · exact Lexicon.isSingleSpaced_unwords _ (i.normal_of_mem_normalize line forms) worded
    · exact i.lexicon.findVerb_ne_nil _ verb found worded empty
    · -- the word that names a verb is expanded to that verb, which is looked for in its place
      have surface : i.lexicon.verb? w = some u := by
        rw [Lexicon.verb?, canonical]
        exact (Lexicon.nonempty?_eq_some u u).mpr ⟨nonempty, rfl⟩
      refine i.lexicon.findVerb_ne_none _ verb found _ (List.mem_map_of_mem member) ?_
      rw [i.lexicon.verb?_canonicalWord forms w u surface]
      rfl

end Interpreter

/-- The first form of `x` is empty, so only `get` names a verb in the first line. In the second one
the verb is the last word of what is given away. -/
theorem tangled_consistent :
    (∃ o, tangled.interpret " GET  x n".toList = .ok o ∧
      tangled.IsConsistent " GET  x n".toList o ∧ o.matched = false ∧
      o.text = "take x n".toList ∧ o.verb? ≠ none) ∧
    ∃ o, tangled.interpret "Give the  sword to get".toList = .ok o ∧
      tangled.IsConsistent "Give the  sword to get".toList o ∧ o.matched = true ∧
      o.action? = some "GIVE".toList ∧ o.verb? = some "take".toList := by
  have first : tangled.interpret " GET  x n".toList =
      .ok (.refused .verbRecognizedNoPatternMatch (some "take".toList) "take x n".toList) := by
    decide +kernel
  have second : tangled.interpret "Give the  sword to get".toList =
      .ok (.accepted "GIVE".toList
        [("item".toList, "sword".toList), ("character".toList, "get".toList)]
        (some "take".toList) "give the sword to take".toList) := by decide +kernel
  obtain ⟨o, interpreted, consistent⟩ :=
    tangled.interpret_consistent _ rfl (some " GET  x n".toList)
  obtain ⟨o', interpreted', consistent'⟩ :=
    tangled.interpret_consistent _ rfl (some "Give the  sword to get".toList)
  obtain rfl := Except.ok.inj (interpreted.symm.trans first)
  obtain rfl := Except.ok.inj (interpreted'.symm.trans second)
  refine ⟨⟨_, first, consistent, rfl, rfl, ?_⟩, _, second, consistent', rfl, rfl, rfl⟩
  exact consistent.verb_of_word "get".toList (by decide +kernel) "take".toList (by decide +kernel)
    (by decide)

end TextAdventure
