import TextAdventure.Proofs.Interpreter.Captures
import TextAdventure.Proofs.Lexicon.Phrases

/-!
Synonyms of several words on a player's line. Verbs are told from the expanded words, so a synonym
that stands on a line is looked for as its words are spelled after expansion. If expansion leaves a
synonym of the same verb, the verb is recognized; but a word of the synonym may itself be a form of
another verb or of a direction, and then the synonym is gone before it is looked for.
-/
namespace TextAdventure

namespace Interpreter

variable (i : Interpreter)

/-- The words of a text in normal form are the player's words, if it abbreviates nothing and none of
them is a filler. -/
theorem surfaceWords_of_plain (f : Text) (normal : Text.normal f = f) (words : Text.words f ≠ [])
    (unabbreviated : i.lexicon.abbreviation? f = none)
    (plain : ∀ w ∈ Text.words f, i.lexicon.isFiller w = false) :
    i.surfaceWords f = Text.words f := by
  have nonempty : f.isEmpty = false := by
    cases f with
    | nil => exact absurd rfl words
    | cons c f => rfl
  have line : Interpreter.unabbreviated i.lexicon f = f := by
    simp only [Interpreter.unabbreviated, normal, nonempty, unabbreviated]
    rfl
  have kept : (Text.words f).filter (fun w => !i.lexicon.isFiller w) = Text.words f :=
    List.filter_eq_self.mpr fun w member => by rw [plain w member]; rfl
  rw [surfaceWords, line, kept, ite_self]

/-- In a consistent lexicon, a synonym of several words is recognized as its verb, under every
rulebook and whether or not fillers are dropped, if expanding its words leaves a synonym of that verb
and the line is not something else, an abbreviation or a phrase with a filler in it. -/
theorem interpret_synonym (v : Vocabulary) (tables : i.lexicon = .ofVocabulary v)
    (consistent : i.lexicon.defects = []) (e : Entry) (entry : e ∈ i.lexicon.verbs)
    (named : e.canonical ≠ []) (f : Text) (synonym : f ∈ e.synonyms)
    (several : 2 ≤ (Text.words f).length)
    (plain : ∀ w ∈ Text.words f, i.lexicon.isFiller w = false)
    (unabbreviated : i.lexicon.abbreviation? f = none)
    (kept : Text.unwords (i.lexicon.expandWords (Text.words f)) ∈ e.synonyms) :
    i.lexicon.canonicalVerb f = some e.canonical ∧
      ∃ o, i.interpret f = .ok o ∧ o.verb? = some e.canonical := by
  have forms : i.lexicon.HasNormalForms := tables ▸ Lexicon.hasNormalForms_ofVocabulary v
  obtain ⟨agree, -⟩ := i.lexicon.agree_of_defects consistent
  have form : f ∈ e.forms := (e.mem_forms f).mpr (.inr synonym)
  have normal : Text.normal f = f := forms e (List.mem_append_left _ entry) f form
  have verb : i.lexicon.canonicalVerb f = some e.canonical := by
    rw [Lexicon.canonicalVerb, normal, canonicalIn_of_mem_forms _ agree e entry f form]
  have words : Text.words f ≠ [] := List.ne_nil_of_length_pos (by omega)
  have line : i.normalize f = i.lexicon.expandWords (Text.words f) := by
    rw [normalize, i.surfaceWords_of_plain f normal words unabbreviated plain]
  -- expanded words are in normal form, so the phrase is looked for as it stands on the line
  have expanded : (i.normalize f).map Text.normal = i.normalize f := by
    rw [line, Lexicon.expandWords, List.map_map]
    exact List.map_congr_left fun w _ => i.lexicon.normal_canonicalWord forms w
  have length : (i.normalize f).length = (Text.words f).length := by
    rw [line, i.lexicon.length_expandWords]
  have found : i.lexicon.findVerb (i.normalize f) = .ok (some e.canonical) := by
    apply i.lexicon.findVerb_of_synonym forms agree e entry named
    · exact length ▸ several
    · rw [expanded, line]
      exact kept
  have nonempty : i.normalize f ≠ [] := List.ne_nil_of_length_pos (by omega)
  refine ⟨verb, _, by rw [i.interpret_of_ne_nil f nonempty, found, Except.map], ?_⟩
  exact i.verb?_outcomeOf f _ _

end Interpreter

/-- A lexicon in which what is picked up is taken, and one word means `up`. -/
def pickerVocabulary : Vocabulary where
  verbs := .ofPairs [("take".toList, ["pick up".toList, "Pick upward".toList])]
  directions := .ofPairs [("up".toList, ["upward".toList])]
  fillers := ["please".toList]

def picker : Interpreter :=
  .ofRulebook (.ofVocabulary pickerVocabulary) ⟨[giveRule], none⟩ true

/-- One synonym becomes the other on the line, and the verb is recognized. -/
theorem picker_interpret_pick_upward :
    picker.lexicon.defects = [] ∧ picker.lexicon.canonicalVerb "pick upward".toList =
        some "take".toList ∧
      picker.normalize "pick upward".toList = ["pick".toList, "up".toList] ∧
      ∃ o, picker.interpret "pick upward".toList = .ok o ∧ o.verb? = some "take".toList := by
  have consistent : picker.lexicon.defects = [] := by decide +kernel
  obtain ⟨verb, o, interpreted, told⟩ := picker.interpret_synonym pickerVocabulary rfl consistent
    ⟨"take".toList, .ofList ["pick up".toList, "pick upward".toList]⟩ (by decide +kernel)
    (by decide +kernel) "pick upward".toList (by decide +kernel) (by decide +kernel)
    (by decide +kernel) (by decide +kernel) (by decide +kernel)
  exact ⟨consistent, verb, by decide +kernel, o, interpreted, told⟩

/-- A lexicon in which what is picked up is taken, and up is where one climbs. -/
def climberVocabulary : Vocabulary where
  verbs := .ofPairs [("take".toList, ["pick up".toList]), ("climb".toList, ["up".toList])]

def climber : Interpreter := .ofRulebook (.ofVocabulary climberVocabulary) ⟨[], none⟩ true

/-- The synonym `pick up` is spelled `pick climb` before it is looked for, so another verb is
recognized than the one it belongs to, though the lexicon has no defect. -/
theorem climber_interpret_pick_up :
    climber.IsBound ∧ climber.lexicon.defects = [] ∧
      (∃ e ∈ climber.lexicon.verbs, e.canonical = "take".toList ∧ "pick up".toList ∈ e.synonyms) ∧
      2 ≤ (Text.words "pick up".toList).length ∧
      (∀ w ∈ Text.words "pick up".toList, climber.lexicon.isFiller w = false) ∧
      climber.lexicon.abbreviation? "pick up".toList = none ∧
      climber.lexicon.canonicalVerb "pick up".toList = some "take".toList ∧
      ¬∃ o, climber.interpret "pick up".toList = .ok o ∧ o.verb? = some "take".toList := by
  have bound : climber.IsBound :=
    Interpreter.isBound_ofRulebook _ _ true fun r member => absurd member List.not_mem_nil
  have interpreted : climber.interpret "pick up".toList =
      .ok (.refused .verbRecognizedNoPatternMatch (some "climb".toList) "pick climb".toList) := by
    decide +kernel
  refine ⟨bound, by decide +kernel, by decide +kernel, by decide, by decide +kernel,
    by decide +kernel, by decide +kernel, ?_⟩
  rintro ⟨o, same, verb⟩
  rw [interpreted] at same
  cases same
  exact absurd verb (by decide)

end TextAdventure
