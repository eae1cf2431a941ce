import TextAdventure.Proofs.Interpreter.Captures
import TextAdventure.Proofs.Lexicon.LongestPhrase

/-!
Synonyms cannot be told apart. A line is judged by its expanded words alone: they decide which verb
is recognized, which rule fits and at which ranges of words its captures stand. The player's own
words come in only when the captures are told, so two lines that expand alike differ at most in the
words of their captures.
-/
namespace TextAdventure

open Text (IsWord unwords)

/-- Lists that have the same words inside the ranges have the same phrases there. -/
theorem phrasesOf_congr (us ws : List Text) (ranges : List (Text × Span))
    (same : ∀ r ∈ ranges, ∀ k, r.2.start ≤ k → k < r.2.stop → us[k]? = ws[k]?) :
    phrasesOf us ranges = phrasesOf ws ranges := by
  refine List.map_congr_left fun r member => congrArg (fun share => (r.1, unwords share)) ?_
  apply List.ext_getElem?
  intro k
  rw [List.extract, List.extract, List.getElem?_take, List.getElem?_take, List.getElem?_drop,
    List.getElem?_drop]
  split
  next within => exact same r member _ (Nat.le_add_right _ _) (by omega)
  · rfl

theorem Lexicon.expandWords_congr (l : Lexicon) (us ws : List Text)
    (synonyms : List.Forall₂ (fun u w => l.canonicalWord u = l.canonicalWord w) us ws) :
    l.expandWords us = l.expandWords ws := by
  induction synonyms with
  | nil => rfl
  | cons same _ ih => exact congrArg₂ List.cons same ih

/-- Whether the outcomes `o` and `o'` of lines with the words `us` and `ws` differ at most in the
words of their captures, which stand at the same ranges in both lines. -/
structure Agree (us ws : List Text) (ranges : List (Text × Span)) (o o' : Outcome) : Prop where
  matched_eq : o.matched = o'.matched
  action_eq : o.action? = o'.action?
  hint_eq : o.hint? = o'.hint?
  verb_eq : o.verb? = o'.verb?
  text_eq : o.text = o'.text
  slots_eq : o.captures.map Prod.fst = o'.captures.map Prod.fst
  valid : IsSlotRanges (o.captures.map Prod.fst) us.length ranges
  left_eq : o.captures = phrasesOf us ranges
  right_eq : o'.captures = phrasesOf ws ranges
  captures_eq : (∀ r ∈ ranges, ∀ k, r.2.start ≤ k → k < r.2.stop → us[k]? = ws[k]?) →
    o.captures = o'.captures

theorem agree_of_ranges (us ws slots : List Text) (ranges : List (Text × Span)) (o o' : Outcome)
    (matched : o.matched = o'.matched) (action : o.action? = o'.action?) (hint : o.hint? = o'.hint?)
    (verb : o.verb? = o'.verb?) (text : o.text = o'.text)
    (valid : IsSlotRanges slots us.length ranges) (left : o.captures = phrasesOf us ranges)
    (right : o'.captures = phrasesOf ws ranges) : Agree us ws ranges o o' := by
  have names (vs : List Text) : (phrasesOf vs ranges).map Prod.fst = slots :=
    map_fst_phrasesOf slots vs ranges _ valid
  refine ⟨matched, action, hint, verb, text, ?_, ?_, left, right, fun same => ?_⟩
  · rw [left, right, names, names]
  · rwa [left, names]
  · rw [left, right]
    exact phrasesOf_congr us ws ranges same

namespace Interpreter

variable (i : Interpreter)

/-- The outcomes of two lines that are judged alike, given the verb and the decision. -/
theorem agree_outcomeOf (solid : i.lexicon.HasSolidForms) (bound : i.IsBound) (line line' : Text)
    (alike : i.normalize line = i.normalize line') (verb : Option Text) :
    ∃ ranges, Agree (i.surfaceWords line) (i.surfaceWords line') ranges
      (i.outcomeOf line verb (i.decide? (unwords (i.normalize line))))
      (i.outcomeOf line' verb (i.decide? (unwords (i.normalize line)))) := by
  have agree (d : Option Found) (slots : List Text) (ranges : List (Text × Span)) :=
    agree_of_ranges (i.surfaceWords line) (i.surfaceWords line') slots ranges
      (i.outcomeOf line verb d) (i.outcomeOf line' verb d) (by simp) (by simp) (by simp) (by simp)
      (by simp [alike])
  cases found : i.decide? (unwords (i.normalize line)) with
  | none => exact ⟨[], agree none [] [] (isSlotRanges_nil _) rfl rfl⟩
  | some f =>
    have proper := i.isWord_of_mem_normalize solid line
    obtain ⟨ranges, valid, spans, -⟩ := i.decide?_ranges bound solid _ proper f found
    have told := i.captures_outcomeOf line verb f ranges solid valid spans
    have length : (i.normalize line).length = (i.surfaceWords line).length :=
      i.lexicon.length_expandWords _
    refine ⟨ranges, agree (some f) f.rule.pattern.slots ranges (length ▸ valid) told ?_⟩
    -- the ranges are the same for the other line, since it expands to the same words
    rw [alike] at valid spans
    exact i.captures_outcomeOf line' verb f ranges solid valid spans

/-- Two lines whose words expand alike, one by one, are judged alike: only the words of the captures
may differ, which stand at the same places. -/
theorem interpret_synonyms (bound : i.IsBound) (solid : i.lexicon.HasSolidForms) (line line' : Text)
    (synonyms : List.Forall₂ (fun u w => i.lexicon.canonicalWord u = i.lexicon.canonicalWord w)
      (i.surfaceWords line) (i.surfaceWords line')) :
    ∃ o o' ranges, i.interpret line = .ok o ∧ i.interpret line' = .ok o' ∧
      Agree (i.surfaceWords line) (i.surfaceWords line') ranges o o' := by
  have alike : i.normalize line = i.normalize line' := i.lexicon.expandWords_congr _ _ synonyms
  by_cases empty : i.normalize line = []
  · -- neither line has words
    refine ⟨_, _, [], i.interpret_of_nil line empty, i.interpret_of_nil line' (alike ▸ empty), ?_⟩
    exact agree_of_ranges _ _ [] [] _ _ rfl rfl rfl rfl rfl (isSlotRanges_nil _) rfl rfl
  · obtain ⟨verb, named⟩ :=
      i.lexicon.findVerb_total _ empty (i.isWord_of_mem_normalize solid line)
    obtain ⟨ranges, agree⟩ := i.agree_outcomeOf solid bound line line' alike verb
    refine ⟨_, _, ranges, ?_, ?_, agree⟩
    · rw [i.interpret_of_ne_nil line empty, named, Except.map]
    · rw [i.interpret_of_ne_nil line' (alike ▸ empty), ← alike, named, Except.map]

end Interpreter

/-- Whether the player gives or hands makes no difference. -/
theorem courier_synonyms :
    courier.IsBound ∧ courier.lexicon.HasSolidForms ∧
      List.Forall₂ (fun u w => courier.lexicon.canonicalWord u = courier.lexicon.canonicalWord w)
        (courier.surfaceWords "Please HAND n to wizard".toList)
        (courier.surfaceWords "give N to wizard".toList) ∧
      ∃ o ranges, courier.interpret "give N to wizard".toList = .ok o ∧
        Agree (["hand", "n", "to", "wizard"].map String.toList)
          (["give", "n", "to", "wizard"].map String.toList) ranges
          (.accepted "GIVE".toList
            [("item".toList, "n".toList), ("character".toList, "wizard".toList)]
            (some "give".toList) "give north to wizard".toList) o := by
  have solid : courier.lexicon.HasSolidForms := by decide +kernel
  have words : courier.surfaceWords "Please HAND n to wizard".toList =
      ["hand", "n", "to", "wizard"].map String.toList := by decide +kernel
  have words' : courier.surfaceWords "give N to wizard".toList =
      ["give", "n", "to", "wizard"].map String.toList := by decide +kernel
  have verb : courier.lexicon.canonicalWord "hand".toList =
      courier.lexicon.canonicalWord "give".toList := by decide +kernel
  have synonyms : List.Forall₂
      (fun u w => courier.lexicon.canonicalWord u = courier.lexicon.canonicalWord w)
      (courier.surfaceWords "Please HAND n to wizard".toList)
      (courier.surfaceWords "give N to wizard".toList) := by
    rw [words, words']
    exact .cons verb (.cons rfl (.cons rfl (.cons rfl .nil)))
  obtain ⟨o, o', ranges, interpreted, interpreted', agree⟩ :=
    courier.interpret_synonyms courier_isBound solid _ _ synonyms
  have known : courier.interpret "Please HAND n to wizard".toList =
      .ok (.accepted "GIVE".toList
        [("item".toList, "n".toList), ("character".toList, "wizard".toList)]
        (some "give".toList) "give north to wizard".toList) := by decide +kernel
  rw [known] at interpreted
  obtain rfl := Except.ok.inj interpreted
  exact ⟨courier_isBound, solid, synonyms, o', ranges, interpreted', words ▸ words' ▸ agree⟩

end TextAdventure
