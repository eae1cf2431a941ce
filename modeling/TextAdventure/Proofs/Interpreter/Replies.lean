import TextAdventure.Explanation
import TextAdventure.Proofs.Interpreter.Captures
import TextAdventure.Proofs.Lexicon.LongestPhrase

/-!
Replies to refused lines. The reply to a line in which a verb was recognized depends on the words
behind the first one (`replyToVerb_needIndirectObject`, `replyToVerb_needMoreInfo`). If the verb is
a phrase, its words behind the first count as words of the object, so a line that begins with a
phrase is replied to like one that begins with a word exactly if these are articles
(`explain?_of_phrase`).
-/
namespace TextAdventure

open Text (IsWord unwords)

namespace Lexicon

variable (l : Lexicon)

theorem withoutArticles_append (us ws : List Text) :
    l.withoutArticles (us ++ ws) = l.withoutArticles us ++ l.withoutArticles ws :=
  List.filter_append ..

theorem withoutArticles_eq_nil_iff (ws : List Text) :
    l.withoutArticles ws = [] ↔ ∀ w ∈ ws, l.isArticle w = true := by
  simp [withoutArticles, List.filter_eq_nil_iff]

theorem unwords_withoutArticles_append_iff (us ws : List Text) (proper : ∀ w ∈ us ++ ws, IsWord w) :
    unwords (l.withoutArticles (us ++ ws)) = unwords (l.withoutArticles ws) ↔
      ∀ w ∈ us, l.isArticle w = true := by
  have cut (vs : List Text) (words : ∀ v ∈ vs, IsWord v) :
      Text.words (unwords (l.withoutArticles vs)) = l.withoutArticles vs :=
    Text.words_unwords _ fun v member => words v (List.mem_of_mem_filter member)
  rw [← withoutArticles_eq_nil_iff]
  constructor
  · intro same
    have equal := congrArg Text.words same
    rw [cut _ proper, cut ws (List.forall_mem_append.mp proper).2, withoutArticles_append] at equal
    exact List.append_left_eq_self.mp equal
  · intro articles
    rw [withoutArticles_append, articles, List.nil_append]

/-- The indirect object of a line is missing if there is an object between the first word and the
last one and the last one is a preposition. -/
theorem missingIndirect?_eq_some_iff (ws : List Text) (object preposition : Text) :
    l.missingIndirect? ws = some (object, preposition) ↔
      ∃ first middle, ws = first :: middle ++ [preposition] ∧ l.isPreposition preposition = true ∧
        l.withoutArticles middle ≠ [] ∧ object = unwords (l.withoutArticles middle) := by
  constructor
  · intro missing
    unfold missingIndirect? at missing
    split at missing
    next first w v rest =>
      simp only at missing
      split at missing
      next kept =>
        cases missing
        rw [Bool.and_eq_true, Bool.not_eq_true', List.isEmpty_eq_false_iff] at kept
        refine ⟨first, w :: (v :: rest).dropLast, ?_, kept.1, kept.2, rfl⟩
        have tail : v :: rest ≠ [] := List.cons_ne_nil v rest
        have last : (v :: rest).getLast?.getD w = (v :: rest).getLast tail := by
          rw [List.getLast?_eq_some_getLast tail, Option.getD_some]
        rw [last, List.cons_append, List.cons_append, List.dropLast_append_getLast]
      · cases missing
    · cases missing
  · rintro ⟨first, middle, rfl, last, named, rfl⟩
    cases middle with
    | nil => exact absurd rfl named
    | cons w middle =>
      -- the words behind the first two are not empty, since the preposition is among them
      obtain ⟨v, rest, cut⟩ := List.exists_cons_of_ne_nil (List.append_ne_nil_of_right_ne_nil middle
        (List.cons_ne_nil preposition []))
      have stop : (v :: rest).getLast?.getD w = preposition := by
        rw [← cut, List.getLast?_append, List.getLast?_singleton, Option.some_or, Option.getD_some]
      have front : (v :: rest).dropLast = middle := by rw [← cut, List.dropLast_concat]
      rw [List.cons_append, List.cons_append, cut]
      simp only [missingIndirect?, stop, front, last, Bool.true_and, Bool.not_eq_true',
        List.isEmpty_eq_false_iff, if_pos named]

section

variable (verb text : Text)

theorem replyToVerb_needIndirectObject (first preposition : Text) (middle : List Text)
    (words : Text.words text = first :: middle ++ [preposition])
    (last : l.isPreposition preposition = true) (named : l.withoutArticles middle ≠ []) :
    l.replyToVerb (some verb) text {} = l.message .needIndirectObject
      { object := .given (unwords (l.withoutArticles middle)), verb := .given verb,
        preposition := .given preposition } := by
  have missing := (l.missingIndirect?_eq_some_iff (Text.words text) _ preposition).mpr
    ⟨first, middle, words, last, named, rfl⟩
  simp only [replyToVerb, missing]
  rfl

/-- If no indirect object is missing, more is asked for where nothing but articles stands behind the
first word or the whole text is a form of a verb, and anything else is declined. -/
theorem replyToVerb_of_complete (complete : l.missingIndirect? (Text.words text) = none) :
    l.replyToVerb (some verb) text {} =
      l.message (if (∀ w ∈ (Text.words text).tail, l.isArticle w = true) ∨ (l.verb? text).isSome
        then .needMoreInfo else .cantDoThat) { verb := .given verb } := by
  have asked : ((l.withoutArticles ((Text.words text).drop 1)).isEmpty || (l.verb? text).isSome)
      = true ↔ (∀ w ∈ (Text.words text).tail, l.isArticle w = true) ∨ (l.verb? text).isSome := by
    rw [Bool.or_eq_true, List.isEmpty_iff, withoutArticles_eq_nil_iff, List.drop_one]
  simp only [replyToVerb, complete, asked]
  split <;> rfl

end

/-- Behind articles only, no indirect object is missing. -/
theorem missingIndirect?_of_articles (ws : List Text)
    (articles : ∀ w ∈ ws.tail, l.isArticle w = true) : l.missingIndirect? ws = none := by
  refine Option.eq_none_iff_forall_ne_some.mpr fun r missing => ?_
  obtain ⟨first, middle, rfl, -, named, -⟩ := (l.missingIndirect?_eq_some_iff ws r.1 r.2).mp missing
  exact named ((l.withoutArticles_eq_nil_iff middle).mpr fun w member =>
    articles w (List.mem_append_left _ member))

end Lexicon

namespace Interpreter

variable (i : Interpreter)

/-- The reply to a refused line in which a phrase was found is about the verb that it names. -/
theorem explain?_of_phraseIn? (line P : Text) (o : Outcome) (interpreted : i.interpret line = .ok o)
    (refused : o.matched = false) (spoken : o.text ≠ []) (worded : Text.words P ≠ [])
    (found : i.lexicon.phraseIn? (i.normalize line) = some P) (d : Details) :
    o.verb? = some (i.lexicon.verbNamed P) ∧
      i.explain? o d = some (i.lexicon.replyToVerb (some (i.lexicon.verbNamed P)) o.text d) := by
  have nonempty : i.normalize line ≠ [] := by
    intro empty
    rw [i.interpret_of_nil line empty] at interpreted
    cases interpreted
    exact spoken rfl
  have verb : i.lexicon.findVerb (i.normalize line) = .ok (some (i.lexicon.verbNamed P)) := by
    rw [Lexicon.findVerb, found]
    simp only [i.lexicon.verbOfPhrase_eq P worded]
    rfl
  rw [i.interpret_of_ne_nil line nonempty, verb] at interpreted
  cases interpreted
  refine ⟨i.verb?_outcomeOf line _ _, ?_⟩
  cases decided : i.decide? (unwords (i.normalize line)) with
  | none =>
    rw [decided, text_outcomeOf] at spoken
    simp [outcomeOf, explain?, Lexicon.explain?, spoken, Outcome.text]
  | some f => simp [decided] at refused

/-- The reply to a refused line that begins with the phrase by which its verb was recognized. If
nothing but articles follows, more is asked for, provided that the words of the phrase behind its
first one are articles too, or that no indirect object is missing and the whole text is a form of a
verb; the line is declined otherwise. If an object and a preposition follow, the indirect object is
asked for, and the words of the phrase behind its first one are taken for words of the object unless
they are articles. -/
theorem explain?_of_phrase (line P : Text) (rest : List Text) (o : Outcome)
    (interpreted : i.interpret line = .ok o) (refused : o.matched = false)
    (found : i.lexicon.phraseIn? (i.normalize line) = some P) (several : 2 ≤ (Text.words P).length)
    (begins : Text.words o.text = Text.words P ++ rest) :
    o.verb? = some (i.lexicon.verbNamed P) ∧
    ((∀ w ∈ rest, i.lexicon.isArticle w = true) →
      ((∀ w ∈ (Text.words P).tail, i.lexicon.isArticle w = true) →
        i.explain? o {} = some (i.lexicon.message .needMoreInfo
          { verb := .given (i.lexicon.verbNamed P) })) ∧
      (¬(∀ w ∈ (Text.words P).tail, i.lexicon.isArticle w = true) →
        i.lexicon.missingIndirect? (Text.words o.text) = none →
        i.explain? o {} = some (i.lexicon.message
          (if (i.lexicon.verb? o.text).isSome then .needMoreInfo else .cantDoThat)
          { verb := .given (i.lexicon.verbNamed P) }))) ∧
    ∀ object preposition, rest = object ++ [preposition] → i.lexicon.withoutArticles object ≠ [] →
      i.lexicon.isPreposition preposition = true →
      (i.explain? o {} = some (i.lexicon.message .needIndirectObject
        { object := .given (unwords (i.lexicon.withoutArticles ((Text.words P).tail ++ object)))
          verb := .given (i.lexicon.verbNamed P), preposition := .given preposition })) ∧
      (unwords (i.lexicon.withoutArticles ((Text.words P).tail ++ object)) =
          unwords (i.lexicon.withoutArticles object) ↔
        ∀ w ∈ (Text.words P).tail, i.lexicon.isArticle w = true) := by
  obtain ⟨first, tail, cut⟩ :=
    List.exists_cons_of_length_pos (Nat.lt_of_lt_of_le Nat.two_pos several)
  have worded : Text.words P ≠ [] := cut ▸ List.cons_ne_nil first tail
  have spoken : o.text ≠ [] := by
    intro empty
    rw [empty, cut] at begins
    cases begins
  obtain ⟨verb, reply⟩ :=
    i.explain?_of_phraseIn? line P o interpreted refused spoken worded found {}
  have behind : (Text.words o.text).tail = tail ++ rest := by
    rw [begins, cut, List.cons_append, List.tail_cons]
  rw [reply, cut, List.tail_cons]
  refine ⟨verb, fun articles => ?_, ?_⟩
  · -- the reply depends on the words behind the first one, some of which belong to the phrase
    have all : (∀ w ∈ (Text.words o.text).tail, i.lexicon.isArticle w = true) ↔
        ∀ w ∈ tail, i.lexicon.isArticle w = true := by
      rw [behind, List.forall_mem_append]
      exact and_iff_left articles
    refine ⟨fun bare => congrArg some ?_, fun worded complete => congrArg some ?_⟩
    · have complete := i.lexicon.missingIndirect?_of_articles _ (all.mpr bare)
      rw [i.lexicon.replyToVerb_of_complete _ _ complete, if_pos (.inl (all.mpr bare))]
    · simp only [i.lexicon.replyToVerb_of_complete _ _ complete, all, worded, false_or]
  · rintro object preposition rfl named last
    have whole : Text.words o.text = first :: (tail ++ object) ++ [preposition] := by
      rw [begins, cut, List.cons_append, List.cons_append, List.append_assoc]
    have named' : i.lexicon.withoutArticles (tail ++ object) ≠ [] := by
      rw [i.lexicon.withoutArticles_append]
      exact List.append_ne_nil_of_right_ne_nil _ named
    have proper : ∀ w ∈ tail ++ object, IsWord w := by
      intro w member
      refine Text.isWord_of_mem_words o.text w ?_
      rw [whole]
      exact List.mem_append_left _ (List.mem_cons_of_mem first member)
    have asked := i.lexicon.replyToVerb_needIndirectObject (i.lexicon.verbNamed P) o.text first
      preposition _ whole last named'
    exact ⟨congrArg some asked, i.lexicon.unwords_withoutArticles_append_iff tail object proper⟩

end Interpreter

/-- An interpreter without rules, in whose lexicon what is picked up is taken. -/
def gatherer : Interpreter :=
  .ofRulebook
    (.ofVocabulary
      { verbs := .ofPairs [("take".toList, ["pick up".toList])]
        articles := ["the".toList]
        prepositions := ["with".toList] })
    ⟨[], none⟩ true

/-- More is asked for behind the phrase alone. -/
theorem gatherer_explain_bare :
    ∃ o, gatherer.interpret "Pick  UP".toList = .ok o ∧ o.matched = false ∧
      gatherer.lexicon.phraseIn? (gatherer.normalize "Pick  UP".toList) = some "pick up".toList ∧
      gatherer.explain? o {} = some "What do you want to take?".toList := by
  have interpreted : gatherer.interpret "Pick  UP".toList =
      .ok (.refused .verbRecognizedNoPatternMatch (some "take".toList) "pick up".toList) := by
    decide +kernel
  have found : gatherer.lexicon.phraseIn? (gatherer.normalize "Pick  UP".toList) =
      some "pick up".toList := by decide +kernel
  obtain ⟨-, bare, -⟩ := gatherer.explain?_of_phrase _ _ [] _ interpreted rfl found (by decide)
    (by decide)
  refine ⟨_, interpreted, rfl, found, ?_⟩
  rw [(bare (by decide)).2 (by decide +kernel) (by decide +kernel)]
  decide +kernel

/-- The second word of the phrase is taken for a word of the object, and for something behind the
verb where only an article is. -/
theorem gatherer_explain_lamp :
    (∃ o, gatherer.interpret "pick up the lamp with".toList = .ok o ∧ o.matched = false ∧
      gatherer.lexicon.phraseIn? (gatherer.normalize "pick up the lamp with".toList) =
        some "pick up".toList ∧
      Text.words o.text = Text.words "pick up".toList ++ ["the", "lamp", "with"].map String.toList ∧
      gatherer.lexicon.isPreposition "with".toList = true ∧
      gatherer.explain? o {} ≠ some (gatherer.lexicon.message .needIndirectObject
        { object := .given
            (unwords (gatherer.lexicon.withoutArticles ["the".toList, "lamp".toList]))
          verb := .given "take".toList, preposition := .given "with".toList })) ∧
    ∃ o, gatherer.interpret "pick up the".toList = .ok o ∧ o.matched = false ∧
      gatherer.lexicon.phraseIn? (gatherer.normalize "pick up the".toList) = some "pick up".toList ∧
      Text.words o.text = Text.words "pick up".toList ++ ["the".toList] ∧
      gatherer.lexicon.isArticle "the".toList = true ∧
      gatherer.explain? o {} ≠ some (gatherer.lexicon.message .needMoreInfo
        { verb := .given "take".toList }) := by
  have lamp : gatherer.interpret "pick up the lamp with".toList =
      .ok (.refused .verbRecognizedNoPatternMatch (some "take".toList)
        "pick up the lamp with".toList) := by decide +kernel
  have nothing : gatherer.interpret "pick up the".toList =
      .ok (.refused .verbRecognizedNoPatternMatch (some "take".toList) "pick up the".toList) := by
    decide +kernel
  exact ⟨⟨_, lamp, rfl, by decide +kernel, by decide, by decide +kernel, by decide +kernel⟩,
    _, nothing, rfl, by decide +kernel, by decide, by decide +kernel, by decide +kernel⟩

end TextAdventure
