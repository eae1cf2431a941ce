import TextAdventure.Proofs.Interpreter.Replies
import TextAdventure.Proofs.Lexicon.Templates

/-!
Messages to the player. A message is its template with all placeholders filled in at once, provided
that the values are inert in it. The values of a reply are words of the player and the verb
recognized in them (`explain?_taken`), and only the question for an indirect object has more than
one of them.
-/
namespace TextAdventure

open Text (unwords)

/-- Whether the details are taken from an outcome: words of its text and the verb that was
recognized. -/
structure Details.TakenFrom (d : Details) (o : Outcome) : Prop where
  object : ∀ v, d.object = .given v → ∃ ws, ws.Sublist (Text.words o.text) ∧ v = unwords ws
  verb : ∀ v, d.verb = .given v → o.verb? = some v
  preposition : ∀ v, d.preposition = .given v → v ∈ Text.words o.text

theorem Details.takenFrom_of_verb (usual : Detail) (o : Outcome)
    (named : ∀ v, usual = .given v → o.verb? = some v) :
    ({ verb := usual } : Details).TakenFrom o where
  object _ filled := by cases filled
  verb := named
  preposition _ filled := by cases filled

namespace Lexicon

variable (l : Lexicon)

/-- Apart from the question for an indirect object, replies have at most the verb filled in. -/
theorem replyToVerb_taken (hint : Hint) (verb : Option Text) (text : Text) :
    ∃ m d, l.replyToVerb verb text {} = l.message m d ∧ d.TakenFrom (.refused hint verb text) ∧
      (m ≠ .needIndirectObject → ∃ usual, d = { verb := usual }) := by
  have named (v : Text) (filled : Detail.missing.orElse verb = .given v) : verb = some v := by
    cases verb with
    | none => cases filled
    | some u => exact congrArg some (Detail.given.inj filled)
  unfold replyToVerb
  simp only
  cases missing : l.missingIndirect? (Text.words text) with
  | some r =>
    obtain ⟨object, preposition⟩ := r
    obtain ⟨first, middle, words, -, -, rfl⟩ :=
      (l.missingIndirect?_eq_some_iff _ object preposition).mp missing
    -- the object is what is left of the words between the first and the last one
    have inside : (l.withoutArticles middle).Sublist (Text.words text) := by
      rw [words, List.cons_append]
      exact (List.filter_sublist.trans (List.sublist_append_left _ _)).cons first
    refine ⟨.needIndirectObject, _, rfl, ⟨?_, named, ?_⟩, fun other => absurd rfl other⟩
    · rintro v ⟨⟩
      exact ⟨_, inside, rfl⟩
    · rintro v ⟨⟩
      rw [Outcome.text, words]
      exact List.mem_append_right _ List.mem_cons_self
  | none =>
    have taken := Details.takenFrom_of_verb (Detail.missing.orElse verb)
      (.refused hint verb text) named
    simp only
    split
    · exact ⟨.needMoreInfo, _, rfl, taken, fun _ => ⟨_, rfl⟩⟩
    · exact ⟨.cantDoThat, _, rfl, taken, fun _ => ⟨_, rfl⟩⟩

theorem explain?_taken (o : Outcome) (refused : o.matched = false) :
    ∃ m d, l.explain? o {} = some (l.message m d) ∧ d.TakenFrom o ∧
      (m ≠ .needIndirectObject → ∃ usual, d = { verb := usual }) := by
  cases o with
  | accepted => cases refused
  | refused hint verb text =>
    have nothing := Details.takenFrom_of_verb .missing (.refused hint verb text) fun _ filled => by
      cases filled
    unfold explain?
    split
    · cases ‹Outcome.refused hint verb text = _›
    next same =>
    cases same
    split
    · exact ⟨.noVerb, {}, rfl, nothing, fun _ => ⟨.missing, rfl⟩⟩
    · cases hint with
      | noVerbRecognized => exact ⟨.unknownVerb, {}, rfl, nothing, fun _ => ⟨.missing, rfl⟩⟩
      | verbRecognizedNoPatternMatch =>
        obtain ⟨m, d, reply, taken, single⟩ :=
          l.replyToVerb_taken .verbRecognizedNoPatternMatch verb text
        exact ⟨m, d, congrArg some reply, taken, single⟩

/-- A message is the template under its key with all placeholders filled in at once, provided that
no value brings in a placeholder that is filled later. The reply to a refused line is such a message
with words of the line in it, and only where an indirect object is asked for does it depend on them.
-/
theorem message?_at_once :
    (∀ k t d, l.template? k = some t → d.Inert t → l.message? k d = some (d.fillAtOnce t)) ∧
    ∀ o : Outcome, o.matched = false → ∃ m d, l.explain? o {} = some (l.message m d) ∧
      d.TakenFrom o ∧ ((m = .needIndirectObject → d.Inert (l.template m)) →
        l.message m d = d.fillAtOnce (l.template m)) := by
  constructor
  · intro k t d found inert
    rw [message?, found, Option.map_some, d.fill_eq_fillAtOnce t inert]
  · intro o refused
    obtain ⟨m, d, reply, taken, single⟩ := l.explain?_taken o refused
    refine ⟨m, d, reply, taken, fun inert => d.fill_eq_fillAtOnce _ ?_⟩
    -- only the question for an indirect object has a value in front of the verb or behind it
    by_cases asked : m = .needIndirectObject
    · exact inert asked
    · obtain ⟨usual, rfl⟩ := single asked
      exact Details.inert_of_verb _ usual

end Lexicon

/-- An interpreter without rules, in whose lexicon things are given to someone. -/
def giver : Interpreter :=
  .ofRulebook
    (.ofVocabulary
      { verbs := .ofPairs [("give".toList, [])]
        articles := ["the".toList]
        prepositions := ["to".toList] })
    ⟨[], none⟩ true

/-- What the player is asked about a gift. -/
def giftQuestion (object : String) : Details where
  object := .given object.toList
  verb := .given "give".toList
  preposition := .given "to".toList

/-- A gift whose name looks like a placeholder is named as it was typed. -/
theorem giver_message_object :
    giver.lexicon.message? MessageKind.needIndirectObject.key (giftQuestion "\x7bobject\x7d") =
        some "What do you want to give the \x7bobject\x7d to?".toList ∧
      ∃ o, giver.interpret "give the \x7bobject\x7d to".toList = .ok o ∧ o.matched = false ∧
        ∃ m d, giver.explain? o {} = some (giver.lexicon.message m d) ∧ d.TakenFrom o := by
  obtain ⟨messages, replies⟩ := giver.lexicon.message?_at_once
  have inert : (giftQuestion "\x7bobject\x7d").Inert MessageKind.needIndirectObject.template := by
    refine Details.inert_of_isClosed _ _ (by decide +kernel) ?_ ?_
    · rintro v ⟨⟩
      decide +kernel
    · rintro v ⟨⟩
      decide +kernel
  have interpreted : giver.interpret "give the \x7bobject\x7d to".toList =
      .ok (.refused .verbRecognizedNoPatternMatch (some "give".toList)
        "give the \x7bobject\x7d to".toList) := by decide +kernel
  obtain ⟨m, d, reply, taken, -⟩ := replies _ (rfl : (Outcome.refused .verbRecognizedNoPatternMatch
    (some "give".toList) "give the \x7bobject\x7d to".toList).matched = false)
  refine ⟨?_, _, interpreted, rfl, m, d, reply, taken⟩
  rw [messages _ _ _ (giver.lexicon.template?_key .needIndirectObject) inert]
  decide +kernel

/-- A gift whose name is the placeholder of the verb is named as the verb. -/
theorem giver_message_verb :
    giver.lexicon.template? MessageKind.needIndirectObject.key =
        some MessageKind.needIndirectObject.template ∧
      giver.lexicon.message? MessageKind.needIndirectObject.key (giftQuestion "\x7bverb\x7d") ≠
        some ((giftQuestion "\x7bverb\x7d").fillAtOnce MessageKind.needIndirectObject.template) ∧
      ∃ o, giver.interpret "give the \x7bverb\x7d to".toList = .ok o ∧ o.matched = false ∧
        giver.explain? o {} ≠ some "What do you want to give the \x7bverb\x7d to?".toList ∧
        giver.explain? o {} = some "What do you want to give the give to?".toList := by
  have interpreted : giver.interpret "give the \x7bverb\x7d to".toList =
      .ok (.refused .verbRecognizedNoPatternMatch (some "give".toList)
        "give the \x7bverb\x7d to".toList) := by decide +kernel
  exact ⟨by decide +kernel, by decide +kernel, _, interpreted, rfl, by decide +kernel,
    by decide +kernel⟩

end TextAdventure
