import TextAdventure.Proofs.Lexicon.Phrases

/-!
The search for a verb. The code looks for a phrase between two spaces of the words joined by spaces;
a space in such a text stands between two words or at an end (`split_at_space`), so a phrase is
found exactly if it is some of the words in a row, joined by spaces (`padded_infix_iff`). Phrases
are tried in the order of their number of words, and by code point among equals, so the one that is
found is the longest (`findVerb_longest`). Such a phrase has a word, so the search cannot fail
(`findVerb_of_words`). Only where there are no words at all a blank phrase is found, and then there
is no verb to tell.
-/
namespace TextAdventure

open Text (IsWord afterWord unwords)

/-! ### Phrases among words -/

namespace Text

/-- In a row of words with spaces around them, a space stands in front of a word or at the end. -/
theorem split_at_space (ts : List Text) (proper : ∀ t ∈ ts, IsWord t) (front behind : Text)
    (split : front ++ ' ' :: behind = afterWord ts ++ [' ']) :
    ∃ us vs, ts = us ++ vs ∧ front = afterWord us ∧ ' ' :: behind = afterWord vs ++ [' '] := by
  induction ts generalizing front with
  | nil =>
    cases front with
    | nil => exact ⟨[], [], rfl, rfl, split⟩
    | cons c front =>
      have short := congrArg List.length split
      simp at short
  | cons t ts ih =>
    obtain ⟨word, later⟩ := List.forall_mem_cons.mp proper
    cases front with
    | nil => exact ⟨[], t :: ts, rfl, rfl, split⟩
    | cons c front =>
      rw [afterWord_cons, List.cons_append, List.cons_append, List.append_assoc] at split
      obtain ⟨rfl, rest⟩ := List.cons.inj split
      rcases List.append_eq_append_iff.mp rest with ⟨inside, whole, cut⟩ | ⟨further, rfl, cut⟩
      · cases inside with
        | nil =>
          rw [List.append_nil] at whole
          refine ⟨[t], ts, rfl, ?_, cut⟩
          rw [whole, afterWord_cons, afterWord_nil, List.append_nil]
        | cons d inside =>
          -- the space would stand inside the word
          obtain ⟨rfl, -⟩ := List.cons.inj cut
          have solid := word.2 ' ' (by rw [whole]; simp)
          rw [isBlank_space] at solid
          cases solid
      · obtain ⟨us, vs, rfl, rfl, tail⟩ := ih later further cut.symm
        exact ⟨t :: us, vs, rfl, rfl, tail⟩

/-- Whether the phrase is some of the words in a row, joined by spaces. -/
def StandsIn (ts : List Text) (p : Text) : Prop := ∃ vs, vs ≠ [] ∧ vs <:+: ts ∧ unwords vs = p

theorem StandsIn.words_ne_nil {ts : List Text} {p : Text} (stands : StandsIn ts p)
    (proper : ∀ t ∈ ts, IsWord t) : words p ≠ [] := by
  obtain ⟨vs, nonempty, inside, rfl⟩ := stands
  rwa [words_unwords vs fun v member => proper v (inside.mem member)]

theorem StandsIn.ne_nil {ts : List Text} {p : Text} (stands : StandsIn ts p)
    (proper : ∀ t ∈ ts, IsWord t) : p ≠ [] := by
  rintro rfl
  exact stands.words_ne_nil proper rfl

theorem padded_infix_iff (ts : List Text) (proper : ∀ t ∈ ts, IsWord t) (p : Text) :
    ' ' :: p ++ [' '] <:+: afterWord ts ++ [' '] ↔ StandsIn ts p := by
  constructor
  · rintro ⟨front, behind, whole⟩
    have opened : front ++ ' ' :: (p ++ ' ' :: behind) = afterWord ts ++ [' '] := by
      rw [← whole]
      simp
    obtain ⟨us, rest, rfl, -, cut⟩ := split_at_space ts proper front _ opened
    have later : ∀ t ∈ rest, IsWord t := fun t member => proper t (List.mem_append_right us member)
    obtain ⟨vs, ws, rfl, phrase, -⟩ := split_at_space rest later (' ' :: p) behind cut
    have nonempty : vs ≠ [] := by
      rintro rfl
      cases phrase
    refine ⟨vs, nonempty, ⟨us, ws, List.append_assoc us vs ws⟩, ?_⟩
    rw [← space_cons_unwords vs nonempty] at phrase
    exact (List.cons.inj phrase).2.symm
  · rintro ⟨vs, nonempty, ⟨us, ws, rfl⟩, rfl⟩
    -- behind the phrase there is a space in any case
    obtain ⟨behind, next⟩ : ∃ behind, afterWord ws ++ [' '] = ' ' :: behind := by
      cases ws with
      | nil => exact ⟨[], rfl⟩
      | cons w ws => exact ⟨_, rfl⟩
    refine ⟨afterWord us, behind, ?_⟩
    rw [afterWord_append, afterWord_append, ← space_cons_unwords vs nonempty,
      List.append_assoc _ _ [' '], next]
    simp

/-- A phrase that is written with single spaces stands among words exactly if its words do. -/
theorem standsIn_iff (ts : List Text) (proper : ∀ t ∈ ts, IsWord t) (p : Text) (nonempty : p ≠ [])
    (spaced : unwords (words p) = p) : StandsIn ts p ↔ words p <:+: ts := by
  constructor
  · rintro ⟨vs, -, inside, rfl⟩
    rwa [words_unwords vs fun v member => proper v (inside.mem member)]
  · intro inside
    refine ⟨words p, ?_, inside, spaced⟩
    intro empty
    rw [empty] at spaced
    exact nonempty spaced.symm

end Text

/-! ### The words that are searched -/

namespace Lexicon

/-- The words of a row in normal form, where one of the row may be several. -/
def tokens (ws : List Text) : List Text := ws.flatMap fun w => Text.words (Text.normal w)

theorem isWord_of_mem_tokens (ws : List Text) : ∀ t ∈ tokens ws, IsWord t := by
  intro t member
  obtain ⟨w, -, inside⟩ := List.mem_flatMap.mp member
  exact Text.isWord_of_mem_words _ t inside

theorem afterWord_map_normal (ws : List Text) (worded : ∀ w ∈ ws, Text.words w ≠ []) :
    afterWord (ws.map Text.normal) = afterWord (tokens ws) := by
  have normal : ws.map Text.normal =
      (ws.map fun w => Text.words (Text.normal w)).map unwords := by
    rw [List.map_map]
    exact List.map_congr_left fun w _ =>
      (Text.unwords_words_of_normal _ (Text.normal_normal w)).symm
  rw [normal, Text.afterWord_map_unwords, tokens, List.flatMap_def]
  refine List.forall_mem_map.mpr fun w member => ?_
  rw [Text.words_normal]
  exact fun empty => worded w member (List.map_eq_nil_iff.mp empty)

/-- The search in the joined words is a search among the words. Only where there are no words it
finds the blank phrase, which is none of them. -/
theorem occursIn_iff_standsIn (ws : List Text) (worded : ∀ w ∈ ws, Text.words w ≠ []) (p : Text)
    (able : ws ≠ [] ∨ p ≠ []) :
    Text.occursIn (' ' :: p ++ [' ']) (' ' :: unwords (ws.map Text.normal) ++ [' ']) = true ↔
      Text.StandsIn (tokens ws) p := by
  rw [Text.occursIn_iff]
  by_cases none : ws = []
  · subst none
    refine iff_of_false (fun occurs => ?_) ?_
    · have length := occurs.length_le
      have blank : p = [] := List.length_eq_zero_iff.mp (by simpa using length)
      exact able.elim (absurd rfl) (absurd blank)
    · rintro ⟨vs, nonempty, inside, -⟩
      exact nonempty (List.infix_nil.mp inside)
  · rw [Text.space_cons_unwords _ (by simpa using none), afterWord_map_normal ws worded]
    exact Text.padded_infix_iff _ (isWord_of_mem_tokens ws) p

/-! ### The phrase that is found -/

variable (l : Lexicon)

/-- Whether the lexicon looks for the phrase where a verb is wanted. -/
def IsPhrase (p : Text) : Prop :=
  (p ≠ [] ∧ p ∈ l.multiWordVerbs.map Text.normal) ∨ ∃ e ∈ l.verbs, p ∈ e.forms ∧ ' ' ∈ p

theorem isPhrase_iff (p : Text) : l.IsPhrase p ↔ p ∈ l.phrases ∧ p ≠ [] := by
  rw [mem_phrases, or_and_right, and_comm (b := p ≠ []), IsPhrase]
  refine or_congr_right (and_iff_left_of_imp ?_).symm
  rintro ⟨e, -, -, spaced⟩ rfl
  cases spaced

theorem ne_nil_of_mem_phrases (named : ∀ m ∈ l.multiWordVerbs, Text.words m ≠ []) (p : Text)
    (listed : p ∈ l.phrases) : p ≠ [] := by
  rintro rfl
  rcases (l.mem_phrases []).mp listed with multiWord | ⟨e, -, -, spaced⟩
  · obtain ⟨m, member, blank⟩ := List.mem_map.mp multiWord
    have folded : (Text.words m).map Text.casefold = [] := by
      rw [← Text.words_normal, blank]
      rfl
    exact named m member (List.map_eq_nil_iff.mp folded)
  · cases spaced

/-- Of the phrases among the words the one with the most words, and of several such phrases the
first by code point. -/
structure IsLongestPhrase (ts : List Text) (p : Text) : Prop where
  isPhrase : l.IsPhrase p
  standsIn : Text.StandsIn ts p
  triedBefore : ∀ q, l.IsPhrase q → Text.StandsIn ts q → q = p ∨ Text.TriedBefore p q

/-- The verb that a phrase names: its canonical form, else that of its first word, else the phrase
itself. -/
def verbNamed (p : Text) : Text := ((l.verb? p).or ((Text.words p).head?.bind l.verb?)).getD p

theorem verbOfPhrase_eq (p : Text) (worded : Text.words p ≠ []) :
    l.verbOfPhrase p = .ok (l.verbNamed p) := by
  obtain ⟨w, ws, words⟩ := List.exists_cons_of_ne_nil worded
  unfold verbOfPhrase verbNamed
  cases l.verb? p with
  | some v => rfl
  | none =>
    rw [words]
    rfl

section

variable (ws : List Text) (worded : ∀ w ∈ ws, Text.words w ≠ [])

include worded

/-- The phrase that is found is the longest. -/
theorem isLongestPhrase_of_phraseIn? (able : ∀ p ∈ l.phrases, ws ≠ [] ∨ p ≠ []) (p : Text)
    (found : l.phraseIn? ws = some p) : l.IsLongestPhrase (tokens ws) p := by
  have listed : p ∈ l.phrases := List.mem_of_find?_eq_some found
  have occurs := List.find?_some found
  have stands := (occursIn_iff_standsIn ws worded p (able p listed)).mp occurs
  refine ⟨(l.isPhrase_iff p).mpr ⟨listed, stands.ne_nil (isWord_of_mem_tokens ws)⟩, stands,
    fun q phrase stands' => ?_⟩
  have listed' : q ∈ l.phrases := ((l.isPhrase_iff q).mp phrase).1
  exact eq_or_rel_of_find? _ _ p q l.pairwise_phrases found listed'
    ((occursIn_iff_standsIn ws worded q (able q listed')).mpr stands')

/-- Where none is found no phrase stands among the words. -/
theorem not_standsIn_of_phraseIn? (missed : l.phraseIn? ws = none) (p : Text)
    (phrase : l.IsPhrase p) : ¬Text.StandsIn (tokens ws) p := by
  obtain ⟨listed, nonempty⟩ := (l.isPhrase_iff p).mp phrase
  intro stands
  exact List.find?_eq_none.mp missed p listed
    ((occursIn_iff_standsIn ws worded p (.inr nonempty)).mpr stands)

/-- The verb of a row of words is the one that the longest phrase among them names; where no phrase
stands among them, it is that of the first word that has one. In a lexicon in normal form a phrase
stands among the words exactly if its words do. -/
theorem findVerb_longest (able : ws ≠ [] ∨ ∀ m ∈ l.multiWordVerbs, Text.words m ≠ []) :
    ((∃ p, l.IsPhrase p ∧ Text.StandsIn (tokens ws) p) →
      ∃ p, l.IsLongestPhrase (tokens ws) p ∧ l.findVerb ws = .ok (some (l.verbNamed p))) ∧
    ((¬∃ p, l.IsPhrase p ∧ Text.StandsIn (tokens ws) p) →
      l.findVerb ws = .ok (ws.findSome? l.verb?)) ∧
    (l.HasNormalForms → ∀ p, l.IsPhrase p →
      (Text.StandsIn (tokens ws) p ↔ Text.words p <:+: tokens ws)) := by
  have proper := isWord_of_mem_tokens ws
  have able' : ∀ p ∈ l.phrases, ws ≠ [] ∨ p ≠ [] :=
    fun p listed => able.imp_right fun named => l.ne_nil_of_mem_phrases named p listed
  refine ⟨?_, ?_, fun forms p phrase => ?_⟩
  · rintro ⟨q, phrase, stands⟩
    cases found : l.phraseIn? ws with
    | none => exact absurd stands (l.not_standsIn_of_phraseIn? ws worded found q phrase)
    | some p =>
      have longest := l.isLongestPhrase_of_phraseIn? ws worded able' p found
      refine ⟨p, longest, ?_⟩
      simp only [findVerb, found, l.verbOfPhrase_eq p (longest.standsIn.words_ne_nil proper),
        Except.map]
  · intro nowhere
    cases found : l.phraseIn? ws with
    | none => simp only [findVerb, found]
    | some p =>
      have longest := l.isLongestPhrase_of_phraseIn? ws worded able' p found
      exact absurd ⟨p, longest.isPhrase, longest.standsIn⟩ nowhere
  · obtain ⟨listed, nonempty⟩ := (l.isPhrase_iff p).mp phrase
    exact Text.standsIn_iff _ proper p nonempty
      (Text.unwords_words_of_normal p (l.normal_of_mem_phrases forms p listed))

/-- The search for a verb gives a result, a verb or none, if there is a word in each of the words. -/
theorem findVerb_of_words (nonempty : ws ≠ []) : ∃ verb, l.findVerb ws = .ok verb := by
  unfold findVerb
  cases found : l.phraseIn? ws with
  | none => exact ⟨_, rfl⟩
  | some p =>
    have longest := l.isLongestPhrase_of_phraseIn? ws worded (fun _ _ => .inl nonempty) p found
    have words := longest.standsIn.words_ne_nil (isWord_of_mem_tokens ws)
    exact ⟨some (l.verbNamed p), by simp only [l.verbOfPhrase_eq p words, Except.map]⟩

end

theorem findVerb_total (ws : List Text) (nonempty : ws ≠ []) (proper : ∀ w ∈ ws, IsWord w) :
    ∃ verb, l.findVerb ws = .ok verb := by
  refine l.findVerb_of_words ws (fun w member => ?_) nonempty
  rw [Text.words_of_isWord w (proper w member)]
  exact List.cons_ne_nil w []

end Lexicon

/-- A lexicon with phrases of two and three words that begin alike, in any case and spacing. -/
def lifterVocabulary : Vocabulary where
  verbs := .ofPairs [("take".toList, ["get".toList, "Pick up".toList]),
    ("lift".toList, ["pick  up THE".toList])]
  multiWordVerbs := ["up the".toList]

theorem lifter_findVerb :
    (∀ w ∈ ["please".toList, "PICK\tup".toList, "the".toList, "lamp".toList],
      Text.words w ≠ []) ∧
    Text.StandsIn ["please".toList, "pick".toList, "up".toList, "the".toList, "lamp".toList]
      "pick up the".toList ∧
    (∃ p, (Lexicon.ofVocabulary lifterVocabulary).IsLongestPhrase
        (Lexicon.tokens ["please".toList, "PICK\tup".toList, "the".toList, "lamp".toList]) p ∧
      (Lexicon.ofVocabulary lifterVocabulary).findVerb
        ["please".toList, "PICK\tup".toList, "the".toList, "lamp".toList] =
          .ok (some ((Lexicon.ofVocabulary lifterVocabulary).verbNamed p))) ∧
    (Lexicon.ofVocabulary lifterVocabulary).findVerb
      ["please".toList, "PICK\tup".toList, "the".toList, "lamp".toList] =
        .ok (some "lift".toList) := by
  have worded : ∀ w ∈ ["please".toList, "PICK\tup".toList, "the".toList, "lamp".toList],
      Text.words w ≠ [] := by decide +kernel
  have tokens : Lexicon.tokens ["please".toList, "PICK\tup".toList, "the".toList, "lamp".toList] =
      ["please".toList, "pick".toList, "up".toList, "the".toList, "lamp".toList] := by
    decide +kernel
  have stands : Text.StandsIn
      ["please".toList, "pick".toList, "up".toList, "the".toList, "lamp".toList]
      "pick up the".toList :=
    ⟨["pick".toList, "up".toList, "the".toList], by decide,
      ⟨["please".toList], ["lamp".toList], by decide⟩, by decide⟩
  have phrase : (Lexicon.ofVocabulary lifterVocabulary).IsPhrase "pick up the".toList := by
    rw [Lexicon.isPhrase_iff]
    decide +kernel
  have searched := (Lexicon.ofVocabulary lifterVocabulary).findVerb_longest _ worded (.inl (by simp))
  exact ⟨worded, stands, searched.1 ⟨_, phrase, tokens ▸ stands⟩, by decide +kernel⟩

/-- A lexicon with a blank phrase. -/
def muteVocabulary : Vocabulary where
  multiWordVerbs := [" ".toList]

/-- Where there are no words at all the blank phrase is found, which has no first word, so that the
search fails instead of finding no verb. -/
theorem mute_findVerb_nil :
    (∀ w ∈ ([] : List Text), Text.words w ≠ []) ∧
      (¬∃ p, (Lexicon.ofVocabulary muteVocabulary).IsPhrase p ∧
        Text.StandsIn (Lexicon.tokens []) p) ∧
      (Lexicon.ofVocabulary muteVocabulary).findVerb [] = .error .blankPhrase := by
  refine ⟨List.forall_mem_nil _, ?_, by decide +kernel⟩
  rintro ⟨p, -, vs, nonempty, inside, -⟩
  exact nonempty (List.infix_nil.mp inside)

end TextAdventure
