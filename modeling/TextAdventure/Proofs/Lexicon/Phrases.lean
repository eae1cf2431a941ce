import TextAdventure.Proofs.Lexicon.Ambiguity
import TextAdventure.Proofs.Lexicon.Lookup
import TextAdventure.Proofs.Text.Folding

/-!
Verbs of several words. Phrases are tried in order of their number of words and by code point among
equals (`pairwise_phrases`), so a row of words that is a phrase as a whole is found as that phrase:
any phrase inside it that is tried before has as many words, and has them all
(`phraseIn?_eq_self`). A synonym of several words therefore names the verb of its entry, provided
that it is looked for as it stands (`findVerb_of_synonym`).
-/
namespace TextAdventure

/-! ### Normal forms -/

theorem Text.unwords_words_of_normal (t : Text) (normal : Text.normal t = t) :
    Text.unwords (Text.words t) = t := by
  have folded : Text.words t = (Text.words t).map Text.casefold := by
    rw [← Text.words_normal, normal]
  rw [folded, ← Text.casefold_unwords]
  exact normal

namespace Lexicon

/-- Whether every form of a verb or a direction is in normal form. -/
def HasNormalForms (l : Lexicon) : Prop :=
  ∀ e ∈ l.verbs ++ l.directions, ∀ f ∈ e.forms, Text.normal f = f

theorem hasNormalForms_ofVocabulary (v : Vocabulary) : (ofVocabulary v).HasNormalForms := by
  have entries (t : Table (List Text)) : ∀ e ∈ entriesOf t, ∀ f ∈ e.forms, Text.normal f = f := by
    intro e member f form
    obtain ⟨entry, -, rfl⟩ := List.mem_map.mp member
    rcases (Entry.mem_forms _ f).mp form with rfl | synonym
    · exact Text.normal_normal entry.1
    · obtain ⟨u, -, rfl⟩ := List.mem_map.mp (WordSet.mem_ofList.mp synonym)
      exact Text.normal_normal u
  exact List.forall_mem_append.mpr ⟨entries v.verbs, entries v.directions⟩

variable (l : Lexicon)

theorem normal_canonicalWord (forms : l.HasNormalForms) (w : Text) :
    Text.normal (l.canonicalWord w) = l.canonicalWord w := by
  rcases l.canonicalWord_cases w with same | ⟨-, e, member, canonical⟩
  · rw [same, Text.normal_normal]
  · rw [← canonical]
    exact forms e member _ ((e.mem_forms _).mpr (.inl rfl))

end Lexicon

/-! ### The order of phrases -/

/-- Whether the phrase is tried before another: it has more words, or as many and comes first by
code point. -/
def Text.TriedBefore (p q : Text) : Prop :=
  (words q).length < (words p).length ∨ (words q).length = (words p).length ∧ p < q

/-- What is found first in a sorted list comes before everything else that could be found. -/
theorem eq_or_rel_of_find? {α : Type} {R : α → α → Prop} (q : α → Bool) (xs : List α) (x y : α)
    (sorted : xs.Pairwise R) (found : xs.find? q = some x) (member : y ∈ xs) (fits : q y = true) :
    y = x ∨ R x y := by
  obtain ⟨-, front, behind, rfl, skipped⟩ := List.find?_eq_some_iff_append.mp found
  rcases List.mem_append.mp member with before | here
  · have missed := skipped y before
    rw [fits] at missed
    cases missed
  · rcases List.mem_cons.mp here with same | later
    · exact .inl same
    · exact .inr ((List.pairwise_cons.mp (List.pairwise_append.mp sorted).2.1).1 y later)

namespace Lexicon

variable (l : Lexicon)

theorem mem_insertPhrase (p q : Text) (ps : List Text) : q ∈ insertPhrase p ps ↔ q = p ∨ q ∈ ps := by
  induction ps with
  | nil => simp [insertPhrase]
  | cons r ps ih =>
    unfold insertPhrase
    split
    · simp
    · simp only [List.mem_cons, ih]
      exact or_left_comm

theorem mem_foldr_insertPhrase (p : Text) (ps : List Text) :
    p ∈ ps.foldr insertPhrase [] ↔ p ∈ ps := by
  induction ps with
  | nil => rfl
  | cons q ps ih => rw [List.foldr_cons, mem_insertPhrase, ih, List.mem_cons]

theorem pairwise_insertPhrase (p : Text) (ps : List Text) (first : ∀ q ∈ ps, p < q)
    (sorted : ps.Pairwise Text.TriedBefore) : (insertPhrase p ps).Pairwise Text.TriedBefore := by
  induction ps with
  | nil => exact List.pairwise_singleton _ p
  | cons q ps ih =>
    obtain ⟨head, tail⟩ := List.pairwise_cons.mp sorted
    obtain ⟨less, first⟩ := List.forall_mem_cons.mp first
    unfold insertPhrase
    split
    next short =>
      refine List.pairwise_cons.mpr ⟨List.forall_mem_cons.mpr ⟨?_, fun r member => ?_⟩, sorted⟩
      · exact (Nat.lt_or_eq_of_le short).imp_right fun same => ⟨same, less⟩
      · -- later phrases have at most as many words as the one in front of them
        have between : (Text.words r).length ≤ (Text.words q).length :=
          (head r member).elim Nat.le_of_lt fun same => Nat.le_of_eq same.1
        exact (Nat.lt_or_eq_of_le (Nat.le_trans between short)).imp_right fun same =>
          ⟨same, first r member⟩
    next long =>
      refine List.pairwise_cons.mpr ⟨fun r member => ?_, ih first tail⟩
      rcases (mem_insertPhrase p r ps).mp member with rfl | later
      · exact .inl (Nat.lt_of_not_le long)
      · exact head r later

theorem pairwise_phrases : l.phrases.Pairwise Text.TriedBefore := by
  unfold phrases
  simp only
  generalize WordSet.ofList _ = s
  obtain ⟨ps, increasing⟩ := s
  change (ps.foldr insertPhrase []).Pairwise Text.TriedBefore
  induction ps with
  | nil => exact .nil
  | cons p ps ih =>
    obtain ⟨first, later⟩ := List.pairwise_cons.mp increasing
    refine pairwise_insertPhrase p _ (fun q member => first q ?_) (ih later)
    exact (mem_foldr_insertPhrase q ps).mp member

theorem mem_phrases (p : Text) :
    p ∈ l.phrases ↔
      p ∈ l.multiWordVerbs.map Text.normal ∨ ∃ e ∈ l.verbs, p ∈ e.forms ∧ ' ' ∈ p := by
  have forms : p ∈ (l.verbs.flatMap fun e => e.forms.toList).filter (·.contains ' ') ↔
      ∃ e ∈ l.verbs, p ∈ e.forms ∧ ' ' ∈ p := by
    rw [List.mem_filter, List.mem_flatMap, List.contains_iff_mem]
    constructor
    · rintro ⟨⟨e, entry, form⟩, spaced⟩
      exact ⟨e, entry, form, spaced⟩
    · rintro ⟨e, entry, form, spaced⟩
      exact ⟨⟨e, entry, form⟩, spaced⟩
  rw [← forms, ← List.mem_append]
  exact (mem_foldr_insertPhrase p _).trans WordSet.mem_ofList

theorem normal_of_mem_phrases (forms : l.HasNormalForms) (p : Text) (listed : p ∈ l.phrases) :
    Text.normal p = p := by
  rcases (l.mem_phrases p).mp listed with multiWord | ⟨e, entry, form, -⟩
  · obtain ⟨u, -, rfl⟩ := List.mem_map.mp multiWord
    exact Text.normal_normal u
  · exact forms e (List.mem_append_left _ entry) p form

/-! ### Finding a phrase -/

/-- Whether there is a word in every phrase. -/
def PhrasesHaveWords (l : Lexicon) : Prop := ∀ p ∈ l.phrases, Text.words p ≠ []

/-- No verb is found where there are no words. -/
theorem findVerb_nil (worded : l.PhrasesHaveWords) : l.findVerb [] = .ok none := by
  have nowhere : l.phraseIn? [] = none := by
    apply List.find?_eq_none.mpr
    intro p listed occurs
    have inside := Text.words_infix p _ ((Text.occursIn_iff _ _).mp occurs)
    exact worded p listed (List.infix_nil.mp inside)
  rw [findVerb, nowhere]
  rfl

/-- Words that are a phrase as a whole are found as that phrase. -/
theorem phraseIn?_eq_self (forms : l.HasNormalForms) (ws : List Text) (p : Text)
    (listed : p ∈ l.phrases) (whole : Text.unwords (ws.map Text.normal) = p) :
    l.phraseIn? ws = some p := by
  have words : Text.words (' ' :: p ++ [' ']) = Text.words p := by
    have front := Text.words_cons_blank (p ++ [' ']) ' ' Text.isBlank_space
    have behind := Text.words_append_blank p [] ' ' Text.isBlank_space
    exact front.trans (behind.trans (List.append_nil _))
  rw [phraseIn?, whole]
  cases found : l.phrases.find? fun q => Text.occursIn (' ' :: q ++ [' ']) (' ' :: p ++ [' ']) with
  | none =>
    refine absurd ?_ (List.find?_eq_none.mp found p listed)
    exact (Text.occursIn_iff _ _).mpr (List.infix_refl _)
  | some q =>
    have occurs := List.find?_some found
    have inside := Text.words_infix q _ ((Text.occursIn_iff _ _).mp occurs)
    rw [words] at inside
    -- the whole phrase could be found as well, so it has no more words than the one that is found
    have longest : (Text.words p).length ≤ (Text.words q).length := by
      rcases eq_or_rel_of_find? _ _ q p l.pairwise_phrases found listed
        ((Text.occursIn_iff _ _).mpr (List.infix_refl _)) with rfl | more | ⟨same, -⟩
      · exact Nat.le_refl _
      · exact Nat.le_of_lt more
      · exact Nat.le_of_eq same
    have same : Text.words q = Text.words p :=
      inside.eq_of_length (Nat.le_antisymm inside.length_le longest)
    -- both phrases are in normal form, so they are equal if their words are
    have listed' : q ∈ l.phrases := List.mem_of_find?_eq_some found
    rw [← Text.unwords_words_of_normal q (l.normal_of_mem_phrases forms q listed'), same,
      Text.unwords_words_of_normal p (l.normal_of_mem_phrases forms p listed)]

/-- Several words that are a synonym of a verb as a whole are found as that verb. -/
theorem findVerb_of_synonym (forms : l.HasNormalForms) (agree : l.verbs.Pairwise Entry.Agree)
    (e : Entry) (entry : e ∈ l.verbs) (named : e.canonical ≠ []) (ws : List Text)
    (several : 2 ≤ ws.length) (synonym : Text.unwords (ws.map Text.normal) ∈ e.synonyms) :
    l.findVerb ws = .ok (some e.canonical) := by
  generalize whole : Text.unwords (ws.map Text.normal) = p at synonym
  have form : p ∈ e.forms := (e.mem_forms p).mpr (.inr synonym)
  have spaced : ' ' ∈ p := by
    obtain ⟨w, v, vs, rfl⟩ : ∃ w v vs, ws = w :: v :: vs := by
      match ws, several with
      | w :: v :: vs, _ => exact ⟨w, v, vs, rfl⟩
    rw [← whole, List.map_cons, List.map_cons, Text.unwords_cons, Text.afterWord_cons]
    exact List.mem_append_right _ List.mem_cons_self
  have listed : p ∈ l.phrases := (l.mem_phrases p).mpr (.inr ⟨e, entry, form, spaced⟩)
  have verb : l.verb? p = some e.canonical := by
    rw [verb?, canonicalVerb, forms e (List.mem_append_left _ entry) p form,
      canonicalIn_of_mem_forms l.verbs agree e entry p form]
    exact (nonempty?_eq_some _ _).mpr ⟨named, rfl⟩
  rw [findVerb, l.phraseIn?_eq_self forms ws p listed whole]
  simp only [verbOfPhrase, verb, Except.map]

end Lexicon

end TextAdventure
