import TextAdventure.Proofs.Lexicon.Phrases
import TextAdventure.Proofs.Pattern.RoundTrip
import TextAdventure.Proofs.Rulebook.Separation

/-!
Binding a rule to a lexicon. The words of the rule and those of the player are replaced by canonical
forms alike, so a reading of the player's words is still one after both are replaced
(`Rule.isSome_captures?_bind`). Only a capture can lose by it, if a word that it takes becomes one that
it may not take.
-/
namespace TextAdventure

open Text (IsWord unwords)

/-! ### Words in normal form -/

/-- Whether it is a word in normal form without a dotless i, which is compared as if it were an
ordinary one. -/
structure Text.IsNormalWord (u : Text) : Prop where
  word : IsWord u
  normal_eq : Text.normal u = u
  dotted : 'ı' ∉ u

instance (u : Text) : Decidable (Text.IsNormalWord u) :=
  decidable_of_iff (IsWord u ∧ Text.normal u = u ∧ 'ı' ∉ u)
    ⟨fun ⟨word, normal, dotted⟩ => ⟨word, normal, dotted⟩,
      fun ⟨word, normal, dotted⟩ => ⟨word, normal, dotted⟩⟩

namespace Text.IsNormalWord

variable {u w : Text}

theorem casefold_eq (plain : IsNormalWord u) : casefold u = u := by
  rw [← normal_of_isWord u plain.word, plain.normal_eq]

theorem sameLetters_iff (plain : IsNormalWord w) (plain' : IsNormalWord u) :
    sameLetters w u = true ↔ w = u :=
  sameLetters_iff_eq w u plain.casefold_eq plain'.casefold_eq plain.dotted plain'.dotted

end Text.IsNormalWord

theorem Pattern.IsFoldedWord.isNormalWord {w : Text} (folded : IsFoldedWord w) :
    Text.IsNormalWord w := by
  have word : IsWord w := by
    refine ⟨folded.1, fun c member => ?_⟩
    have inWord := folded.2 c member
    have ascii := toNat_lt_of_isSpelledChar c (isSpelledChar_of_isFoldedChar c inWord)
    revert inWord
    exact Text.forall_ascii (by decide) c ascii
  refine ⟨word, ?_, fun dotted => ?_⟩
  · rw [Text.normal_of_isWord w word, casefold_of_isFoldedWord w folded]
  · exact absurd (folded.2 _ dotted) (by decide)

/-! ### Expansion -/

section

variable (l : Lexicon)

/-- Whether every canonical form is a name without a dotless i. -/
def Lexicon.HasNames : Prop :=
  ∀ e ∈ l.verbs ++ l.directions, IsStretch isNameChar e.canonical ∧ 'ı' ∉ e.canonical

instance : Decidable l.HasNames :=
  inferInstanceAs (Decidable (∀ e ∈ l.verbs ++ l.directions,
    IsStretch isNameChar e.canonical ∧ 'ı' ∉ e.canonical))

theorem Lexicon.HasNames.hasSolidForms {l : Lexicon} (names : l.HasNames) : l.HasSolidForms :=
  fun e member c inside => isBlank_of_isNameChar c ((names e member).1.2 c inside)

theorem Lexicon.isNormalWord_canonicalWord (forms : l.HasNormalForms) (names : l.HasNames)
    (u : Text) (plain : Text.IsNormalWord u) : Text.IsNormalWord (l.canonicalWord u) := by
  refine ⟨l.isWord_canonicalWord names.hasSolidForms u plain.word,
    l.normal_canonicalWord forms u, ?_⟩
  rcases l.canonicalWord_cases u with same | ⟨-, e, member, canonical⟩
  · rw [same, plain.normal_eq]
    exact plain.dotted
  · rw [← canonical]
    exact (names e member).2

/-- A name stays a name. -/
theorem Lexicon.isNameChar_canonicalWord (names : l.HasNames) (u : Text)
    (plain : Text.IsNormalWord u) (named : ∀ d ∈ u, isNameChar d = true) :
    ∀ d ∈ l.canonicalWord u, isNameChar d = true := by
  rcases l.canonicalWord_cases u with same | ⟨-, e, member, canonical⟩
  · rw [same, plain.normal_eq]
    exact named
  · rw [← canonical]
    exact (names e member).1.2

/-! ### Readings -/

theorem Choice.Accepts.expand {c : Choice} {u : Text} (accepted : c.Accepts id u)
    (own : ∀ w ∈ c.words, Text.IsNormalWord w) (plain : Text.IsNormalWord u) :
    c.Accepts l.canonicalWord (l.canonicalWord u) := by
  -- words in normal form that equal each other up to case are the same, and so are their expansions
  obtain ⟨w, named, same⟩ := accepted
  obtain rfl := ((own w named).sameLetters_iff plain).mp same
  exact ⟨w, named, Text.sameLetters_refl _⟩

/-- Whether expansion makes none of the words one that a capture of the pattern may not take, apart
from words that the same capture may not take as they are. -/
def Pattern.StaysApart (p : Pattern) (ws : List Text) : Prop :=
  ∀ (i : Nat) (name : Text), p.elements[i]? = some (.capture name) →
    ∀ u ∈ ws, u ∉ p.excludedAt i → ∀ w ∈ p.excludedAt i, l.canonicalWord u ≠ l.canonicalWord w

variable (forms : l.HasNormalForms) (names : l.HasNames)

include forms names

/-- What an element takes it takes after expansion, if no word becomes one that it may not take. -/
theorem Element.Accepts.expandWords {excluded : List Text} {e : Element} {share : List Text}
    (accepted : e.Accepts id excluded share) (own : ∀ w ∈ e.words, Text.IsNormalWord w)
    (others : ∀ w ∈ excluded, Text.IsNormalWord w) (plain : ∀ u ∈ share, Text.IsNormalWord u)
    (apart : ∀ name, e = .capture name → ∀ u ∈ share, u ∉ excluded →
      ∀ w ∈ excluded, l.canonicalWord u ≠ l.canonicalWord w) :
    e.Accepts l.canonicalWord excluded (l.expandWords share) := by
  cases e with
  | choice c =>
    obtain ⟨u, rfl, accepts⟩ := accepted
    exact ⟨l.canonicalWord u, rfl, accepts.expand l own (plain u (List.mem_singleton_self u))⟩
  | optional c cs =>
    refine accepted.imp (congrArg l.expandWords) fun words => ?_
    obtain ⟨length, each⟩ := List.forall₂_iff_zip.mp words
    refine List.forall₂_map_right_iff.mpr (List.forall₂_iff_zip.mpr ⟨length, fun member => ?_⟩)
    obtain ⟨inPhrase, inShare⟩ := List.of_mem_zip member
    exact (each member).expand l (fun w named => own w (List.mem_flatMap.mpr ⟨_, inPhrase, named⟩))
      (plain _ inShare)
  | capture name =>
    obtain ⟨nonempty, words⟩ := accepted
    refine ⟨fun empty => nonempty (List.map_eq_nil_iff.mp empty), fun v member => ?_⟩
    obtain ⟨u, inside, rfl⟩ := List.mem_map.mp member
    obtain ⟨named, different⟩ := words u inside
    refine ⟨l.isNameChar_canonicalWord names u (plain u inside) named, fun w listed => ?_⟩
    -- the word is not excluded as it is, so it may not become what an excluded word becomes
    have outside : u ∉ excluded := fun listed => by
      have same := different u listed
      rw [id_eq, Text.sameLetters_refl] at same
      cases same
    refine eq_false_of_ne_true fun same => apart name rfl u inside outside w listed ?_
    exact (((l.isNormalWord_canonicalWord forms names w (others w listed)).sameLetters_iff
      (l.isNormalWord_canonicalWord forms names u (plain u inside))).mp same).symm
  | wildcard => trivial

theorem Pattern.IsReading.expandWords {p : Pattern} {ws : List Text} {shares : List (List Text)}
    (reading : p.IsReading id ws shares) (own : p.IsWellFormed)
    (plain : ∀ u ∈ ws, Text.IsNormalWord u) (apart : p.StaysApart l ws) :
    p.IsReading l.canonicalWord (l.expandWords ws) (shares.map l.expandWords) := by
  refine ⟨(List.length_map _).trans reading.length_eq, ?_, fun i e share' atElement atShare => ?_⟩
  · rw [← reading.flatten_eq, Lexicon.expandWords, List.map_flatten]
    rfl
  · rw [List.getElem?_map] at atShare
    obtain ⟨share, atShare', rfl⟩ := Option.map_eq_some_iff.mp atShare
    have within : ∀ u ∈ share, u ∈ ws := fun u member => by
      rw [← reading.flatten_eq]
      exact List.mem_flatten_of_mem (List.mem_of_getElem? atShare') member
    have words (f : Element) (listed : f ∈ p.elements) (w : Text) (named : w ∈ f.words) :
        Text.IsNormalWord w := ((own f listed).words w named).isNormalWord
    refine (reading.accepts i e share atElement atShare').expandWords l forms names
      (words e (List.mem_of_getElem? atElement)) (fun w listed => ?_)
      (fun u member => plain u (within u member)) ?_
    · obtain ⟨f, front, named⟩ := mem_excludedWords _ w listed
      exact words f (List.mem_of_mem_take (List.mem_reverse.mp front)) w named
    · rintro name rfl u member
      exact apart i name atElement u (within u member)

end

/-! ### Rules -/

/-- A rule that fits the player's words as they are fits them after expansion as well, once it is
bound to the lexicon. -/
theorem Rule.isSome_captures?_bind (v : Vocabulary) (l : Lexicon) (tables : l = .ofVocabulary v)
    (names : l.HasNames) (source : RuleSource) (r : Rule)
    (compiled : Rule.compile id source = .ok r) (ws : List Text)
    (plain : ∀ u ∈ ws, Text.IsNormalWord u) (apart : r.pattern.StaysApart l ws)
    (fits : (r.captures? (unwords ws)).isSome = true) :
    ((r.bind l.canonicalWord).captures? (unwords (l.expandWords ws))).isSome = true := by
  have forms : l.HasNormalForms := tables ▸ Lexicon.hasNormalForms_ofVocabulary v
  obtain ⟨parsed, -, bound⟩ := (Rule.compile_eq_ok id source r).mp compiled
  have words : ∀ e ∈ r.pattern.elements, ∀ w ∈ e.words, IsWord w :=
    Pattern.isWord_of_parse _ _ parsed
  have proper : ∀ u ∈ ws, IsWord u := fun u member => (plain u member).word
  have spelled : SpelledAsWords l.canonicalWord (r.bind l.canonicalWord).pattern.elements :=
    fun e member w named => l.isWord_canonicalWord names.hasSolidForms w (words e member w named)
  rw [captures?, Option.isSome_map] at fits ⊢
  obtain ⟨shares, reading⟩ := (r.isSome_spans?_iff id bound words ws proper).mp fits
  refine ((r.bind l.canonicalWord).isSome_spans?_iff l.canonicalWord rfl spelled _
    (l.isWord_of_mem_expandWords names.hasSolidForms ws proper)).mpr ?_
  have wellFormed := Pattern.isWellFormed_of_parse _ _ parsed
  exact ⟨_, reading.expandWords l forms names wellFormed plain apart⟩

/-- Each capture only exempts words of its own: `into`, which the last capture may not take, becomes
what the capture in front of it may not take, and the rule fits no longer. -/
example :
    let harbor := Lexicon.ofVocabulary { directions := .ofPairs [("to".toList, ["into".toList])] }
    (Rule.compile id ⟨"<cargo> [to] <ship> [into] <hold>".toList, "LOAD".toList⟩).map (fun r =>
      ((r.captures? "grain into sacks".toList).isSome,
        ((r.bind harbor.canonicalWord).captures? "grain to sacks".toList).isSome)) =
      .ok (true, false) := by decide +kernel

/-- A lexicon that puts `outside` for `out`, which is excluded from a place, and `get` for verbs. -/
def porchVocabulary : Vocabulary where
  verbs := .ofPairs [("get".toList, ["take".toList, "grab".toList])]
  directions := .ofPairs [("outside".toList, ["out".toList])]

theorem porch_fits :
    ∃ r, Rule.compile id ⟨"take/grab [the] <item> [from/out] <place>".toList, "TAKE".toList⟩ =
        .ok r ∧
      (r.captures? "grab the lamp out oak chest".toList).isSome = true ∧
      ((r.bind (Lexicon.ofVocabulary porchVocabulary).canonicalWord).captures?
        "get the lamp outside oak chest".toList).isSome = true := by
  have compiled : (Rule.compile id
      ⟨"take/grab [the] <item> [from/out] <place>".toList, "TAKE".toList⟩).map
        (fun r => (r.pattern.elements, (r.captures? "grab the lamp out oak chest".toList).isSome)) =
      .ok ([.choice ⟨"take".toList, ["grab".toList]⟩, .optional (.single "the".toList) [],
        .capture "item".toList, .optional ⟨"from".toList, ["out".toList]⟩ [],
        .capture "place".toList], true) := by decide +kernel
  obtain ⟨r, read, both⟩ := (map_eq_ok _ _ _).mp compiled
  obtain ⟨shape, fits⟩ := Prod.mk.inj both
  refine ⟨r, read, fits, ?_⟩
  have apart : r.pattern.StaysApart (.ofVocabulary porchVocabulary)
      (["grab", "the", "lamp", "out", "oak", "chest"].map String.toList) := by
    intro i name captures
    have less := (List.getElem?_eq_some_iff.mp captures).1
    clear captures
    rw [Pattern.excludedAt, shape]
    rw [shape] at less
    revert i
    decide +kernel
  exact r.isSome_captures?_bind porchVocabulary _ rfl (by decide +kernel) _ read _
    (by decide +kernel) apart fits

end TextAdventure
