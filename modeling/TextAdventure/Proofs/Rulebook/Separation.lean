import TextAdventure.Proofs.Pattern.Alignment
import TextAdventure.Proofs.Rulebook.Phrases

/-!
Two captures with optional phrases between them. The first capture stops as early as it can and the
second one may not take a word of the phrases, so the words that are said of the phrases separate
the two (`Rule.captures?_of_separated`): every reading divides what follows the first capture into
words of the phrases and words that are none (`split_of_mem_readings`), and there is only one such
division.
-/
namespace TextAdventure

open Text (IsWord unwords)

/-- The choices of an optional phrase. -/
structure OptionalPhrase where
  first : Choice
  others : List Choice
  deriving DecidableEq, Repr

namespace OptionalPhrase

def choices (o : OptionalPhrase) : List Choice := o.first :: o.others

def element (o : OptionalPhrase) : Element := .optional o.first o.others

end OptionalPhrase

/-- A choice of one word. -/
def Choice.single (w : Text) : Choice := ⟨w, []⟩

/-- Words that must be said, a capture, optional phrases and another capture. -/
def separatedElements (heads : List Text) (a : Text) (phrases : List OptionalPhrase) (b : Text) :
    List Element :=
  (heads.map Choice.single).map .choice ++
    .capture a :: (phrases.map OptionalPhrase.element ++ [.capture b])

section

variable (spell : Text → Text) (phrases : List OptionalPhrase)

/-- Whether the word is one of a phrase's words, case ignored. -/
def IsSeparator (u : Text) : Prop := ∃ o ∈ phrases, ∃ c ∈ o.choices, c.Accepts spell u

/-- Whether the word is a name that is none of the phrases' words. -/
structure IsPlainName (u : Text) : Prop where
  isName : IsStretch isNameChar u
  apart : ¬IsSeparator spell phrases u

instance (u : Text) : Decidable (IsSeparator spell phrases u) :=
  inferInstanceAs (Decidable (∃ o ∈ phrases, ∃ c ∈ o.choices, ∃ w ∈ c.words,
    Text.sameLetters (spell w) u = true))

instance (u : Text) : Decidable (IsPlainName spell phrases u) :=
  decidable_of_iff (IsStretch isNameChar u ∧ ¬IsSeparator spell phrases u)
    ⟨fun ⟨isName, apart⟩ => ⟨isName, apart⟩, fun ⟨isName, apart⟩ => ⟨isName, apart⟩⟩

variable {spell phrases}

theorem IsPlainName.isWord {u : Text} (plain : IsPlainName spell phrases u) : IsWord u :=
  ⟨plain.isName.1, fun d member => isBlank_of_isNameChar d (plain.isName.2 d member)⟩

/-- What is said of the phrases consists of their words. -/
theorem isSeparator_of_accepted (chosen : List OptionalPhrase) (sublist : chosen.Sublist phrases)
    (said : List Text)
    (accepted : List.Forall₂ (Choice.Accepts spell) (chosen.flatMap OptionalPhrase.choices) said) :
    ∀ u ∈ said, IsSeparator spell phrases u := by
  intro u member
  obtain ⟨c, inside, accepts⟩ := exists_of_mem_right accepted u member
  obtain ⟨o, taken, inPhrase⟩ := List.mem_flatMap.mp inside
  exact ⟨o, sublist.subset taken, c, inPhrase, accepts⟩

/-! ### What the captures accept -/

/-- The second capture is kept from the words of the phrases. -/
theorem mem_excludedWords_phrases (before : List Element) (a w : Text) :
    w ∈ excludedWords ((phrases.map OptionalPhrase.element).reverse ++ .capture a :: before) ↔
      ∃ o ∈ phrases, ∃ c ∈ o.choices, w ∈ c.words := by
  have free : ∀ e ∈ (phrases.map OptionalPhrase.element).reverse, (!e.isRequired) = true := by
    intro e member
    obtain ⟨o, -, rfl⟩ := List.mem_map.mp (List.mem_reverse.mp member)
    rfl
  have stop : (!(Element.capture a).isRequired) = false := rfl
  rw [excludedWords, List.dropWhile_append_of_pos free, List.takeWhile_append_of_pos free,
    List.dropWhile_cons, List.takeWhile_cons, stop]
  simp [OptionalPhrase.element, OptionalPhrase.choices, Element.words]

theorem accepts_capture_iff (before : List Element) (a b : Text) (share : List Text) :
    (Element.capture b).Accepts spell
        (excludedWords ((phrases.map OptionalPhrase.element).reverse ++ .capture a :: before))
        share ↔
      share ≠ [] ∧ ∀ u ∈ share, (∀ d ∈ u, isNameChar d = true) ∧ ¬IsSeparator spell phrases u := by
  simp only [Element.Accepts, mem_excludedWords_phrases]
  refine and_congr_right fun _ => forall₂_congr fun u _ => and_congr_right fun _ => ?_
  constructor
  · rintro different ⟨o, listed, c, inPhrase, w, named, same⟩
    rw [different w ⟨o, listed, c, inPhrase, named⟩] at same
    cases same
  · rintro apart w ⟨o, listed, c, inPhrase, named⟩
    exact eq_false_of_ne_true fun same => apart ⟨o, listed, c, inPhrase, w, named, same⟩

/-! ### Readings behind the first capture -/

/-- What follows the first capture is divided into words of the phrases and the second capture. -/
theorem split_of_mem_readings (before : List Element) (b : Text) (us : List Text)
    (shares : List (List Text))
    (member : shares ∈ readings spell before
      (phrases.map OptionalPhrase.element ++ [.capture b]) us) :
    ∃ said last, shares = said ++ [last] ∧ said.length = phrases.length ∧
      us = said.flatten ++ last ∧ (∀ u ∈ said.flatten, IsSeparator spell phrases u) ∧
      (Element.capture b).Accepts spell
        (excludedWords ((phrases.map OptionalPhrase.element).reverse ++ before)) last := by
  induction phrases generalizing before us shares with
  | nil =>
    obtain ⟨last, us', rest, rfl, rfl, accepted, done⟩ :=
      (mem_readings_cons spell before _ [] us shares).mp member
    obtain ⟨rfl, rfl⟩ : us' = [] ∧ rest = [] := by
      unfold readings at done
      split at done
      next empty => exact ⟨List.isEmpty_iff.mp empty, List.mem_singleton.mp done⟩
      · cases done
    exact ⟨[], last, rfl, rfl, List.append_nil last, List.forall_mem_nil _, accepted⟩
  | cons o os ih =>
    obtain ⟨share, us', rest, rfl, rfl, accepted, member'⟩ :=
      (mem_readings_cons spell before _ _ us shares).mp member
    obtain ⟨said, last, rfl, length, rfl, separators, taken⟩ := ih _ us' rest member'
    refine ⟨share :: said, last, rfl, congrArg Nat.succ length, ?_, ?_, ?_⟩
    · rw [List.flatten_cons, List.append_assoc]
    · rw [List.flatten_cons, List.forall_mem_append]
      constructor
      · rcases accepted with rfl | words
        · exact List.forall_mem_nil _
        · intro u inside
          exact ⟨o, List.mem_cons_self, exists_of_mem_right words u inside⟩
      · intro u inside
        obtain ⟨p, listed, found⟩ := separators u inside
        exact ⟨p, List.mem_cons_of_mem o listed, found⟩
    · rw [List.map_cons, List.reverse_cons, List.append_assoc]
      exact taken

/-- Some of the phrases may be said and the others left out. -/
theorem exists_mem_readings (before : List Element) (b : Text) (chosen : List OptionalPhrase)
    (sublist : chosen.Sublist phrases) (said ys : List Text)
    (accepted : List.Forall₂ (Choice.Accepts spell) (chosen.flatMap OptionalPhrase.choices) said)
    (taken : (Element.capture b).Accepts spell
      (excludedWords ((phrases.map OptionalPhrase.element).reverse ++ before)) ys) :
    ∃ shares, shares ∈ readings spell before
      (phrases.map OptionalPhrase.element ++ [.capture b]) (said ++ ys) := by
  induction sublist generalizing before said with
  | slnil =>
    obtain rfl : said = [] := List.forall₂_nil_left_iff.mp accepted
    refine ⟨[ys], (mem_readings_cons spell before _ [] _ _).mpr ?_⟩
    exact ⟨ys, [], [], (List.append_nil ys).symm, rfl, taken, List.mem_singleton_self []⟩
  | cons o _ ih =>
    -- the phrase is left out
    rw [List.map_cons, List.reverse_cons, List.append_assoc] at taken
    obtain ⟨rest, member⟩ := ih _ said accepted taken
    refine ⟨[] :: rest, (mem_readings_cons spell before _ _ _ _).mpr ?_⟩
    exact ⟨[], said ++ ys, rest, rfl, rfl, .inl rfl, member⟩
  | cons_cons o _ ih =>
    rw [List.map_cons, List.reverse_cons, List.append_assoc] at taken
    rw [List.flatMap_cons] at accepted
    have words := List.forall₂_take o.choices.length accepted
    have others := List.forall₂_drop o.choices.length accepted
    rw [List.take_left] at words
    rw [List.drop_left] at others
    obtain ⟨rest, member⟩ := ih _ _ others taken
    refine ⟨said.take o.choices.length :: rest, (mem_readings_cons spell before _ _ _ _).mpr ?_⟩
    refine ⟨_, said.drop o.choices.length ++ ys, rest, ?_, rfl, .inr words, member⟩
    rw [← List.append_assoc, List.take_append_drop]

/-- A list is divided in one way only into elements with a property and elements without it. -/
theorem append_inj_of_forall {α : Type} (P : α → Prop) {xs ys xs' ys' : List α}
    (equal : xs ++ ys = xs' ++ ys') (front : ∀ x ∈ xs, P x) (behind : ∀ y ∈ ys, ¬P y)
    (front' : ∀ x ∈ xs', P x) (behind' : ∀ y ∈ ys', ¬P y) : xs = xs' ∧ ys = ys' := by
  rcases List.append_eq_append_iff.mp equal with ⟨zs, rfl, rfl⟩ | ⟨zs, rfl, rfl⟩
  · have none : zs = [] := List.eq_nil_iff_forall_not_mem.mpr fun z member =>
      behind z (List.mem_append_left _ member) (front' z (List.mem_append_right _ member))
    simp [none]
  · have none : zs = [] := List.eq_nil_iff_forall_not_mem.mpr fun z member =>
      behind' z (List.mem_append_left _ member) (front z (List.mem_append_right _ member))
    simp [none]

theorem findSome?_range_of_first {α : Type} (f : Nat → Option α) (n k : Nat) (y : α) (less : k < n)
    (earlier : ∀ m < k, f m = none) (found : f k = some y) :
    (List.range n).findSome? f = some y := by
  induction k generalizing f n with
  | zero =>
    obtain ⟨n, rfl⟩ := Nat.exists_eq_succ_of_ne_zero (Nat.ne_of_gt less)
    rw [Regex.findSome?_range_succ, found, Option.some_or]
  | succ k ih =>
    obtain ⟨n, rfl⟩ := Nat.exists_eq_succ_of_ne_zero (Nat.ne_of_gt (Nat.zero_lt_of_lt less))
    have later := ih (fun m => f (m + 1)) n (Nat.lt_of_succ_lt_succ less)
      (fun m bound => earlier (m + 1) (Nat.succ_lt_succ bound)) found
    rw [Regex.findSome?_range_succ, earlier 0 (Nat.succ_pos k), Option.none_or, later]

section

variable (before : List Element) (a b : Text) (xs said ys : List Text)
  (plain : ∀ u ∈ xs ++ ys, IsPlainName spell phrases u)

include plain

/-- While words of the first capture are left over nothing separates the captures. -/
theorem readings_eq_nil_of_early (separators : ∀ u ∈ said, IsSeparator spell phrases u)
    (nonempty : xs ≠ []) (some : said ≠ []) :
    readings spell (.capture a :: before) (phrases.map OptionalPhrase.element ++ [.capture b])
      (xs ++ (said ++ ys)) = [] := by
  refine List.eq_nil_iff_forall_not_mem.mpr fun shares member => ?_
  obtain ⟨front, last, -, -, split, separators', accepted⟩ :=
    split_of_mem_readings _ b _ shares member
  obtain ⟨-, names⟩ := (accepts_capture_iff before a b last).mp accepted
  obtain ⟨x, xs, rfl⟩ := List.exists_cons_of_ne_nil nonempty
  -- the first word is no separator, so no phrase is said, and the second capture takes everything
  have none : front.flatten = [] := by
    cases taken : front.flatten with
    | nil => rfl
    | cons u us =>
      rw [taken] at split separators'
      obtain rfl : x = u := (List.cons.inj split).1
      exact absurd (separators' x List.mem_cons_self) (plain x List.mem_cons_self).apart
  obtain ⟨u, us, rfl⟩ := List.exists_cons_of_ne_nil some
  rw [none, List.nil_append] at split
  have inLast : u ∈ last := by
    rw [← split]
    simp
  exact (names u inLast).2 (separators u List.mem_cons_self)

/-- Behind the words of the first capture the second one takes the words that no phrase has. -/
theorem head?_readings_of_said (chosen : List OptionalPhrase) (sublist : chosen.Sublist phrases)
    (accepted : List.Forall₂ (Choice.Accepts spell) (chosen.flatMap OptionalPhrase.choices) said)
    (nonempty : ys ≠ []) :
    ∃ shares, (readings spell (.capture a :: before)
      (phrases.map OptionalPhrase.element ++ [.capture b]) (said ++ ys)).head? =
        some (shares ++ [ys]) ∧ shares.length = phrases.length := by
  have names : ∀ u ∈ ys, (∀ d ∈ u, isNameChar d = true) ∧ ¬IsSeparator spell phrases u :=
    fun u member =>
      have ends := plain u (List.mem_append_right _ member)
      ⟨ends.isName.2, ends.apart⟩
  have taken := (accepts_capture_iff before a b ys).mpr ⟨nonempty, names⟩
  obtain ⟨reading, member⟩ := exists_mem_readings _ b chosen sublist said ys accepted taken
  obtain ⟨shares, listed⟩ : ∃ shares, (readings spell (.capture a :: before)
      (phrases.map OptionalPhrase.element ++ [.capture b]) (said ++ ys)).head? = some shares :=
    Option.isSome_iff_exists.mp (List.isSome_head?.mpr (List.ne_nil_of_mem member))
  obtain ⟨front, last, rfl, length, split, separators, accepted'⟩ :=
    split_of_mem_readings _ b _ shares (List.mem_of_head? listed)
  obtain ⟨-, names'⟩ := (accepts_capture_iff before a b last).mp accepted'
  obtain ⟨-, rfl⟩ := append_inj_of_forall _ split
    (isSeparator_of_accepted chosen sublist said accepted) (fun u inside => (names u inside).2)
    separators fun u inside => (names' u inside).2
  exact ⟨front, listed, length⟩

/-- The first reading gives the first capture the words in front of what is said of the phrases, and
the second one the words behind it. Where nothing is said the first capture takes one word. -/
theorem head?_readings_separated (free : excludedWords before = []) (chosen : List OptionalPhrase)
    (sublist : chosen.Sublist phrases)
    (accepted : List.Forall₂ (Choice.Accepts spell) (chosen.flatMap OptionalPhrase.choices) said)
    (first : xs ≠ []) (last : ys ≠ []) (unique : said ≠ [] ∨ xs.length = 1) :
    ∃ shares, (readings spell before
      (.capture a :: (phrases.map OptionalPhrase.element ++ [.capture b]))
        (xs ++ (said ++ ys))).head? = some (xs :: (shares ++ [ys])) ∧
          shares.length = phrases.length := by
  obtain ⟨shares, listed, length⟩ := head?_readings_of_said before a b xs said ys plain chosen
    sublist accepted last
  refine ⟨shares, ?_, length⟩
  have names : ∀ u ∈ xs, Regex.admits [] u = true := fun u member => by
    have front := plain u (List.mem_append_left _ member)
    simpa [Regex.admits] using front.isName.2
  have bound : xs.length ≤ ((xs ++ (said ++ ys)).takeWhile (Regex.admits [])).length := by
    rw [List.takeWhile_append_of_pos names, List.length_append]
    exact Nat.le_add_right _ _
  have positive : 0 < xs.length := List.length_pos_iff.mpr first
  rw [readings, List.head?_flatMap]
  simp only [Element.sizes, Element.takes, Element.isRequired, free, List.map_nil, if_true,
    List.append_nil, List.findSome?_map]
  refine findSome?_range_of_first _ _ (xs.length - 1) _ (by omega) ?_ ?_
  · -- the capture is tried with fewer words first
    intro m less
    have early : (xs ++ (said ++ ys)).drop (m + 1) = xs.drop (m + 1) ++ (said ++ ys) :=
      List.drop_append_of_le_length (by omega)
    have left : xs.drop (m + 1) ≠ [] := List.ne_nil_of_length_pos (by rw [List.length_drop]; omega)
    have spoken : said ≠ [] := unique.resolve_right (by omega)
    have none := readings_eq_nil_of_early before a b (xs.drop (m + 1)) said ys
      (fun u member => plain u ?_) (isSeparator_of_accepted chosen sublist said accepted) left
      spoken
    · simp [early, none]
    · rcases List.mem_append.mp member with inFront | behind
      · exact List.mem_append_left _ (List.mem_of_mem_drop inFront)
      · exact List.mem_append_right _ behind
  · have whole : xs.length - 1 + 1 = xs.length := by omega
    simp [whole, listed]

end

end

/-! ### Rules -/

theorem excludedWords_choices (cs : List Choice) :
    excludedWords (cs.map Element.choice).reverse = [] := by
  rw [← List.map_reverse]
  cases cs.reverse <;> rfl

theorem capturedPhrases_separated (phrases : List OptionalPhrase) (a b : Text) (xs ys : List Text)
    (shares : List (List Text)) (length : shares.length = phrases.length) :
    capturedPhrases (.capture a :: (phrases.map OptionalPhrase.element ++ [.capture b]))
      (xs :: (shares ++ [ys])) = [(a, unwords xs), (b, unwords ys)] := by
  have free : ∀ e ∈ phrases.map OptionalPhrase.element, e.slot? = none := by
    intro e member
    obtain ⟨o, -, rfl⟩ := List.mem_map.mp member
    rfl
  have first : capturedPhrases (.capture a :: (phrases.map OptionalPhrase.element ++ [.capture b]))
      (xs :: (shares ++ [ys])) = (a, unwords xs) ::
        capturedPhrases (phrases.map OptionalPhrase.element ++ [.capture b]) (shares ++ [ys]) := rfl
  rw [first, capturedPhrases_append _ _ _ _ (by simp [length]),
    capturedPhrases_of_slotNames _ _ free]
  rfl

/-- The phrases of a rule with optional phrases between two captures, on words that the phrases
separate. -/
theorem Rule.captures?_of_accepted (spell : Text → Text) (r : Rule)
    (bound : r.regex = r.pattern.regex spell) (spelled : SpelledAsWords spell r.pattern.elements)
    (heads : List Text) (a b : Text) (phrases : List OptionalPhrase)
    (shape : r.pattern.elements = separatedElements heads a phrases b) (xs said ys : List Text)
    (chosen : List OptionalPhrase) (sublist : chosen.Sublist phrases)
    (accepted : List.Forall₂ (Choice.Accepts spell) (chosen.flatMap OptionalPhrase.choices) said)
    (first : xs ≠ []) (last : ys ≠ []) (plain : ∀ u ∈ xs ++ ys, IsPlainName spell phrases u)
    (unique : said ≠ [] ∨ xs.length = 1) :
    r.captures? (unwords (heads.map spell ++ (xs ++ (said ++ ys)))) =
      some [(a, unwords xs), (b, unwords ys)] := by
  have leads : List.Forall₂ (Choice.Accepts spell) (heads.map Choice.single) (heads.map spell) := by
    rw [List.forall₂_map_left_iff, List.forall₂_map_right_iff, List.forall₂_same]
    exact fun w _ => Choice.Writes.accepts ⟨w, List.mem_singleton_self w, rfl⟩
  have separators := isSeparator_of_accepted chosen sublist said accepted
  have proper : ∀ u ∈ xs ++ (said ++ ys), IsWord u := by
    intro u member
    rcases List.mem_append.mp member with front | behind
    · exact (plain u (List.mem_append_left _ front)).isWord
    · rcases List.mem_append.mp behind with between | behind
      · obtain ⟨o, listed, c, inside, accepts⟩ := separators u between
        have element : o.element ∈ r.pattern.elements := by
          rw [shape, separatedElements]
          exact List.mem_append_right _ (List.mem_cons_of_mem _
            (List.mem_append_left _ (List.mem_map_of_mem listed)))
        exact accepts.isWord fun w named =>
          spelled _ element w (List.mem_flatMap.mpr ⟨c, inside, named⟩)
      · exact (plain u (List.mem_append_right _ behind)).isWord
  obtain ⟨shares, listed, length⟩ := head?_readings_separated _ a b xs said ys plain
    (excludedWords_choices (heads.map Choice.single)) chosen sublist accepted first last unique
  rw [r.captures?_behind_choices spell bound spelled _ _ shape _ _ leads proper, listed,
    Option.map_some, capturedPhrases_separated phrases a b xs ys shares length]

/-- Between two captures whatever is said of the optional phrases separates them; if nothing is said
the first capture takes one word and the second one the others. -/
theorem Rule.captures?_of_separated (spell : Text → Text) (source : RuleSource) (r : Rule)
    (compiled : Rule.compile spell source = .ok r)
    (spelled : SpelledAsWords spell r.pattern.elements) (heads : List Text) (a b : Text)
    (phrases : List OptionalPhrase)
    (shape : r.pattern.elements = separatedElements heads a phrases b) :
    (∀ (xs said ys : List Text) (chosen : List OptionalPhrase), xs ≠ [] → said ≠ [] → ys ≠ [] →
      (∀ u ∈ xs ++ ys, IsPlainName spell phrases u) → chosen.Sublist phrases →
      List.Forall₂ (Choice.Writes spell) (chosen.flatMap OptionalPhrase.choices) said →
      r.captures? (unwords (heads.map spell ++ xs ++ said ++ ys)) =
        some [(a, unwords xs), (b, unwords ys)]) ∧
    ∀ (z : Text) (zs : List Text), zs ≠ [] → (∀ u ∈ z :: zs, IsPlainName spell phrases u) →
      r.captures? (unwords (heads.map spell ++ z :: zs)) = some [(a, z), (b, unwords zs)] := by
  obtain ⟨-, -, bound⟩ := (Rule.compile_eq_ok spell source r).mp compiled
  constructor
  · intro xs said ys chosen first some last plain sublist written
    have accepted := written.imp fun _ _ writes => writes.accepts
    rw [List.append_assoc, List.append_assoc]
    exact r.captures?_of_accepted spell bound spelled heads a b phrases shape xs said ys chosen
      sublist accepted first last plain (.inl some)
  · intro z zs last plain
    exact r.captures?_of_accepted spell bound spelled heads a b phrases shape [z] [] zs []
      (List.nil_sublist _) .nil (List.cons_ne_nil z []) last plain (.inr rfl)

/-- A spelling that shortens a word. -/
def shortened (w : Text) : Text := if w = "into".toList then "in".toList else w

/-- One phrase is left out and the other one, which has a word of `inside` in it, is said. -/
theorem hide_separated :
    ∃ r, Rule.compile shortened
        ⟨"hide away <item> [back] [into/under] <place>".toList, "HIDE".toList⟩ = .ok r ∧
      SpelledAsWords shortened r.pattern.elements ∧
      r.pattern.elements = separatedElements ["hide".toList, "away".toList] "item".toList
        [⟨.single "back".toList, []⟩, ⟨⟨"into".toList, ["under".toList]⟩, []⟩] "place".toList ∧
      (∀ u ∈ ["the", "king's", "ring", "inside", "pocket"].map String.toList,
        IsPlainName shortened
          [⟨.single "back".toList, []⟩, ⟨⟨"into".toList, ["under".toList]⟩, []⟩] u) ∧
      r.captures? "hide away the king's ring in inside pocket".toList =
        some [("item".toList, "the king's ring".toList),
          ("place".toList, "inside pocket".toList)] ∧
      r.captures? "hide away ring inside pocket".toList =
        some [("item".toList, "ring".toList), ("place".toList, "inside pocket".toList)] := by
  have compiled : (Rule.compile shortened
      ⟨"hide away <item> [back] [into/under] <place>".toList, "HIDE".toList⟩).map
        (fun r => r.pattern.elements) =
      .ok (separatedElements ["hide".toList, "away".toList] "item".toList
        [⟨.single "back".toList, []⟩, ⟨⟨"into".toList, ["under".toList]⟩, []⟩]
          "place".toList) := by decide +kernel
  obtain ⟨r, read, shape⟩ := (map_eq_ok _ _ _).mp compiled
  have spelled : SpelledAsWords shortened r.pattern.elements := by
    rw [shape]
    decide +kernel
  obtain ⟨said, unsaid⟩ := r.captures?_of_separated shortened _ read spelled _ _ _ _ shape
  refine ⟨r, read, spelled, shape, by decide +kernel, ?_, ?_⟩
  · exact said (["the", "king's", "ring"].map String.toList) ["in".toList]
      (["inside", "pocket"].map String.toList) [⟨⟨"into".toList, ["under".toList]⟩, []⟩]
      (by decide) (by decide) (by decide) (by decide +kernel) (.cons _ (.refl _))
      (.cons ⟨"into".toList, by decide, by decide⟩ .nil)
  · exact unsaid "ring".toList (["inside", "pocket"].map String.toList) (by decide)
      (by decide +kernel)

end TextAdventure
