import Mathlib.Data.List.TakeWhile
import TextAdventure.Proofs.Rulebook.Separation

/-!
Leaving out optional text. An optional phrase behind words that must be said can be said or not
without a difference for the rest of the pattern (`Rule.captures?_of_omitted`): the rest is read
from the words behind it, and what a capture in the rest may not take does not depend on the phrase,
since the phrase stands behind no capture. What counts as saying the phrase ignores case, as all
matching does (`take_capitals`).
-/
namespace TextAdventure

open Text (IsWord unwords)

/-! ### What stands in front -/

/-- Elements in front matter only by the words that they keep from captures. -/
theorem readings_congr_before (spell : Text → Text) (before before' es : List Element)
    (us : List Text)
    (same : ∀ front, excludedWords (front ++ before) = excludedWords (front ++ before')) :
    readings spell before es us = readings spell before' es us := by
  induction es generalizing before before' us with
  | nil => rfl
  | cons e es ih =>
    have sizes : e.sizes spell before us = e.sizes spell before' us := by
      have excluded : excludedWords before = excludedWords before' := same []
      cases e <;> simp only [Element.sizes, Element.takes, excluded]
    have rest (m : Nat) := ih (e :: before) (e :: before') (us.drop m) fun front => by
      simpa using same (front ++ [e])
    simp only [readings, sizes, rest]

/-- Optional text behind words that must be said keeps nothing from captures. -/
theorem excludedWords_optional (front : List Element) (o : OptionalPhrase) (cs : List Choice) :
    excludedWords (front ++ o.element :: (cs.map Element.choice).reverse) =
      excludedWords (front ++ (cs.map Element.choice).reverse) := by
  rw [← List.map_reverse]
  cases stop : front.dropWhile fun e => !e.isRequired with
  | nil =>
    -- the nearest element that must be there is one of the choices, or there is none
    have free := List.dropWhile_eq_nil_iff.mp stop
    rw [excludedWords, excludedWords, List.dropWhile_append_of_pos free,
      List.dropWhile_append_of_pos free]
    cases cs.reverse <;> rfl
  | cons e es =>
    have short : (front.takeWhile fun e => !e.isRequired).length ≠ front.length := by
      have parts := congrArg List.length
        (List.takeWhile_append_dropWhile (p := fun e : Element => !e.isRequired) (l := front))
      rw [List.length_append, stop, List.length_cons] at parts
      omega
    simp only [excludedWords, List.dropWhile_append, List.takeWhile_append, stop, if_neg short,
      List.isEmpty_cons, Bool.false_eq_true, if_false, List.cons_append]
    cases e <;> rfl

/-! ### What stands behind -/

/-- Optional text is said if that leaves words that the rest can take, else it is left out. -/
theorem head?_readings_optional (spell : Text → Text) (before : List Element) (o : OptionalPhrase)
    (rest : List Element) (us : List Text) :
    (readings spell before (o.element :: rest) us).head?.map (capturedPhrases (o.element :: rest)) =
      (if acceptsAll spell o.choices us then
        (readings spell (o.element :: before) rest (us.drop o.choices.length)).head?.map
          (capturedPhrases rest)
      else none).or
        ((readings spell (o.element :: before) rest us).head?.map (capturedPhrases rest)) := by
  have sizes : o.element.sizes spell before us =
      (if acceptsAll spell o.choices us then [o.choices.length] else []) ++ [0] := rfl
  have skipped (share : List Text) :
      capturedPhrases (o.element :: rest) ∘ (share :: ·) = capturedPhrases rest := rfl
  rw [readings, sizes]
  split <;> simp [Option.map_or, Option.map_map, skipped]

/-- What a rule takes with optional text behind words that must be said, told by what the rest of
its pattern takes right behind those words. -/
theorem Rule.captures?_behind_optional (spell : Text → Text) (r : Rule)
    (bound : r.regex = r.pattern.regex spell) (spelled : SpelledAsWords spell r.pattern.elements)
    (ls : List Choice) (o : OptionalPhrase) (rest : List Element)
    (shape : r.pattern.elements = ls.map .choice ++ o.element :: rest) (l us : List Text)
    (leads : List.Forall₂ (Choice.Accepts spell) ls l) (proper : ∀ u ∈ us, IsWord u) :
    r.captures? (unwords (l ++ us)) =
      (if acceptsAll spell o.choices us then
        (readings spell (ls.map .choice).reverse rest (us.drop o.choices.length)).head?.map
          (capturedPhrases rest)
      else none).or
        ((readings spell (ls.map .choice).reverse rest us).head?.map (capturedPhrases rest)) := by
  have same (vs : List Text) := readings_congr_before spell
    (o.element :: (ls.map .choice).reverse) (ls.map .choice).reverse rest vs
    fun front => excludedWords_optional front o ls
  rw [r.captures?_behind_choices spell bound spelled ls _ shape l us leads proper,
    head?_readings_optional, same, same]

/-- Behind words that must be said optional text makes no difference: if what follows it can be read
without it then it can be said, and if it is not said then the pattern may as well not have it. -/
theorem Rule.captures?_of_omitted (spell : Text → Text) (source source' : RuleSource) (r r' : Rule)
    (compiled : Rule.compile spell source = .ok r)
    (compiled' : Rule.compile spell source' = .ok r')
    (spelled : SpelledAsWords spell r.pattern.elements) (ls : List Choice) (o : OptionalPhrase)
    (rest : List Element) (shape : r.pattern.elements = ls.map .choice ++ o.element :: rest)
    (shape' : r'.pattern.elements = ls.map .choice ++ rest) (l t : List Text)
    (leads : List.Forall₂ (Choice.Accepts spell) ls l) (proper : ∀ u ∈ t, IsWord u) :
    (∀ said, List.Forall₂ (Choice.Accepts spell) o.choices said →
      (r'.captures? (unwords (l ++ t))).isSome →
        r.captures? (unwords (l ++ said ++ t)) = r'.captures? (unwords (l ++ t))) ∧
    ((∀ said, List.Forall₂ (Choice.Accepts spell) o.choices said → ¬said <+: t) →
      r.captures? (unwords (l ++ t)) = r'.captures? (unwords (l ++ t))) := by
  obtain ⟨-, -, bound⟩ := (Rule.compile_eq_ok spell source r).mp compiled
  obtain ⟨-, -, bound'⟩ := (Rule.compile_eq_ok spell source' r').mp compiled'
  have listed : o.element ∈ r.pattern.elements := by simp [shape]
  have spelled' : SpelledAsWords spell r'.pattern.elements := by
    intro e member
    rw [shape'] at member
    refine spelled e ?_
    rw [shape]
    exact ((List.sublist_cons_self _ _).append_left _).subset member
  have whole (us : List Text) (words : ∀ u ∈ us, IsWord u) :=
    r.captures?_behind_optional spell bound spelled ls o rest shape l us leads words
  have without : r'.captures? (unwords (l ++ t)) = _ :=
    r'.captures?_behind_choices spell bound' spelled' ls rest shape' l t leads proper
  constructor
  · intro said accepted matched
    have words : ∀ u ∈ said, IsWord u := by
      intro u member
      obtain ⟨c, inside, accepts⟩ := exists_of_mem_right accepted u member
      exact accepts.isWord fun w named =>
        spelled _ listed w (List.mem_flatMap.mpr ⟨c, inside, named⟩)
    -- the phrase is read as said first, and then the rest has the words that it has without it
    have begins : acceptsAll spell o.choices (said ++ t) = true := by
      rw [acceptsAll_iff, accepted.length_eq, List.take_left, List.length_append]
      exact ⟨Nat.le_add_right _ _, accepted⟩
    rw [without] at matched
    rw [without, List.append_assoc, whole _ (List.forall_mem_append.mpr ⟨words, proper⟩),
      if_pos begins, accepted.length_eq, List.drop_left, Option.or_of_isSome matched]
  · intro unsaid
    have none : ¬acceptsAll spell o.choices t = true := fun begins =>
      unsaid _ ((acceptsAll_iff _ _ _).mp begins).2 (List.take_prefix _ t)
    rw [without, whole t proper, if_neg none, Option.none_or]

/-- The phrase has two words, and behind it there are captures, optional text and a wildcard. -/
theorem lift_omitted :
    ∃ r r', Rule.compile shortened
        ⟨"lift/raise [up the/a] <item> [into] <place> *".toList, "LIFT".toList⟩ = .ok r ∧
      Rule.compile shortened ⟨"lift/raise <item> [into] <place> *".toList, "LIFT".toList⟩ =
        .ok r' ∧
      r.captures? "RAISE Up a ring in box today".toList =
        r'.captures? "RAISE ring in box today".toList ∧
      r.captures? "RAISE ring in box today".toList =
        r'.captures? "RAISE ring in box today".toList ∧
      r'.captures? "RAISE ring in box today".toList =
        some [("item".toList, "ring".toList), ("place".toList, "box".toList)] := by
  have compiled : (Rule.compile shortened
      ⟨"lift/raise [up the/a] <item> [into] <place> *".toList, "LIFT".toList⟩).map
        (fun r => r.pattern.elements) =
      .ok ([⟨"lift".toList, ["raise".toList]⟩].map .choice ++
        (⟨.single "up".toList, [⟨"the".toList, ["a".toList]⟩]⟩ : OptionalPhrase).element ::
          [.capture "item".toList, .optional (.single "into".toList) [], .capture "place".toList,
            .wildcard]) := by decide +kernel
  have compiled' : (Rule.compile shortened
      ⟨"lift/raise <item> [into] <place> *".toList, "LIFT".toList⟩).map
        (fun r => (r.pattern.elements, r.captures? "RAISE ring in box today".toList)) =
      .ok ([⟨"lift".toList, ["raise".toList]⟩].map .choice ++
          [.capture "item".toList, .optional (.single "into".toList) [], .capture "place".toList,
            .wildcard],
        some [("item".toList, "ring".toList), ("place".toList, "box".toList)]) := by
    decide +kernel
  obtain ⟨r, read, shape⟩ := (map_eq_ok _ _ _).mp compiled
  obtain ⟨r', read', both⟩ := (map_eq_ok _ _ _).mp compiled'
  obtain ⟨shape', captured⟩ := Prod.mk.inj both
  have spelled : SpelledAsWords shortened r.pattern.elements := by
    rw [shape]
    decide +kernel
  obtain ⟨said, unsaid⟩ := Rule.captures?_of_omitted shortened _ _ r r' read read' spelled _ _ _
    shape shape' ["RAISE".toList] (["ring", "in", "box", "today"].map String.toList)
    (.cons ⟨"raise".toList, by decide, by decide +kernel⟩ .nil) (by decide +kernel)
  refine ⟨r, r', read, read', ?_, ?_, captured⟩
  · exact said ["Up".toList, "a".toList]
      (.cons ⟨"up".toList, by decide, by decide +kernel⟩
        (.cons ⟨"a".toList, by decide, by decide +kernel⟩ .nil)) (Option.isSome_of_eq_some captured)
  · refine unsaid ?_
    rintro words (_ | ⟨first, _⟩) begins
    obtain ⟨rfl, -⟩ := List.cons_prefix_cons.mp begins
    exact absurd ((Choice.accepts_iff _ _ _).mpr first) (by decide +kernel)

/-- A phrase in capitals is none of the pattern's own words, yet it is taken for the optional text:
without the optional text it is captured. -/
theorem take_capitals :
    ∃ r r', Rule.compile id ⟨"take [the] <item>".toList, "TAKE".toList⟩ = .ok r ∧
      Rule.compile id ⟨"take <item>".toList, "TAKE".toList⟩ = .ok r' ∧
      SpelledAsWords id r.pattern.elements ∧
      r.pattern.elements = [Choice.single "take".toList].map .choice ++
        (⟨.single "the".toList, []⟩ : OptionalPhrase).element :: [.capture "item".toList] ∧
      r'.pattern.elements =
        [Choice.single "take".toList].map .choice ++ [.capture "item".toList] ∧
      List.Forall₂ (Choice.Writes id) [Choice.single "take".toList] ["take".toList] ∧
      (∀ said, List.Forall₂ (Choice.Writes id) [Choice.single "the".toList] said →
        ¬said <+: ["THE".toList, "lamp".toList]) ∧
      r.captures? "take THE lamp".toList = some [("item".toList, "lamp".toList)] ∧
      r'.captures? "take THE lamp".toList = some [("item".toList, "THE lamp".toList)] := by
  have compiled : (Rule.compile id ⟨"take [the] <item>".toList, "TAKE".toList⟩).map
        (fun r => (r.pattern.elements, r.captures? "take THE lamp".toList)) =
      .ok ([Choice.single "take".toList].map .choice ++
        (⟨.single "the".toList, []⟩ : OptionalPhrase).element :: [.capture "item".toList],
        some [("item".toList, "lamp".toList)]) := by decide +kernel
  have compiled' : (Rule.compile id ⟨"take <item>".toList, "TAKE".toList⟩).map
        (fun r => (r.pattern.elements, r.captures? "take THE lamp".toList)) =
      .ok ([Choice.single "take".toList].map .choice ++ [.capture "item".toList],
        some [("item".toList, "THE lamp".toList)]) := by decide +kernel
  obtain ⟨r, read, both⟩ := (map_eq_ok _ _ _).mp compiled
  obtain ⟨r', read', both'⟩ := (map_eq_ok _ _ _).mp compiled'
  obtain ⟨shape, captured⟩ := Prod.mk.inj both
  obtain ⟨shape', captured'⟩ := Prod.mk.inj both'
  refine ⟨r, r', read, read', by rw [shape]; decide +kernel, shape, shape',
    .cons ⟨"take".toList, List.mem_singleton_self _, rfl⟩ .nil, ?_, captured, captured'⟩
  rintro said (_ | ⟨⟨w, named, rfl⟩, _ | _⟩) begins
  obtain rfl := List.mem_singleton.mp named
  exact absurd begins (by decide)

end TextAdventure
