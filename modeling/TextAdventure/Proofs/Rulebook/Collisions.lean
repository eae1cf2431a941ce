import TextAdventure.Proofs.Rulebook.Binding

/-!
Collisions. A word of a rule collides if synonym expansion turns it into another verb that has rules
of its own: the rule is then spelled with that verb, and takes lines that are meant for the other
rules. Collisions are sought among the verbs alone, while expansion falls back on the directions. So
a word that collides by being a verb is reported, and a direction that is spelled as a verb is not.
-/
namespace TextAdventure

/-- Whether expansion turns a word of the element into another word, a verb that heads one of the
rules and that the element does not name itself. -/
structure Lexicon.Collides (l : Lexicon) (rules : List Rule) (e : Element) (w : Text) : Prop where
  named : w ∈ e.words
  rewritten : l.canonicalWord w ≠ w
  heads : l.canonicalWord w ∈ patternVerbs rules l
  apart : l.canonicalWord w ∉ e.words

instance (l : Lexicon) (rules : List Rule) (e : Element) (w : Text) :
    Decidable (l.Collides rules e w) :=
  decidable_of_iff (e.words.contains w = true ∧ l.canonicalWord w ≠ w ∧
      l.canonicalWord w ∈ patternVerbs rules l ∧ ¬e.words.contains (l.canonicalWord w) = true)
    ⟨fun ⟨named, rewritten, heads, apart⟩ =>
        ⟨List.contains_iff_mem.mp named, rewritten, heads, mt List.contains_iff_mem.mpr apart⟩,
      fun ⟨named, rewritten, heads, apart⟩ =>
        ⟨List.contains_iff_mem.mpr named, rewritten, heads, mt List.contains_iff_mem.mp apart⟩⟩

theorem Lexicon.canonicalWord_of_verb (l : Lexicon) (w v : Text) (verb : l.verb? w = some v) :
    l.canonicalWord w = v := by
  rw [canonicalWord, verb]
  rfl

/-- The collisions of an element are its colliding words that are verbs. -/
theorem mem_elementCollisions (l : Lexicon) (rules : List Rule) (n : Nat) (r : Rule) (e : Element)
    (c : Collision) :
    c ∈ elementCollisions l (patternVerbs rules l) n r e ↔
      l.Collides rules e c.word ∧ l.verb? c.word = some c.verb ∧ c.index = n ∧
        c.rule = r.source := by
  rw [elementCollisions, List.mem_filterMap]
  constructor
  · rintro ⟨w, named, reported⟩
    split at reported
    next v verb =>
      split at reported
      next collides =>
        cases reported
        simp only [Bool.and_eq_true, bne_iff_ne, Bool.not_eq_true', List.contains_eq_mem,
          decide_eq_false_iff_not, WordSet.contains, decide_eq_true_eq] at collides
        obtain ⟨⟨rewritten, apart⟩, heads⟩ := collides
        -- what is checked of the verb holds of the expansion, which is the verb
        have same := l.canonicalWord_of_verb w v verb
        exact ⟨⟨named, same ▸ rewritten, same ▸ heads, same ▸ apart⟩, verb, rfl, rfl⟩
      · cases reported
    · cases reported
  · obtain ⟨index, rule, w, v⟩ := c
    rintro ⟨⟨named, rewritten, heads, apart⟩, verb, rfl, rfl⟩
    rw [l.canonicalWord_of_verb w v verb] at rewritten heads apart
    refine ⟨w, named, ?_⟩
    simp [verb, rewritten, apart, WordSet.contains, heads]

theorem mem_collisionsOf (l : Lexicon) (rules : List Rule) (c : Collision) :
    c ∈ collisionsOf rules l ↔
      ∃ r, rules[c.index]? = some r ∧ ∃ e ∈ r.pattern.elements,
        l.Collides rules e c.word ∧ l.verb? c.word = some c.verb ∧ c.rule = r.source := by
  simp only [collisionsOf, List.mem_flatMap, mem_elementCollisions]
  constructor
  · rintro ⟨⟨r, n⟩, member, e, inPattern, collides, verb, rfl, rule⟩
    exact ⟨r, List.mem_zipIdx_iff_getElem?.mp member, e, inPattern, collides, verb, rule⟩
  · rintro ⟨r, place, e, inPattern, collides, verb, rule⟩
    exact ⟨(r, c.index), List.mem_zipIdx_iff_getElem?.mpr place, e, inPattern, collides, verb, rfl,
      rule⟩

namespace Rulebook

/-- Whether the word is one of an element of the rule at a place, and collides there. -/
def CollidesAt (b : Rulebook) (l : Lexicon) (n : Nat) (w : Text) : Prop :=
  ∃ r, b.rules[n]? = some r ∧ ∃ e ∈ r.pattern.elements, l.Collides b.rules e w

instance (b : Rulebook) (l : Lexicon) (n : Nat) (w : Text) : Decidable (b.CollidesAt l n w) :=
  decidable_of_iff (∃ r ∈ b.rules[n]?, ∃ e ∈ r.pattern.elements, l.Collides b.rules e w) Iff.rfl

/-- In a rulebook that is built under a lexicon, a word of a rule is reported if and only if it
collides and is a verb, canonical or not. -/
theorem exists_collision_iff (sources : List RuleSource) (l : Lexicon) (strict : Bool)
    (b : Rulebook) (built : build sources (some l) strict = .ok b) (n : Nat) (w : Text) :
    (∃ c ∈ b.collisions, c.index = n ∧ c.word = w) ↔
      b.CollidesAt l n w ∧ (l.verb? w).isSome = true := by
  have bound := isBoundTo_of_build sources l strict b built
  simp only [collisions, bound.lexicon_eq, mem_collisionsOf]
  constructor
  · rintro ⟨c, ⟨r, place, e, inPattern, collides, verb, -⟩, rfl, rfl⟩
    exact ⟨⟨r, place, e, inPattern, collides⟩, by rw [verb]; rfl⟩
  · rintro ⟨⟨r, place, e, inPattern, collides⟩, verb⟩
    obtain ⟨v, verb⟩ := Option.isSome_iff_exists.mp verb
    exact ⟨⟨n, r.source, w, v⟩, ⟨r, place, e, inPattern, collides, verb, rfl⟩, rfl, rfl⟩

end Rulebook

/-- A lexicon in which `down` is what is done with a drink, and a direction as well. -/
def cellarLexicon : Lexicon :=
  .ofVocabulary
    { verbs := .ofPairs [("down".toList, ["drink".toList])]
      directions := .ofPairs [("down".toList, ["below".toList])] }

def cellarSources : List RuleSource :=
  [⟨"below [the] <deck>".toList, "DESCEND".toList⟩, ⟨"down <beverage>".toList, "DRINK".toList⟩]

def sipSource : RuleSource := ⟨"drink from <vessel>".toList, "SIP".toList⟩

/-- The word of the third rule is a verb, so it is reported. -/
theorem cellar_collision_sip :
    ∃ b, Rulebook.build (cellarSources ++ [sipSource]) (some cellarLexicon) false = .ok b ∧
      ∃ c ∈ b.collisions, c.index = 2 ∧ c.word = "drink".toList := by
  have compiled : (Rulebook.build (cellarSources ++ [sipSource]) (some cellarLexicon) false).map
      (fun b => decide (b.CollidesAt cellarLexicon 2 "drink".toList)) = .ok true := by
    decide +kernel
  obtain ⟨b, built, collides⟩ := (map_eq_ok _ _ _).mp compiled
  have verb : (cellarLexicon.verb? "drink".toList).isSome = true := by decide +kernel
  exact ⟨b, built, (Rulebook.exists_collision_iff _ _ _ b built 2 _).mpr
    ⟨of_decide_eq_true collides, verb⟩⟩

/-- The direction `below` is spelled as the verb `down` in the first rule, and no collision is
reported, nor does the rulebook fail a strict check, though the rule takes what is downed. -/
theorem cellar_unreported_below :
    ∃ b, Rulebook.build cellarSources (some cellarLexicon) true = .ok b ∧
      (b.find? "down ale".toList fun _ => true).map Found.action = some "DESCEND".toList ∧
      ¬((∃ c ∈ b.collisions, c.index = 0 ∧ c.word = "below".toList) ↔
        b.CollidesAt cellarLexicon 0 "below".toList) := by
  have compiled : (Rulebook.build cellarSources (some cellarLexicon) true).map
      (fun b => (b.collisions, (b.find? "down ale".toList fun _ => true).map Found.action,
        decide (b.CollidesAt cellarLexicon 0 "below".toList))) =
      .ok ([], some "DESCEND".toList, true) := by decide +kernel
  obtain ⟨b, built, facts⟩ := (map_eq_ok _ _ _).mp compiled
  obtain ⟨silent, found, collides⟩ : _ ∧ _ ∧ _ := by simpa only [Prod.mk.injEq] using facts
  refine ⟨b, built, found, fun claimed => ?_⟩
  obtain ⟨c, reported, -⟩ := claimed.mpr (of_decide_eq_true collides)
  rw [silent] at reported
  cases reported

end TextAdventure
