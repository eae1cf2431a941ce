import TextAdventure.Proofs.Interpreter.Captures

/-!
What a rule captures from single-spaced text, told by the reading that counts. The phrases of a rule
are the shares of its captures in the first reading, so two texts give the same phrases if their
first readings share out the same words to the captures. Words that must be said take one word each
and stand in front of every reading (`readings_choices`).
-/
namespace TextAdventure

open Text (IsWord unwords)

/-- What the captures take in a reading. -/
def capturedPhrases (es : List Element) (shares : List (List Text)) : List (Text × Text) :=
  (es.zip shares).filterMap fun x => x.1.slot?.map fun name => (name, unwords x.2)

theorem phrasesOf_captureRanges (es : List Element) (front : List Text)
    (shares : List (List Text)) :
    phrasesOf (front ++ shares.flatten) (captureRanges front.length es shares) =
      capturedPhrases es shares := by
  induction es generalizing front shares with
  | nil => cases shares <;> rfl
  | cons e es ih =>
    cases shares with
    | nil => cases e <;> rfl
    | cons share shares =>
      have tail := ih (front ++ share) shares
      rw [List.append_assoc, List.length_append] at tail
      rw [List.flatten_cons]
      cases e with
      | capture name =>
        have first : (front ++ (share ++ shares.flatten)).extract front.length
            (front.length + share.length) = share := by simp [List.extract]
        rw [captureRanges, phrasesOf, List.map_cons, first]
        exact congrArg ((name, unwords share) :: ·) tail
      | _ => exact tail

/-- The phrases of a rule are what the captures take in the first listed reading. -/
theorem Rule.captures?_eq_readings (spell : Text → Text) (r : Rule)
    (bound : r.regex = r.pattern.regex spell) (spelled : SpelledAsWords spell r.pattern.elements)
    (ws : List Text) (proper : ∀ w ∈ ws, IsWord w) :
    r.captures? (unwords ws) =
      (readings spell [] r.pattern.elements ws).head?.map
        (capturedPhrases r.pattern.elements) := by
  rw [captures?, r.spans?_eq_readings spell bound spelled ws proper, Option.map_map]
  cases listed : (readings spell [] r.pattern.elements ws).head? with
  | none => rfl
  | some shares =>
    -- the spans are those of the ranges of words that the shares make up
    have reading := ((r.pattern.head?_readings spell ws shares).mp listed).isReading
    obtain ⟨valid, located⟩ := ranges_of_isReading _ _ ws shares reading
    have taken := phrasesOf_captureRanges r.pattern.elements [] shares
    rw [List.nil_append, reading.flatten_eq] at taken
    have told := phrasesAt_charSpan _ ws _ proper valid
    rw [← located] at told
    exact congrArg some (told.trans taken)

/-- A rule fits single-spaced text if and only if the words have a reading. -/
theorem Rule.isSome_spans?_iff (spell : Text → Text) (r : Rule)
    (bound : r.regex = r.pattern.regex spell) (spelled : SpelledAsWords spell r.pattern.elements)
    (ws : List Text) (proper : ∀ w ∈ ws, IsWord w) :
    (r.spans? (unwords ws)).isSome = true ↔ ∃ shares, r.pattern.IsReading spell ws shares := by
  rw [r.spans?_eq_readings spell bound spelled ws proper, Option.isSome_map, List.isSome_head?]
  constructor
  · intro nonempty
    obtain ⟨shares, member⟩ := List.exists_mem_of_ne_nil _ nonempty
    exact ⟨shares, (r.pattern.mem_readings spell ws shares).mp member⟩
  · rintro ⟨shares, reading⟩
    exact List.ne_nil_of_mem ((r.pattern.mem_readings spell ws shares).mpr reading)

theorem capturedPhrases_append (es es' : List Element) (shares shares' : List (List Text))
    (length : es.length = shares.length) :
    capturedPhrases (es ++ es') (shares ++ shares') =
      capturedPhrases es shares ++ capturedPhrases es' shares' := by
  rw [capturedPhrases, List.zip_append length, List.filterMap_append]
  rfl

/-- Elements without slots capture nothing. -/
theorem capturedPhrases_of_slotNames (es : List Element) (shares : List (List Text))
    (free : ∀ e ∈ es, e.slot? = none) : capturedPhrases es shares = [] := by
  refine List.filterMap_eq_nil_iff.mpr fun x member => ?_
  rw [free x.1 (List.of_mem_zip member).1]
  rfl

/-! ### Readings, element by element -/

/-- A reading by an element and others is a share that the element may take and a reading of the
words behind it by the others. -/
theorem mem_readings_cons (spell : Text → Text) (before : List Element) (e : Element)
    (es : List Element) (us : List Text) (shares : List (List Text)) :
    shares ∈ readings spell before (e :: es) us ↔
      ∃ share us' rest, us = share ++ us' ∧ shares = share :: rest ∧
        e.Accepts spell (excludedWords before) share ∧
          rest ∈ readings spell (e :: before) es us' := by
  simp only [readings, List.mem_flatMap, List.mem_map, Element.mem_sizes]
  constructor
  · rintro ⟨m, ⟨-, accepted⟩, rest, member, rfl⟩
    exact ⟨us.take m, us.drop m, rest, (List.take_append_drop m us).symm, rfl, accepted, member⟩
  · rintro ⟨share, us', rest, rfl, rfl, accepted, member⟩
    refine ⟨share.length, ⟨?_, ?_⟩, rest, ?_, ?_⟩
    · rw [List.length_append]
      exact Nat.le_add_right _ _
    · rwa [List.take_left]
    · rwa [List.drop_left]
    · rw [List.take_left]

/-! ### Words that must be said -/

/-- What is related to a list is related to its members. -/
theorem exists_of_mem_right {α β : Type} {R : α → β → Prop} {xs : List α} {ys : List β}
    (related : List.Forall₂ R xs ys) (y : β) (member : y ∈ ys) : ∃ x ∈ xs, R x y := by
  obtain ⟨n, less, rfl⟩ := List.mem_iff_getElem.mp member
  have less' : n < xs.length := related.length_eq ▸ less
  exact ⟨xs[n], List.getElem_mem less', related.get less' less⟩

/-- Whether the word is one of the choice's words as `spell` spells it. -/
def Choice.Writes (spell : Text → Text) (c : Choice) (u : Text) : Prop := ∃ w ∈ c.words, spell w = u

theorem Choice.Writes.accepts {spell : Text → Text} {c : Choice} {u : Text}
    (writes : c.Writes spell u) : c.Accepts spell u := by
  obtain ⟨w, member, rfl⟩ := writes
  exact ⟨w, member, Text.sameLetters_refl _⟩

theorem Choice.Accepts.isWord {spell : Text → Text} {c : Choice} {u : Text}
    (accepts : c.Accepts spell u) (spelled : ∀ w ∈ c.words, IsWord (spell w)) : IsWord u := by
  obtain ⟨w, member, same⟩ := accepts
  exact Text.isWord_of_sameLetters _ u (spelled w member) same

/-- Choices take the words that they accept, one each, and leave the rest to what follows. -/
theorem readings_choices (spell : Text → Text) (before : List Element) (cs : List Choice)
    (es : List Element) (ws us : List Text) (accepted : List.Forall₂ (Choice.Accepts spell) cs ws) :
    readings spell before (cs.map .choice ++ es) (ws ++ us) =
      (readings spell ((cs.map .choice).reverse ++ before) es us).map (ws.map ([·]) ++ ·) := by
  induction accepted generalizing before with
  | nil => exact (List.map_id' _).symm
  | @cons c w cs ws first _ ih =>
    have one : (Element.choice c).sizes spell before (w :: (ws ++ us)) = [1] := by
      simp [Element.sizes, Element.takes, Element.isRequired, (c.accepts_iff spell w).mpr first]
    rw [List.map_cons, List.cons_append, List.cons_append, readings, one, List.flatMap_singleton,
      List.drop_one, List.tail_cons, ih]
    simp

/-- Words that begin the pattern capture nothing, so the phrases are those of what follows them. -/
theorem Rule.captures?_behind_choices (spell : Text → Text) (r : Rule)
    (bound : r.regex = r.pattern.regex spell) (spelled : SpelledAsWords spell r.pattern.elements)
    (cs : List Choice) (es : List Element) (shape : r.pattern.elements = cs.map .choice ++ es)
    (ws us : List Text) (accepted : List.Forall₂ (Choice.Accepts spell) cs ws)
    (proper : ∀ u ∈ us, IsWord u) :
    r.captures? (unwords (ws ++ us)) =
      (readings spell (cs.map .choice).reverse es us).head?.map (capturedPhrases es) := by
  have heads : ∀ w ∈ ws, IsWord w := by
    intro w member
    obtain ⟨c, inside, accepts⟩ := exists_of_mem_right accepted w member
    have listed : .choice c ∈ r.pattern.elements := by
      rw [shape]
      exact List.mem_append_left _ (List.mem_map_of_mem inside)
    exact accepts.isWord (spelled _ listed)
  have plain : ∀ e ∈ cs.map Element.choice, e.slot? = none := by
    intro e member
    obtain ⟨c, -, rfl⟩ := List.mem_map.mp member
    rfl
  have length : (cs.map Element.choice).length = (ws.map ([·])).length := by
    rw [List.length_map, List.length_map, accepted.length_eq]
  rw [r.captures?_eq_readings spell bound spelled _ (List.forall_mem_append.mpr ⟨heads, proper⟩),
    shape, readings_choices spell [] cs es ws us accepted, List.append_nil, List.head?_map,
    Option.map_map]
  refine congrArg (Option.map · _) (funext fun shares => ?_)
  rw [Function.comp_apply, capturedPhrases_append _ _ _ _ length,
    capturedPhrases_of_slotNames _ _ plain, List.nil_append]

end TextAdventure
