import TextAdventure.Proofs.Rulebook.Binding
import TextAdventure.Proofs.Text.Trim

/-!
Captures are the player's own words. A rule is matched against the expanded text, where it finds
stretches of characters; what the player is told are words of the line before expansion. The two
meet in ranges of word indices: every stretch that a capture takes is the stretch of a range of
words (`captureSpans_eq`), and a range means the same words before and after expansion, since
expansion goes word by word.
-/
namespace TextAdventure

open Text (IsWord unwords)

/-- One range of word indices for each slot, in the order of the slots: no range is empty or reaches
past `n` words, and each ends before the next one begins. -/
structure IsSlotRanges (slots : List Text) (n : Nat) (ranges : List (Text × Span)) : Prop where
  names_eq : ranges.map Prod.fst = slots
  nonempty : ∀ r ∈ ranges, r.2.start < r.2.stop
  inside : ∀ r ∈ ranges, r.2.stop ≤ n
  increasing : ranges.Pairwise fun r r' => r.2.stop ≤ r'.2.start

theorem isSlotRanges_nil (n : Nat) : IsSlotRanges [] n [] :=
  ⟨rfl, List.forall_mem_nil _, List.forall_mem_nil _, .nil⟩

/-- The words of each range, joined by spaces. -/
def phrasesOf (ws : List Text) (ranges : List (Text × Span)) : List (Text × Text) :=
  ranges.map fun r => (r.1, unwords (ws.extract r.2.start r.2.stop))

/-! ### One range -/

/-- The stretch of characters that a range of words takes in their single-spaced text. -/
def charSpan (ws : List Text) (r : Span) : Span :=
  let start := (Text.beforeWord (ws.take r.start)).length
  ⟨start, start + (unwords (ws.extract r.start r.stop)).length⟩

theorem split_at_range (ws : List Text) (r : Span) (nonempty : r.start < r.stop)
    (inside : r.stop ≤ ws.length) :
    ws.extract r.start r.stop ≠ [] ∧
      unwords ws = Text.beforeWord (ws.take r.start) ++ unwords (ws.extract r.start r.stop) ++
        Text.afterWord (ws.drop r.stop) := by
  have length : (ws.extract r.start r.stop).length = r.stop - r.start := by simp; omega
  have share : ws.extract r.start r.stop ≠ [] := List.ne_nil_of_length_pos (by omega)
  refine ⟨share, ?_⟩
  have split : ws = ws.take r.start ++ (ws.extract r.start r.stop ++ ws.drop r.stop) := by
    have behind : (ws.drop r.start).drop (r.stop - r.start) = ws.drop r.stop := by
      rw [List.drop_drop, Nat.add_sub_cancel' (Nat.le_of_lt nonempty)]
    rw [← behind, List.extract, List.take_append_drop, List.take_append_drop]
  have joined : unwords ws = unwords (ws.take r.start ++ (ws.extract r.start r.stop ++
      ws.drop r.stop)) := congrArg unwords split
  rw [joined]
  rw [Text.unwords_append _ _ (List.append_ne_nil_of_left_ne_nil share _),
    Text.unwords_append_afterWord _ _ share, List.append_assoc]

theorem slice_charSpan (ws : List Text) (r : Span) (nonempty : r.start < r.stop)
    (inside : r.stop ≤ ws.length) :
    (charSpan ws r).slice (unwords ws) = unwords (ws.extract r.start r.stop) := by
  obtain ⟨-, split⟩ := split_at_range ws r nonempty inside
  rw [split, charSpan, Span.slice, List.append_assoc, List.drop_left, Nat.add_sub_cancel_left,
    List.take_left]

/-- Counting spaces finds the words of the range in any list. -/
theorem wordsAt_charSpan (ws surface : List Text) (proper : ∀ w ∈ ws, IsWord w) (r : Span)
    (nonempty : r.start < r.stop) (inside : r.stop ≤ ws.length) :
    wordsAt (charSpan ws r) (unwords ws) surface =
      unwords (surface.extract r.start r.stop) := by
  obtain ⟨share, split⟩ := split_at_range ws r nonempty inside
  have start : (charSpan ws r).start = (Text.beforeWord (ws.take r.start)).length := rfl
  have front : ((unwords ws).take (charSpan ws r).start).count ' ' = r.start := by
    rw [split, start, List.append_assoc, List.take_left,
      Text.count_space_beforeWord _ fun w member => proper w (List.mem_of_mem_take member),
      List.length_take]
    omega
  have size : (((unwords ws).take (charSpan ws r).stop).drop (charSpan ws r).start).count ' ' + 1
      = r.stop - r.start := by
    have stop : (charSpan ws r).stop = (Text.beforeWord (ws.take r.start) ++
        unwords (ws.extract r.start r.stop)).length := by
      rw [List.length_append, ← start]
      rfl
    rw [split, stop, start, List.take_left, List.drop_left, Text.count_space_unwords _ share
      fun w member => proper w (List.mem_of_mem_drop (List.mem_of_mem_take member))]
    simp only [List.extract, List.length_take, List.length_drop]
    omega
  simp only [wordsAt, front, size]

/-! ### The ranges of a reading -/

/-- The ranges that the captures take in a reading, where the first word of the first share has the
index `start`. -/
def captureRanges : Nat → List Element → List (List Text) → List (Text × Span)
  | start, .capture name :: es, share :: shares =>
    (name, ⟨start, start + share.length⟩) :: captureRanges (start + share.length) es shares
  | start, _ :: es, share :: shares => captureRanges (start + share.length) es shares
  | _, _, _ => []

/-- Whether each capture takes some word. -/
def CapturesTakeWords (es : List Element) (shares : List (List Text)) : Prop :=
  List.Forall₂ (fun e share => (∃ name, e = .capture name) → share ≠ []) es shares

theorem capturesTakeWords_of_isReading (p : Pattern) (spell : Text → Text) (ws : List Text)
    (shares : List (List Text)) (reading : p.IsReading spell ws shares) :
    CapturesTakeWords p.elements shares := by
  refine List.forall₂_iff_get.mpr ⟨reading.length_eq.symm, fun n h h' => ?_⟩
  rintro ⟨name, capture⟩
  have accepts := reading.accepts n _ _ (List.getElem?_eq_getElem h) (List.getElem?_eq_getElem h')
  rw [List.get_eq_getElem] at capture ⊢
  rw [capture] at accepts
  exact accepts.1

theorem isSlotRanges_captureRanges (es : List Element) (shares : List (List Text)) (start : Nat)
    (takes : CapturesTakeWords es shares) :
    IsSlotRanges (slotNames es) (start + shares.flatten.length) (captureRanges start es shares) ∧
      ∀ r ∈ captureRanges start es shares, start ≤ r.2.start := by
  -- the next share begins where this one ends, so the ranges increase
  induction takes generalizing start with
  | nil => exact ⟨isSlotRanges_nil _, List.forall_mem_nil _⟩
  | @cons e share es shares first _ ih =>
    obtain ⟨⟨names, nonempty, inside, increasing⟩, behind⟩ := ih (start + share.length)
    have length : start + (share :: shares).flatten.length
        = start + share.length + shares.flatten.length := by
      rw [List.flatten_cons, List.length_append, Nat.add_assoc]
    have later : ∀ r ∈ captureRanges (start + share.length) es shares, start ≤ r.2.start :=
      fun r member => Nat.le_trans (Nat.le_add_right start _) (behind r member)
    rw [length]
    cases e with
    | capture name =>
      have positive : 0 < share.length := List.length_pos_iff.mpr (first ⟨name, rfl⟩)
      refine ⟨⟨?_, ?_, ?_, ?_⟩, ?_⟩
      · exact congrArg (name :: ·) names
      · exact List.forall_mem_cons.mpr ⟨Nat.lt_add_of_pos_right positive, nonempty⟩
      · exact List.forall_mem_cons.mpr ⟨Nat.le_add_right _ _, inside⟩
      · exact List.pairwise_cons.mpr ⟨behind, increasing⟩
      · exact List.forall_mem_cons.mpr ⟨Nat.le_refl _, later⟩
    | _ => exact ⟨⟨names, nonempty, inside, increasing⟩, later⟩

/-- The captures' stretches of characters are those of their ranges of words. -/
theorem captureSpans_eq (es : List Element) (front : List Text) (shares : List (List Text)) :
    captureSpans (Text.beforeWord front).length es shares =
      (captureRanges front.length es shares).map fun r =>
        (r.1, charSpan (front ++ shares.flatten) r.2) := by
  induction es generalizing front shares with
  | nil => cases shares <;> rfl
  | cons e es ih =>
    cases shares with
    | nil => cases e <;> rfl
    | cons share shares =>
      have tail := ih (front ++ share) shares
      rw [Text.beforeWord_append, List.length_append, Text.length_beforeWord share,
        List.length_append, List.append_assoc] at tail
      cases e with
      | capture name =>
        have first : charSpan (front ++ (share ++ shares.flatten))
            ⟨front.length, front.length + share.length⟩ =
              ⟨(Text.beforeWord front).length,
                (Text.beforeWord front).length + (unwords share).length⟩ := by
          simp [charSpan]
        simp only [captureSpans, captureRanges, List.flatten_cons, List.map_cons, first, tail]
      | _ => simpa only [captureSpans, captureRanges, List.flatten_cons] using tail

/-- The captures of a reading take one range for each slot, and their stretches are those of the
ranges. -/
theorem ranges_of_isReading (p : Pattern) (spell : Text → Text) (ws : List Text)
    (shares : List (List Text)) (reading : p.IsReading spell ws shares) :
    IsSlotRanges p.slots ws.length (captureRanges 0 p.elements shares) ∧
      captureSpans 0 p.elements shares =
        (captureRanges 0 p.elements shares).map fun r => (r.1, charSpan ws r.2) := by
  have takes := capturesTakeWords_of_isReading p spell ws shares reading
  obtain ⟨valid, -⟩ := isSlotRanges_captureRanges p.elements shares 0 takes
  have located := captureSpans_eq p.elements [] shares
  rw [reading.flatten_eq, Nat.zero_add] at valid
  rw [List.nil_append, reading.flatten_eq] at located
  exact ⟨valid, located⟩

/-! ### Phrases of ranges -/

section

variable (slots : List Text) (ws surface : List Text) (ranges : List (Text × Span))

theorem map_fst_phrasesOf (n : Nat) (valid : IsSlotRanges slots n ranges) :
    (phrasesOf ws ranges).map Prod.fst = slots := by
  rw [phrasesOf, List.map_map]
  exact valid.names_eq

theorem surfaceCaptures_charSpan (proper : ∀ w ∈ ws, IsWord w)
    (valid : IsSlotRanges slots ws.length ranges) :
    surfaceCaptures (ranges.map fun r => (r.1, charSpan ws r.2)) (unwords ws) surface =
      phrasesOf surface ranges := by
  rw [surfaceCaptures, List.map_map]
  apply List.map_congr_left
  intro r member
  exact congrArg (r.1, ·) (wordsAt_charSpan ws surface proper r.2 (valid.nonempty r member)
    (valid.inside r member))

theorem mem_extract (r : Span) (w : Text) (member : w ∈ ws.extract r.start r.stop) : w ∈ ws :=
  List.mem_of_mem_drop (List.mem_of_mem_take member)

theorem phrasesAt_charSpan (proper : ∀ w ∈ ws, IsWord w)
    (valid : IsSlotRanges slots ws.length ranges) :
    Rule.phrasesAt (unwords ws) (ranges.map fun r => (r.1, charSpan ws r.2)) =
      phrasesOf ws ranges := by
  rw [Rule.phrasesAt, List.map_map]
  refine List.map_congr_left fun r member => congrArg (r.1, ·) ?_
  change Text.trim ((charSpan ws r.2).slice (unwords ws)) = _
  rw [slice_charSpan ws r.2 (valid.nonempty r member) (valid.inside r member)]
  exact Text.trim_unwords _ fun w inside => proper w (mem_extract ws r.2 w inside)

/-- The phrases of the expanded words are the phrases of the words, each expanded word by word. -/
theorem phrasesOf_expandWords (l : Lexicon) (proper : ∀ w ∈ surface, IsWord w) :
    phrasesOf (l.expandWords surface) ranges =
      (phrasesOf surface ranges).map fun c => (c.1, unwords (l.expandWords (Text.words c.2))) := by
  rw [phrasesOf, phrasesOf, List.map_map]
  refine List.map_congr_left fun r _ => congrArg (r.1, ·) ?_
  have cut : Text.words (unwords (surface.extract r.2.start r.2.stop)) =
      surface.extract r.2.start r.2.stop :=
    Text.words_unwords _ fun w inside => proper w (mem_extract surface r.2 w inside)
  simp only [cut, Lexicon.expandWords, List.extract, List.map_take, List.map_drop]

end

/-! ### Interpreted lines -/

namespace Interpreter

variable (i : Interpreter)

theorem isWord_of_mem_surfaceWords (line w : Text) (member : w ∈ i.surfaceWords line) :
    IsWord w := by
  unfold surfaceWords at member
  split at member
  · exact Text.isWord_of_mem_words _ w (List.mem_of_mem_filter member)
  · exact Text.isWord_of_mem_words _ w member

theorem isWord_of_mem_normalize (solid : i.lexicon.HasSolidForms) (line : Text) :
    ∀ w ∈ i.normalize line, IsWord w :=
  i.lexicon.isWord_of_mem_expandWords solid _ (i.isWord_of_mem_surfaceWords line)

/-- The rule that decides words takes its captures at ranges of them. -/
theorem decide?_ranges (bound : i.IsBound) (solid : i.lexicon.HasSolidForms) (ws : List Text)
    (proper : ∀ w ∈ ws, IsWord w) (f : Found) (found : i.decide? (unwords ws) = some f) :
    ∃ ranges, IsSlotRanges f.rule.pattern.slots ws.length ranges ∧
      f.spans = (ranges.map fun r => (r.1, charSpan ws r.2)) ∧
      f.captures = phrasesOf ws ranges := by
  obtain ⟨member, fits, captures, -⟩ := Rulebook.find?_spec _ _ _ f found
  -- the rule fits because the words have a reading, whose shares give the ranges
  obtain ⟨-, -, regex⟩ := (Rule.compile_eq_ok _ _ _).mp (bound.compiled f.rule member)
  have spelled := bound.spelledAsWords _ _ solid f.rule member
  rw [Rule.spans?_eq_readings _ f.rule regex spelled ws proper] at fits
  obtain ⟨shares, first, spans⟩ := Option.map_eq_some_iff.mp fits
  have reading := ((f.rule.pattern.head?_readings _ ws shares).mp first).isReading
  obtain ⟨valid, located⟩ := ranges_of_isReading _ _ ws shares reading
  have placed := spans.symm.trans located
  refine ⟨_, valid, placed, ?_⟩
  rw [captures, placed]
  exact phrasesAt_charSpan _ ws _ proper valid

/-- The outcome of a line that has words, given the verb recognized in it and the rule that decides
it. -/
def outcomeOf (line : Text) (verb : Option Text) : Option Found → Outcome
  | some f =>
    .accepted f.action
      (surfaceCaptures f.spans (unwords (i.normalize line)) (i.surfaceWords line)) verb
      (unwords (i.normalize line))
  | none =>
    .refused (if verb.isSome then .verbRecognizedNoPatternMatch else .noVerbRecognized) verb
      (unwords (i.normalize line))

section

variable (line : Text) (verb : Option Text) (d : Option Found)

@[simp] theorem matched_outcomeOf : (i.outcomeOf line verb d).matched = d.isSome := by
  cases d <;> rfl

@[simp] theorem action?_outcomeOf : (i.outcomeOf line verb d).action? = d.map Found.action := by
  cases d <;> rfl

@[simp] theorem hint?_outcomeOf :
    (i.outcomeOf line verb d).hint? = if d.isSome then none else
      some (if verb.isSome then .verbRecognizedNoPatternMatch else .noVerbRecognized) := by
  cases d <;> rfl

@[simp] theorem verb?_outcomeOf : (i.outcomeOf line verb d).verb? = verb := by cases d <;> rfl

@[simp] theorem text_outcomeOf :
    (i.outcomeOf line verb d).text = unwords (i.normalize line) := by cases d <;> rfl

end

theorem interpret_of_nil (line : Text) (empty : i.normalize line = []) :
    i.interpret line = .ok (.refused .noVerbRecognized none []) := by
  unfold normalize at empty
  simp [interpret, empty]

theorem interpret_of_ne_nil (line : Text) (nonempty : i.normalize line ≠ []) :
    i.interpret line = (i.lexicon.findVerb (i.normalize line)).map fun verb =>
      i.outcomeOf line verb (i.decide? (unwords (i.normalize line))) := by
  have kept : (i.lexicon.expandWords (i.surfaceWords line)).isEmpty = false :=
    List.isEmpty_eq_false_iff.mpr nonempty
  simp only [interpret, kept, Bool.false_eq_true, if_false]
  change (i.lexicon.findVerb (i.normalize line) >>= _) = _
  cases i.lexicon.findVerb (i.normalize line) with
  | error fault => rfl
  | ok verb =>
    change (match i.decide? (unwords (i.normalize line)) with | some _ => _ | none => _) = _
    cases i.decide? (unwords (i.normalize line)) <;> rfl

theorem interpret_accepted (line : Text) (o : Outcome) (interpreted : i.interpret line = .ok o)
    (matched : o.matched = true) :
    ∃ f verb, i.decide? (unwords (i.normalize line)) = some f ∧
      o = i.outcomeOf line verb (some f) := by
  by_cases empty : i.normalize line = []
  · -- a line without words is refused
    rw [i.interpret_of_nil line empty] at interpreted
    cases interpreted
    cases matched
  · rw [i.interpret_of_ne_nil line empty] at interpreted
    obtain ⟨verb, -, rfl⟩ := (map_eq_ok _ _ _).mp interpreted
    cases found : i.decide? (unwords (i.normalize line)) with
    | none =>
      rw [found] at matched
      cases matched
    | some f => exact ⟨f, verb, rfl, rfl⟩

/-- The phrases that are told are those at the ranges of the captures. -/
theorem captures_outcomeOf (line : Text) (verb : Option Text) (f : Found)
    (ranges : List (Text × Span)) (solid : i.lexicon.HasSolidForms)
    (valid : IsSlotRanges f.rule.pattern.slots (i.normalize line).length ranges)
    (spans : f.spans = ranges.map fun r => (r.1, charSpan (i.normalize line) r.2)) :
    (i.outcomeOf line verb (some f)).captures = phrasesOf (i.surfaceWords line) ranges := by
  change surfaceCaptures f.spans _ _ = _
  rw [spans]
  exact surfaceCaptures_charSpan _ _ _ ranges (i.isWord_of_mem_normalize solid line) valid

/-- A line that is accepted is decided by a rule of the rulebook, and its captures are the player's
own words: those at one range of word indices for each slot, in order. Expanded word by word, they
are what the rule captured. -/
theorem captures_of_interpret (bound : i.IsBound) (solid : i.lexicon.HasSolidForms) (line : Text)
    (o : Outcome) (interpreted : i.interpret line = .ok o) (matched : o.matched = true) :
    ∃ f ranges, i.decide? (unwords (i.normalize line)) = some f ∧ o.action? = some f.action ∧
      IsSlotRanges f.rule.pattern.slots (i.surfaceWords line).length ranges ∧
      o.captures = phrasesOf (i.surfaceWords line) ranges ∧
      o.captures.map Prod.fst = f.rule.pattern.slots ∧
      f.captures = o.captures.map fun c =>
        (c.1, unwords (i.lexicon.expandWords (Text.words c.2))) := by
  obtain ⟨f, verb, found, rfl⟩ := i.interpret_accepted line o interpreted matched
  have proper := i.isWord_of_mem_normalize solid line
  obtain ⟨ranges, valid, spans, captures⟩ := i.decide?_ranges bound solid _ proper f found
  have told := i.captures_outcomeOf line verb f ranges solid valid spans
  -- a range of the expanded words is one of the player's words: there are as many of them
  have length : (i.normalize line).length = (i.surfaceWords line).length :=
    i.lexicon.length_expandWords _
  refine ⟨f, ranges, found, rfl, length ▸ valid, told, ?_, ?_⟩
  · rw [told]
    exact map_fst_phrasesOf _ _ ranges _ valid
  · rw [captures, told]
    exact phrasesOf_expandWords _ ranges i.lexicon (i.isWord_of_mem_surfaceWords line)

end Interpreter

/-- An interpreter with one rule, in whose lexicon a hand gives and `n` is the north. -/
def courier : Interpreter :=
  .ofRulebook
    (.ofVocabulary
      { verbs := .ofPairs [("give".toList, ["hand".toList])]
        directions := .ofPairs [("north".toList, ["n".toList])]
        fillers := ["please".toList]
        prepositions := ["to".toList] })
    ⟨[giveRule], none⟩ true

theorem courier_isBound : courier.IsBound := by
  refine Interpreter.isBound_ofRulebook _ _ true fun r member => ?_
  obtain rfl := List.mem_singleton.mp member
  exact ⟨id, compile_giveRule⟩

/-- The rule captures the direction that the player's word expands to; the player is told the
word. -/
theorem courier_captures :
    courier.IsBound ∧ courier.lexicon.HasSolidForms ∧
      courier.interpret "Please HAND n to wizard".toList =
        .ok (.accepted "GIVE".toList
          [("item".toList, "n".toList), ("character".toList, "wizard".toList)]
          (some "give".toList) "give north to wizard".toList) ∧
      ∃ f ranges, courier.decide? "give north to wizard".toList = some f ∧
        IsSlotRanges f.rule.pattern.slots 4 ranges ∧
        f.captures = [("item".toList, "north".toList), ("character".toList, "wizard".toList)] := by
  have solid : courier.lexicon.HasSolidForms := by decide +kernel
  have interpreted : courier.interpret "Please HAND n to wizard".toList =
      .ok (.accepted "GIVE".toList
        [("item".toList, "n".toList), ("character".toList, "wizard".toList)]
        (some "give".toList) "give north to wizard".toList) := by decide +kernel
  obtain ⟨f, ranges, found, -, valid, -, -, captures⟩ :=
    courier.captures_of_interpret courier_isBound solid _ _ interpreted rfl
  have text : unwords (courier.normalize "Please HAND n to wizard".toList) =
      "give north to wizard".toList := by decide +kernel
  have four : (courier.surfaceWords "Please HAND n to wizard".toList).length = 4 := by
    decide +kernel
  refine ⟨courier_isBound, solid, interpreted, f, ranges, text ▸ found, four ▸ valid, ?_⟩
  rw [captures]
  decide +kernel

end TextAdventure
