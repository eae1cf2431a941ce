import TextAdventure.Proofs.Interpreter.Captures
import TextAdventure.Proofs.Lexicon.LongestPhrase
import TextAdventure.Proofs.Pattern.EmptyText

/-!
Interpreting and probing agree. Probing a line lists what every rule makes of it; interpreting it
stops at the first rule whose captures are whole. `Rulebook.find?_eq_some_iff` says which rule that
is by its place in the rulebook alone, and both sides are read off the rules at that place. A line
without words is refused before any rule is tried, which agrees with probing because no rule fits
the empty text.
-/
namespace TextAdventure

open Text (IsWord unwords)

/-! ### Whole phrases -/

/-- Whether the phrase is neither an article alone nor several words of which the last one is a
preposition. -/
structure Lexicon.IsWholePhrase (l : Lexicon) (phrase : Text) : Prop where
  lone : ∀ w, Text.words phrase = [w] → l.isArticle w = false
  last : ∀ w, 1 < (Text.words phrase).length → (Text.words phrase).getLast? = some w →
    l.isPreposition w = false

theorem Interpreter.isWhole_iff (l : Lexicon) (phrase : Text) :
    isWhole l phrase = true ↔ l.IsWholePhrase phrase := by
  unfold isWhole
  split
  next empty =>
    exact ⟨fun _ => ⟨by simp [empty], by simp [empty]⟩, fun _ => rfl⟩
  next w single =>
    rw [Bool.not_eq_true']
    refine ⟨fun noun => ⟨fun v same => ?_, by simp [single]⟩, fun whole => whole.lone w single⟩
    rw [single] at same
    cases same
    exact noun
  next w v ws several =>
    have last : (Text.words phrase).getLast? = some ((v :: ws).getLast?.getD w) := by
      rw [several, List.getLast?_cons_cons, List.getLast?_eq_some_getLast (List.cons_ne_nil v ws)]
      rfl
    rw [Bool.not_eq_true']
    refine ⟨fun noun => ⟨by simp [several], fun u _ same => ?_⟩, fun whole => ?_⟩
    · rw [last] at same
      cases same
      exact noun
    · exact whole.last _ (by simp [several]) last

instance (l : Lexicon) (phrase : Text) : Decidable (l.IsWholePhrase phrase) :=
  decidable_of_iff _ (Interpreter.isWhole_iff l phrase)

theorem Interpreter.acceptable_iff (l : Lexicon) (f : Found) :
    acceptable l f = true ↔ ∀ c ∈ f.captures, l.IsWholePhrase c.2 := by
  simp only [acceptable, List.all_eq_true, isWhole_iff]

/-! ### The first acceptable rule -/

/-- What the player is told of the rule that decides. -/
def Found.verdict (f : Found) : Text × List (Text × Span) := (f.action, f.spans)

namespace Rulebook

variable (b : Rulebook) (t : Text) (accept : Found → Bool)

/-- The reading by the rule at a place, if there is one that fits and is acceptable. -/
def readingAt? (n : Nat) : Option Found :=
  b.rules[n]?.bind fun r => (r.found? n t).filter accept

theorem readingAt?_eq_some_iff (n : Nat) (f : Found) :
    b.readingAt? t accept n = some f ↔
      ∃ r spans, b.rules[n]? = some r ∧ r.spans? t = some spans ∧
        f = ⟨n, r, Rule.phrasesAt t spans, spans⟩ ∧ accept f = true := by
  simp only [readingAt?, Option.bind_eq_some_iff, Option.filter_eq_some_iff, Rule.found?,
    Option.map_eq_some_iff]
  constructor
  · rintro ⟨r, place, ⟨spans, fits, rfl⟩, accepted⟩
    exact ⟨r, spans, place, fits, rfl, accepted⟩
  · rintro ⟨r, spans, place, fits, rfl, accepted⟩
    exact ⟨r, place, ⟨spans, fits, rfl⟩, accepted⟩

theorem find?_eq_none_iff : b.find? t accept = none ↔ ∀ n, b.readingAt? t accept n = none := by
  rw [find?, List.findSome?_eq_none_iff]
  simp only [readingAt?, Option.bind_eq_none_iff]
  constructor
  · exact fun refused n r place => refused (r, n) (List.mem_zipIdx_iff_getElem?.mpr place)
  · exact fun refused x member => refused x.2 x.1 (List.mem_zipIdx_iff_getElem?.mp member)

theorem readingAt?_of_find? (f : Found) (found : b.find? t accept = some f) :
    b.readingAt? t accept f.index = some f ∧
      ∀ n < f.index, b.readingAt? t accept n = none := by
  obtain ⟨front, ⟨r, n⟩, behind, split, chosen, refused⟩ := List.findSome?_eq_some_iff.mp found
  have places (m : Nat) : (front ++ (r, n) :: behind)[m]? = b.rules[m]?.map fun q => (q, m) := by
    rw [← split, List.getElem?_zipIdx, Nat.zero_add]
  -- the rules in front of the one that is found stand at the smaller places
  have place := places front.length
  rw [List.getElem?_append_right (Nat.le_refl _), Nat.sub_self, List.getElem?_cons_zero, eq_comm,
    Option.map_eq_some_iff] at place
  obtain ⟨q, present, same⟩ := place
  cases same
  have reading : b.readingAt? t accept front.length = some f :=
    Option.bind_eq_some_iff.mpr ⟨r, present, chosen⟩
  have index : f.index = front.length := by
    obtain ⟨_, _, -, -, rfl, -⟩ := (b.readingAt?_eq_some_iff t accept _ f).mp reading
    rfl
  rw [index]
  refine ⟨reading, fun m less => Option.bind_eq_none_iff.mpr fun q earlier => ?_⟩
  have inFront := places m
  rw [List.getElem?_append_left less, earlier] at inFront
  exact refused (q, m) (List.mem_of_getElem? inFront)

/-- What is found stands at the first place that has an acceptable reading. -/
theorem find?_eq_some_iff (f : Found) :
    b.find? t accept = some f ↔
      b.readingAt? t accept f.index = some f ∧ ∀ n < f.index, b.readingAt? t accept n = none := by
  refine ⟨b.readingAt?_of_find? t accept f, fun ⟨reading, refused⟩ => ?_⟩
  cases found : b.find? t accept with
  | none =>
    rw [(b.find?_eq_none_iff t accept).mp found f.index] at reading
    cases reading
  | some g =>
    obtain ⟨reading', refused'⟩ := b.readingAt?_of_find? t accept g found
    -- whichever of the two stood in front, the other would not be the first
    rcases Nat.lt_trichotomy g.index f.index with less | same | more
    · rw [refused g.index less] at reading'
      cases reading'
    · rw [same, reading] at reading'
      exact reading'.symm
    · rw [refused' f.index more] at reading
      cases reading

/-- Only the rules up to the one that is found matter. -/
theorem find?_take_append (f : Found) (later : List Rule) (found : b.find? t accept = some f) :
    ({ b with rules := b.rules.take (f.index + 1) ++ later } : Rulebook).find? t accept =
      some f := by
  obtain ⟨reading, refused⟩ := b.readingAt?_of_find? t accept f found
  obtain ⟨r, _, place, -⟩ := (b.readingAt?_eq_some_iff t accept _ f).mp reading
  have kept : ∀ n ≤ f.index, (b.rules.take (f.index + 1) ++ later)[n]? = b.rules[n]? := by
    intro n within
    have present : f.index < b.rules.length := (List.getElem?_eq_some_iff.mp place).1
    have inside : n < (b.rules.take (f.index + 1)).length := by
      rw [List.length_take]
      omega
    rw [List.getElem?_append_left inside, List.getElem?_take_of_lt (Nat.lt_succ_of_le within)]
  refine (find?_eq_some_iff _ t accept f).mpr ⟨?_, fun n less => ?_⟩
  · rw [readingAt?, kept _ (Nat.le_refl _)]
    exact reading
  · rw [readingAt?, kept n (Nat.le_of_lt less)]
    exact refused n less

end Rulebook

/-! ### Probes -/

/-- Whether the rule of the probe fits and captures whole phrases only. -/
def Probe.IsComplete (l : Lexicon) (p : Probe) : Prop :=
  ∃ captures, p.captures = some captures ∧ ∀ c ∈ captures, l.IsWholePhrase c.2

instance (l : Lexicon) (p : Probe) : Decidable (p.IsComplete l) :=
  decidable_of_iff (∃ captures ∈ p.captures, ∀ c ∈ captures, l.IsWholePhrase c.2) Iff.rfl

namespace Rulebook

variable (b : Rulebook) (t : Text)

theorem mem_probes (p : Probe) :
    p ∈ b.probes t ↔
      ∃ r, b.rules[p.index]? = some r ∧ p = ⟨p.index, r.source, r.captures? t⟩ := by
  rw [probes, List.mem_map]
  constructor
  · rintro ⟨⟨r, n⟩, member, rfl⟩
    exact ⟨r, List.mem_zipIdx_iff_getElem?.mp member, rfl⟩
  · rintro ⟨r, present, same⟩
    exact ⟨(r, p.index), List.mem_zipIdx_iff_getElem?.mpr present, same.symm⟩

theorem map_rule_probes : (b.probes t).map Probe.rule = b.rules.map Rule.source := by
  have rules : b.rules.zipIdx.map Prod.fst = b.rules := List.zipIdx_map_fst 0 b.rules
  rw [probes, List.map_map]
  exact (List.map_map.symm.trans (congrArg (List.map Rule.source) rules) :
    b.rules.zipIdx.map (Rule.source ∘ Prod.fst) = _)

/-- A probe is complete if its rule has an acceptable reading, which then is what the probe shows. -/
theorem readingAt?_of_isComplete (l : Lexicon) (p : Probe) (member : p ∈ b.probes t)
    (complete : p.IsComplete l) :
    ∃ f, b.readingAt? t (Interpreter.acceptable l) p.index = some f ∧
      p.rule = f.rule.source ∧ p.captures = some (Rule.phrasesAt t f.spans) := by
  obtain ⟨r, place, shown⟩ := (b.mem_probes t p).mp member
  obtain ⟨captures, same, whole⟩ := complete
  have captured : r.captures? t = some captures := (congrArg Probe.captures shown).symm.trans same
  obtain ⟨spans, fits, rfl⟩ := Option.map_eq_some_iff.mp captured
  refine ⟨⟨p.index, r, Rule.phrasesAt t spans, spans⟩, ?_, congrArg Probe.rule shown, same⟩
  exact (b.readingAt?_eq_some_iff t _ _ _).mpr
    ⟨r, spans, place, fits, rfl, (Interpreter.acceptable_iff l _).mpr whole⟩

theorem exists_isComplete (l : Lexicon) (n : Nat) (f : Found)
    (reading : b.readingAt? t (Interpreter.acceptable l) n = some f) :
    ∃ p ∈ b.probes t, p.IsComplete l ∧ p.index = n := by
  obtain ⟨r, spans, place, fits, rfl, accepted⟩ := (b.readingAt?_eq_some_iff t _ n f).mp reading
  refine ⟨⟨n, r.source, r.captures? t⟩, (b.mem_probes t _).mpr ⟨r, place, rfl⟩, ?_, rfl⟩
  have captured : r.captures? t = some (Rule.phrasesAt t spans) := by
    rw [Rule.captures?, fits]
    rfl
  exact ⟨_, captured, (Interpreter.acceptable_iff l _).mp accepted⟩

theorem exists_isComplete_iff (l : Lexicon) :
    (∃ p ∈ b.probes t, p.IsComplete l) ↔
      ∃ r ∈ b.rules, ∃ captures, r.captures? t = some captures ∧
        ∀ c ∈ captures, l.IsWholePhrase c.2 := by
  constructor
  · rintro ⟨p, probed, complete⟩
    obtain ⟨r, place, same⟩ := (b.mem_probes t p).mp probed
    rw [same] at complete
    exact ⟨r, List.mem_of_getElem? place, complete⟩
  · rintro ⟨r, member, complete⟩
    obtain ⟨n, place⟩ := List.mem_iff_getElem?.mp member
    exact ⟨⟨n, _, _⟩, (b.mem_probes t ⟨n, _, _⟩).mpr ⟨r, place, rfl⟩, complete⟩

/-- Some rule is found if and only if some probe is complete. -/
theorem isSome_find?_iff (l : Lexicon) :
    (b.find? t (Interpreter.acceptable l)).isSome = true ↔ ∃ p ∈ b.probes t, p.IsComplete l := by
  rw [Option.isSome_iff_exists]
  constructor
  · rintro ⟨f, found⟩
    obtain ⟨reading, -⟩ := b.readingAt?_of_find? t _ f found
    obtain ⟨p, member, complete, -⟩ := b.exists_isComplete t l _ f reading
    exact ⟨p, member, complete⟩
  · rintro ⟨p, member, complete⟩
    obtain ⟨f, reading, -⟩ := b.readingAt?_of_isComplete t l p member complete
    apply Option.ne_none_iff_exists'.mp
    intro nothing
    rw [(b.find?_eq_none_iff t _).mp nothing p.index] at reading
    cases reading

/-- The rule that is found is the one that the first complete probe shows. -/
theorem find?_of_first_complete (l : Lexicon) (p : Probe) (member : p ∈ b.probes t)
    (complete : p.IsComplete l)
    (least : ∀ q ∈ b.probes t, q.IsComplete l → p.index ≤ q.index) :
    ∃ f, b.find? t (Interpreter.acceptable l) = some f ∧ f.index = p.index ∧
      p.rule = f.rule.source ∧ p.captures = some (Rule.phrasesAt t f.spans) := by
  obtain ⟨f, reading, rule, captures⟩ := b.readingAt?_of_isComplete t l p member complete
  have index : f.index = p.index := by
    obtain ⟨_, _, -, -, rfl, -⟩ := (b.readingAt?_eq_some_iff t _ _ f).mp reading
    rfl
  -- an acceptable reading further in front would be a complete probe with a lower index
  have refused : ∀ n < p.index, b.readingAt? t (Interpreter.acceptable l) n = none := by
    intro n less
    apply Option.eq_none_iff_forall_ne_some.mpr
    intro g earlier
    obtain ⟨q, member', complete', rfl⟩ := b.exists_isComplete t l n g earlier
    exact absurd (least q member' complete') (Nat.not_le_of_lt less)
  rw [← index] at reading refused
  exact ⟨f, (b.find?_eq_some_iff t _ f).mpr ⟨reading, refused⟩, index, rule, captures⟩

/-! ### The first rule that fits -/

theorem matched_of_isComplete (l : Lexicon) (p : Probe) (complete : p.IsComplete l) :
    p.matched = true := by
  obtain ⟨captures, same, -⟩ := complete
  rw [Probe.matched, same]
  rfl

theorem pairwise_index_probes : (b.probes t).Pairwise fun p q => p.index < q.index := by
  have places : b.rules.zipIdx.map Prod.snd = List.range' 0 b.rules.length :=
    List.zipIdx_map_snd 0 b.rules
  have increasing : (List.range' 0 b.rules.length).Pairwise (· < ·) := List.pairwise_lt_range'
  rw [← places, List.pairwise_map] at increasing
  exact List.pairwise_map.mpr increasing

theorem index_le_of_find?_matched (p q : Probe)
    (first : (b.probes t).find? Probe.matched = some p) (member : q ∈ b.probes t)
    (fits : q.matched = true) : p.index ≤ q.index := by
  obtain ⟨-, front, behind, split, missed⟩ := List.find?_eq_some_iff_append.mp first
  have increasing := b.pairwise_index_probes t
  rw [split] at increasing member
  rcases List.mem_append.mp member with earlier | later
  · have misses := missed q earlier
    rw [fits] at misses
    cases misses
  · rcases List.mem_cons.mp later with rfl | further
    · exact Nat.le_refl _
    · exact ((List.pairwise_cons.mp (List.pairwise_append.mp increasing).2.1).1 q further).le

/-- The rule that is found is the first one that fits if and only if that one is complete. -/
theorem index_find?_iff (l : Lexicon) :
    (b.find? t (Interpreter.acceptable l)).map Found.index =
        ((b.probes t).find? Probe.matched).map Probe.index ↔
      ∀ p, (b.probes t).find? Probe.matched = some p → p.IsComplete l := by
  constructor
  · intro same p first
    rw [first, Option.map_some, Option.map_eq_some_iff] at same
    obtain ⟨f, found, index⟩ := same
    obtain ⟨reading, -⟩ := b.readingAt?_of_find? t _ f found
    obtain ⟨q, member, complete, place⟩ := b.exists_isComplete t l _ f reading
    -- the complete probe is the first one, since they stand at the same place
    obtain ⟨r, present, shown⟩ := (b.mem_probes t q).mp member
    obtain ⟨r', present', shown'⟩ := (b.mem_probes t p).mp (List.mem_of_find?_eq_some first)
    rw [place, index, present'] at present
    obtain rfl := Option.some.inj present
    rw [place, index, ← shown'] at shown
    exact shown ▸ complete
  · intro complete
    cases first : (b.probes t).find? Probe.matched with
    | none =>
      have missed := List.find?_eq_none.mp first
      rw [Option.map_none, Option.map_eq_none_iff, ← Option.not_isSome_iff_eq_none,
        b.isSome_find?_iff t l]
      rintro ⟨p, member, complete⟩
      exact missed p member (matched_of_isComplete l p complete)
    | some p =>
      have least : ∀ q ∈ b.probes t, q.IsComplete l → p.index ≤ q.index := fun q member complete =>
        b.index_le_of_find?_matched t p q first member (matched_of_isComplete l q complete)
      obtain ⟨f, found, index, -⟩ := b.find?_of_first_complete t l p
        (List.mem_of_find?_eq_some first) (complete p first) least
      rw [found, Option.map_some, index, Option.map_some]

end Rulebook

/-! ### Interpreted lines -/

namespace Interpreter

variable (i : Interpreter)

/-- There is a word in each of the expanded words. -/
theorem words_ne_nil_of_mem_normalize (line : Text) (forms : i.lexicon.FormsHaveWords) :
    ∀ w ∈ i.normalize line, Text.words w ≠ [] := by
  intro v member
  obtain ⟨w, source, rfl⟩ := List.mem_map.mp member
  exact i.lexicon.words_canonicalWord_ne_nil forms w (i.isWord_of_mem_surfaceWords line w source)

/-- Every line is interpreted: no search for a verb fails on the words of a line. -/
theorem interpret_total (forms : i.lexicon.FormsHaveWords) (line : Text) :
    ∃ o, i.interpret line = .ok o := by
  by_cases empty : i.normalize line = []
  · exact ⟨_, i.interpret_of_nil line empty⟩
  · obtain ⟨verb, named⟩ := i.lexicon.findVerb_of_words _
      (i.words_ne_nil_of_mem_normalize line forms) empty
    exact ⟨_, by rw [i.interpret_of_ne_nil line empty, named, Except.map]⟩

/-- No rule decides the empty text. -/
theorem decide?_nil (bound : i.IsBound) : i.decide? [] = none := by
  cases found : i.decide? [] with
  | none => rfl
  | some f =>
    -- the rule would fit the empty text, but its words are spelled as something
    obtain ⟨member, fits, -⟩ := Rulebook.find?_spec _ _ _ f found
    obtain ⟨parsed, -, regex⟩ := (Rule.compile_eq_ok _ _ _).mp (bound.compiled f.rule member)
    have spelled : ∀ e ∈ f.rule.pattern.elements, ∀ w ∈ e.words,
        i.lexicon.canonicalWord w ≠ [] := fun e inPattern w inElement =>
      i.lexicon.canonicalWord_ne_nil w (Pattern.isWord_of_parse _ _ parsed e inPattern w inElement)
    rw [f.rule.spans?_nil _ regex spelled] at fits
    cases fits

/-- The interpreter with other rules in place of its own. -/
def withRules (rules : List Rule) : Interpreter := { i with rulebook := { i.rulebook with rules } }

/-- The outcome of a line depends on the rules through the action and the spans of the one that
decides it. -/
theorem interpret_of_verdict (line : Text) (rules : List Rule)
    (same : ((i.withRules rules).decide? (unwords (i.normalize line))).map Found.verdict =
      (i.decide? (unwords (i.normalize line))).map Found.verdict) :
    (i.withRules rules).interpret line = i.interpret line := by
  have told (verb : Option Text) (d d' : Option Found)
      (same : d.map Found.verdict = d'.map Found.verdict) :
      i.outcomeOf line verb d = i.outcomeOf line verb d' := by
    cases d <;> cases d' <;> simp_all [outcomeOf, Found.verdict]
  by_cases empty : i.normalize line = []
  · have silent := (i.withRules rules).interpret_of_nil line empty
    exact silent.trans (i.interpret_of_nil line empty).symm
  · rw [i.interpret_of_ne_nil line empty, (i.withRules rules).interpret_of_ne_nil line empty]
    change (i.lexicon.findVerb (i.normalize line)).map (fun verb =>
      i.outcomeOf line verb ((i.withRules rules).decide? (unwords (i.normalize line)))) = _
    simp only [told _ _ _ same]

/-- The outcome of a line depends on the rules through their decision only. -/
theorem interpret_withRules (line : Text) (rules : List Rule)
    (same : (i.withRules rules).decide? (unwords (i.normalize line)) =
      i.decide? (unwords (i.normalize line))) :
    (i.withRules rules).interpret line = i.interpret line :=
  i.interpret_of_verdict line rules (congrArg _ same)

/-- What is told about a line is what the rule that decides it makes of it. -/
theorem decide?_of_interpret (bound : i.IsBound) (line : Text) (o : Outcome)
    (interpreted : i.interpret line = .ok o) :
    o.matched = (i.decide? (unwords (i.normalize line))).isSome ∧
      ∀ f, i.decide? (unwords (i.normalize line)) = some f →
        o.action? = some f.action ∧ o.captures.map Prod.fst = f.spans.map Prod.fst := by
  by_cases empty : i.normalize line = []
  · -- such a line is refused unread, as it would be if the rules were tried
    rw [i.interpret_of_nil line empty] at interpreted
    cases interpreted
    rw [empty, Text.unwords_nil, i.decide?_nil bound]
    exact ⟨rfl, fun f found => by cases found⟩
  · rw [i.interpret_of_ne_nil line empty] at interpreted
    obtain ⟨verb, -, rfl⟩ := (map_eq_ok _ _ _).mp interpreted
    refine ⟨i.matched_outcomeOf _ _ _, fun f found => ?_⟩
    rw [found]
    exact ⟨rfl, by rw [outcomeOf, Outcome.captures, surfaceCaptures, List.map_map]; rfl⟩

/-- A line is accepted if and only if some probe of it is complete, and then the first complete one
gives the action and the slots, whatever rules come behind it. The outcome is certain in a lexicon
that is made from tables, and no line reads as the empty one. -/
theorem interpret_first_complete (bound : i.IsBound) (raw : Option Text) :
    (i.lexicon.FormsHaveWords → ∃ o, i.interpret (raw.getD []) = .ok o) ∧
      ∀ o, i.interpret (raw.getD []) = .ok o →
        (o.matched = true ↔ ∃ p ∈ i.probes (raw.getD []), p.IsComplete i.lexicon) ∧
        ∀ p ∈ i.probes (raw.getD []), p.IsComplete i.lexicon →
          (∀ q ∈ i.probes (raw.getD []), q.IsComplete i.lexicon → p.index ≤ q.index) →
          o.action? = some p.rule.action ∧
            p.captures.map (List.map Prod.fst) = some (o.captures.map Prod.fst) ∧
            ∀ later, (i.withRules (i.rulebook.rules.take (p.index + 1) ++ later)).interpret
              (raw.getD []) = .ok o := by
  generalize raw.getD [] = line
  refine ⟨fun forms => i.interpret_total forms line, fun o interpreted => ?_⟩
  obtain ⟨matched, told⟩ := i.decide?_of_interpret bound line o interpreted
  constructor
  · rw [matched]
    exact i.rulebook.isSome_find?_iff _ i.lexicon
  · intro p member complete least
    obtain ⟨f, found, index, rule, captures⟩ :=
      i.rulebook.find?_of_first_complete _ i.lexicon p member complete least
    obtain ⟨action, slots⟩ := told f found
    refine ⟨?_, ?_, fun later => ?_⟩
    · rw [action, rule]
      rfl
    · rw [captures, slots, Option.map_some, Rule.phrasesAt, List.map_map]
      rfl
    · -- the rules behind the one that is found are not asked
      rw [i.interpret_withRules line, interpreted]
      rw [← index]
      exact (i.rulebook.find?_take_append _ _ f later found).trans found.symm

end Interpreter

/-- A lexicon in which whoever hands something gives it. -/
def almonerLexicon : Lexicon :=
  .ofVocabulary
    { verbs := .ofPairs [("give".toList, ["hand".toList])]
      articles := ["the".toList] }

/-- Three rules that fit a line in which someone is given something. -/
def almonerSources : List RuleSource :=
  [⟨"give <item> <character>".toList, "GIVE".toList⟩, ⟨"give <character>".toList, "PAY".toList⟩,
    ⟨"give <thing>".toList, "DROP".toList⟩]

/-- The article alone is no item, so the second rule decides, although the first one fits and the
third one would do. -/
theorem almoner_first_complete :
    ∃ i, Interpreter.ofSources almonerLexicon almonerSources true false = .ok i ∧
      i.IsBound ∧ i.lexicon.FormsHaveWords ∧
      (i.probes "Hand the wizard".toList).map
        (fun p => (p.matched, decide (p.IsComplete i.lexicon))) =
          [(true, false), (true, true), (true, true)] ∧
      ∃ o, i.interpret "Hand the wizard".toList = .ok o ∧ o.matched = true ∧
        o.action? = some "PAY".toList ∧ o.captures.map Prod.fst = ["character".toList] ∧
        ∀ later, (i.withRules (i.rulebook.rules.take 2 ++ later)).interpret
          "Hand the wizard".toList = .ok o := by
  have facts : (Interpreter.ofSources almonerLexicon almonerSources true false).map (fun i =>
      (decide i.lexicon.FormsHaveWords,
        (i.probes "Hand the wizard".toList).map
          (fun p => (p.matched, decide (p.IsComplete i.lexicon))),
        decide (∃ p ∈ i.probes "Hand the wizard".toList, p.index = 1 ∧ p.IsComplete i.lexicon ∧
          p.rule.action = "PAY".toList ∧
          p.captures.map (List.map Prod.fst) = some ["character".toList]),
        decide (∀ q ∈ i.probes "Hand the wizard".toList,
          q.IsComplete i.lexicon → 1 ≤ q.index))) =
      .ok (true, [(true, false), (true, true), (true, true)], true, true) := by decide +kernel
  obtain ⟨i, made, same⟩ := (map_eq_ok _ _ _).mp facts
  obtain ⟨forms, probed, second, least⟩ : _ ∧ _ ∧ _ ∧ _ := by
    simpa only [Prod.mk.injEq, decide_eq_true_eq] using same
  obtain ⟨p, member, index, complete, action, slots⟩ := second
  have bound := Interpreter.isBound_of_ofSources _ _ _ _ i made
  obtain ⟨total, decided⟩ := i.interpret_first_complete bound (some "Hand the wizard".toList)
  obtain ⟨o, interpreted⟩ := total forms
  obtain ⟨accepted, first⟩ := decided o interpreted
  obtain ⟨told, names, kept⟩ := first p member complete (index ▸ least)
  rw [slots, Option.some_inj] at names
  rw [index] at kept
  exact ⟨i, made, bound, forms, probed, o, interpreted, accepted.mpr ⟨p, member, complete⟩,
    action ▸ told, names.symm, kept⟩

end TextAdventure
