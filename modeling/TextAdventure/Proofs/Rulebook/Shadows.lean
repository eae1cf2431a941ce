import TextAdventure.Proofs.Interpreter.Probing
import TextAdventure.Proofs.Pattern.Expression
import TextAdventure.Proofs.Rulebook.Assembly

/-!
Shadowed rules are never reached. A rule is called dead because an earlier one is written alike
(`mem_dead`), whatever the names of their slots and their actions are. Expressions of patterns that
are written alike fit the same texts and capture the same phrases, and these alone decide whether a
reading is acceptable. So where a dead rule would be found, its earlier twin is found before it, and
the rulebook decides every text as it does without its dead rules (`findSome?_living`), and then has
no dead rules any more (`dead_living`).
-/
namespace TextAdventure

/-! ### Rules that are written alike -/

/-- Spans are acceptable or not whatever the names of their slots are. -/
theorem Interpreter.acceptable_phrasesAt (l : Lexicon) (n : Nat) (r : Rule) (t : Text)
    (spans : List (Text × Span)) :
    acceptable l ⟨n, r, Rule.phrasesAt t spans, spans⟩ =
      (spans.map Prod.snd).all fun s => isWhole l (Text.trim (s.slice t)) := by
  simp only [acceptable, Rule.phrasesAt, List.all_map, Function.comp_def]

theorem map_snd_zip_congr (ns ms : List Text) (spans : List Span) (same : ns.length = ms.length) :
    (ns.zip spans).map Prod.snd = (ms.zip spans).map Prod.snd := by
  induction ns generalizing ms spans with
  | nil => rw [List.length_eq_zero_iff.mp same.symm]
  | cons n ns ih =>
    obtain ⟨m, ms, rfl⟩ := List.exists_cons_of_length_eq_add_one same.symm
    cases spans with
    | nil => rfl
    | cons s spans => exact congrArg (s :: ·) (ih ms spans (Nat.succ.inj same))

namespace Rule

/-- Whether the two rules have the same written form. -/
def Twins (r q : Rule) : Prop := q.regex.source = r.regex.source

instance (r q : Rule) : Decidable (r.Twins q) := inferInstanceAs (Decidable (_ = _))

/-- The verdict of the rule on a text that it may decide. -/
def verdict? (r : Rule) (l : Lexicon) (t : Text) : Option (Text × List (Text × Span)) :=
  ((r.found? 0 t).filter (Interpreter.acceptable l)).map Found.verdict

/-- The verdict does not depend on the place of the rule. -/
theorem map_verdict_found? (r : Rule) (l : Lexicon) (n : Nat) (t : Text) :
    ((r.found? n t).filter (Interpreter.acceptable l)).map Found.verdict = r.verdict? l t := by
  rw [verdict?, found?, found?]
  cases r.spans? t with
  | none => rfl
  | some spans =>
    simp only [Option.map_some, Option.filter_some, Interpreter.acceptable_phrasesAt]
    split <;> rfl

variable {spell : Text → Text} (r q : Rule)

theorem Twins.matchWhole?_eq (compiled : Rule.compile spell r.source = .ok r)
    (compiled' : Rule.compile spell q.source = .ok q) (twins : r.Twins q) :
    r.regex.matchWhole? = q.regex.matchWhole? ∧
      r.pattern.slots.length = q.pattern.slots.length := by
  obtain ⟨-, -, regex⟩ := (Rule.compile_eq_ok _ _ _).mp compiled
  obtain ⟨-, -, regex'⟩ := (Rule.compile_eq_ok _ _ _).mp compiled'
  have choices : r.regex.HasChoices := regex ▸ hasChoices_layout spell [] _
  have choices' : q.regex.HasChoices := regex' ▸ hasChoices_layout spell [] _
  have groups : r.regex.groups = r.pattern.slots.length := regex ▸ groups_layout spell [] _
  have groups' : q.regex.groups = q.pattern.slots.length := regex' ▸ groups_layout spell [] _
  refine ⟨funext fun t => ?_, ?_⟩
  · rw [Regex.matchWhole?, Regex.matchWhole?,
      Regex.run_eq_of_source_eq r.regex q.regex choices choices' twins.symm]
  · rw [← groups, ← groups',
      Regex.groups_eq_of_source_eq r.regex q.regex choices choices' twins.symm]

/-- Of two twins either both may decide a text or neither. -/
theorem Twins.isSome_verdict? (compiled : Rule.compile spell r.source = .ok r)
    (compiled' : Rule.compile spell q.source = .ok q) (twins : r.Twins q) (l : Lexicon) (t : Text) :
    (r.verdict? l t).isSome = (q.verdict? l t).isSome := by
  -- their slots take the same spans, under other names perhaps
  obtain ⟨fits, slots⟩ := twins.matchWhole?_eq r q compiled compiled'
  rw [verdict?, verdict?, found?, found?, spans?, spans?, fits]
  cases q.regex.matchWhole? t with
  | none => rfl
  | some spans =>
    have values := map_snd_zip_congr _ _ spans slots
    simp only [Option.map_some, Option.filter_some, Interpreter.acceptable_phrasesAt, values]
    split <;> rfl

end Rule

/-! ### Dead rules -/

/-- Whether the rule at a place has a twin in front of it. -/
def IsShadowed (rules : List Rule) (n : Nat) : Prop :=
  ∃ r, rules[n]? = some r ∧ ∃ q ∈ rules.take n, r.Twins q

/-- What was seen are the written forms of the rules in front, so the shadowed rules among those
behind are found. -/
theorem mem_shadowsFrom (seen : List (Text × (Nat × RuleSource))) (front rules : List Rule)
    (records : ∀ u, (seen.lookup u).isSome = true ↔ ∃ q ∈ front, q.regex.source = u) (n : Nat) :
    n ∈ (shadowsFrom seen front.length rules).map Shadow.index ↔
      front.length ≤ n ∧ IsShadowed (front ++ rules) n := by
  induction rules generalizing seen front with
  | nil =>
    rw [List.append_nil, shadowsFrom, List.map_nil]
    constructor
    · exact fun member => absurd member List.not_mem_nil
    · rintro ⟨behind, r, place, -⟩
      have inside := (List.getElem?_eq_some_iff.mp place).1
      omega
  | cons r rs ih =>
    have here : IsShadowed (front ++ r :: rs) front.length ↔
        (seen.lookup r.regex.source).isSome = true := by
      rw [records]
      simp [IsShadowed, Rule.Twins]
    have known (u : Text) : (∃ q ∈ front ++ [r], q.regex.source = u) ↔
        r.regex.source = u ∨ ∃ q ∈ front, q.regex.source = u := by
      simp [or_and_right, exists_or, or_comm]
    -- the rules behind this one, with this one among those in front
    have rest (seen) (records) := ih seen (front ++ [r]) records
    simp only [List.length_append, List.length_singleton, List.append_assoc, List.singleton_append,
      known] at rest
    have split : front.length ≤ n ↔ n = front.length ∨ front.length + 1 ≤ n := by omega
    rw [split, or_and_right, shadowsFrom]
    cases found : seen.lookup r.regex.source with
    | some first =>
      -- the rule has a twin in front, and its written form is on record already
      rw [found] at here
      rw [List.map_cons, List.mem_cons, rest seen]
      · exact or_congr_left ⟨fun same => ⟨same, same ▸ here.mpr rfl⟩, And.left⟩
      · intro u
        rw [records, iff_or_self]
        rintro rfl
        exact (records _).mp (by rw [found]; rfl)
    | none =>
      -- the rule has no twin in front, and its written form goes on record
      rw [found] at here
      rw [rest]
      · refine (or_iff_right ?_).symm
        rintro ⟨rfl, shadowed⟩
        cases here.mp shadowed
      · intro u
        rw [← records, List.lookup_cons]
        cases same : u == r.regex.source with
        | true => simp [(beq_iff_eq.mp same).symm]
        | false => simp [Ne.symm (ne_of_beq_false same)]

namespace Rulebook

variable (b : Rulebook)

theorem mem_dead (n : Nat) : n ∈ b.dead ↔ IsShadowed b.rules n := by
  have whole := mem_shadowsFrom [] [] b.rules (by simp) n
  exact whole.trans (and_iff_right (Nat.zero_le n))

/-- The rules without the dead ones. -/
def living : List Rule := (b.rules.zipIdx.filter fun x => x.2 ∉ b.dead).map Prod.fst

theorem mem_living (r : Rule) (alive : r ∈ b.living) : r ∈ b.rules := by
  obtain ⟨⟨q, n⟩, member, rfl⟩ := List.mem_map.mp alive
  exact (List.mem_zipIdx' (List.mem_filter.mp member).1).2 ▸ List.getElem_mem _

/-- No living rule has a twin in front of it. -/
theorem pairwise_living : b.living.Pairwise fun q r => ¬r.Twins q := by
  have ordered : b.rules.zipIdx.Pairwise fun x y => x.2 < y.2 := by
    have places := List.pairwise_lt_range' (s := 0) (n := b.rules.length)
    rw [← List.zipIdx_map_snd 0 b.rules] at places
    exact List.pairwise_map.mp places
  have kept := ordered.filter fun x => x.2 ∉ b.dead
  refine List.pairwise_map.mpr (kept.imp_of_mem fun {x y} front behind less twins => ?_)
  obtain ⟨inFront, -⟩ := List.mem_filter.mp front
  obtain ⟨inside, alive⟩ := List.mem_filter.mp behind
  have before : x.1 ∈ b.rules.take y.2 := by
    refine List.mem_of_getElem? (i := x.2) ?_
    rw [List.getElem?_take_of_lt less, List.mem_zipIdx_iff_getElem?.mp inFront]
  exact of_decide_eq_true alive
    ((b.mem_dead y.2).mpr ⟨y.1, List.mem_zipIdx_iff_getElem?.mp inside, x.1, before, twins⟩)

/-- Without the dead rules, no rule is dead. -/
theorem dead_living : (⟨b.living, b.lexicon⟩ : Rulebook).dead = [] := by
  refine List.eq_nil_iff_forall_not_mem.mpr fun n dead => ?_
  obtain ⟨r, place, q, inFront, twins⟩ := (mem_dead _ n).mp dead
  obtain ⟨inside, rfl⟩ := List.getElem?_eq_some_iff.mp place
  obtain ⟨m, less, rfl⟩ := List.mem_take_iff_getElem.mp inFront
  exact List.pairwise_iff_getElem.mp b.pairwise_living m n _ inside (by omega) twins

end Rulebook

/-- Leaving out places at which the function is undefined or defined at some place in front does
not change where it is first defined. -/
theorem findSome?_filter_places {α β : Type} (f : α → Option β) (as : List α) (out : List Nat)
    (redundant : ∀ n a, as[n]? = some a → n ∈ out → (f a).isSome = true →
      ∃ a' ∈ as.take n, (f a').isSome = true) :
    ((as.zipIdx.filter fun x => x.2 ∉ out).map Prod.fst).findSome? f = as.findSome? f := by
  -- the induction takes the last place away, so that the places in front keep their numbers
  induction as using List.reverseRecOn with
  | nil => rfl
  | append_singleton as a ih =>
    have front : ∀ n a', as[n]? = some a' → n ∈ out → (f a').isSome = true →
        ∃ a'' ∈ as.take n, (f a'').isSome = true := by
      intro n a' place left defined
      have inside := (List.getElem?_eq_some_iff.mp place).1
      have whole := redundant n a' (by rw [List.getElem?_append_left inside, place]) left defined
      rwa [List.take_append_of_le_length (Nat.le_of_lt inside)] at whole
    rw [List.zipIdx_append, List.filter_append, List.map_append, List.findSome?_append, ih front,
      List.findSome?_append]
    by_cases left : as.length ∈ out
    · -- if the function is defined at the last place, it is at some place in front
      cases last : f a with
      | none => simp [left, last]
      | some y =>
        obtain ⟨a', member, defined⟩ := redundant as.length a (by simp) left (by rw [last]; rfl)
        rw [List.take_left] at member
        have found : (as.findSome? f).isSome = true :=
          List.findSome?_isSome_iff.mpr ⟨a', member, defined⟩
        simp [left, Option.or_of_isSome found]
    · simp [left]

namespace Rulebook

variable (b : Rulebook) (l : Lexicon) (t : Text)

/-- What is found gives the first verdict, whatever the places of the rules are. -/
theorem map_verdict_find? :
    (b.find? t (Interpreter.acceptable l)).map Found.verdict =
      b.rules.findSome? (Rule.verdict? · l t) := by
  have verdicts : Option.map Found.verdict ∘
        (fun x : Rule × Nat => (x.1.found? x.2 t).filter (Interpreter.acceptable l)) =
      (Rule.verdict? · l t) ∘ Prod.fst :=
    funext fun x => x.1.map_verdict_found? l x.2 t
  have rules : b.rules.zipIdx.map Prod.fst = b.rules := List.zipIdx_map_fst 0 b.rules
  calc (b.find? t (Interpreter.acceptable l)).map Found.verdict
      = b.rules.zipIdx.findSome? ((Rule.verdict? · l t) ∘ Prod.fst) :=
        List.map_findSome?.trans (congrArg (b.rules.zipIdx.findSome? ·) verdicts)
    _ = (b.rules.zipIdx.map Prod.fst).findSome? (Rule.verdict? · l t) := List.findSome?_map.symm
    _ = b.rules.findSome? (Rule.verdict? · l t) := congrArg _ rules

/-- The living rules give the verdict that all of them give. -/
theorem findSome?_living (spell : Text → Text)
    (compiled : ∀ r ∈ b.rules, Rule.compile spell r.source = .ok r) :
    b.living.findSome? (Rule.verdict? · l t) = b.rules.findSome? (Rule.verdict? · l t) := by
  apply findSome?_filter_places
  intro n r place out decides
  obtain ⟨r', place', q, member, twins⟩ := (b.mem_dead n).mp out
  obtain rfl : r = r' := Option.some.inj (place.symm.trans place')
  have alike := twins.isSome_verdict? r q (compiled r (List.mem_of_getElem? place))
    (compiled q (List.mem_of_mem_take member)) l t
  exact ⟨q, member, alike ▸ decides⟩

/-- The living rules are what their sources build. -/
theorem build_living (sources : List RuleSource) (compiled : b.IsCompiledFrom sources) :
    build (b.living.map Rule.source) b.lexicon false = .ok ⟨b.living, b.lexicon⟩ := by
  apply IsCompiledFrom.build ⟨b.living, b.lexicon⟩
  refine List.forall₂_map_left_iff.mpr (List.forall₂_same.mpr fun r alive => ?_)
  exact compiled.compile_source b sources r (b.mem_living r alive)

end Rulebook

namespace Interpreter

/-- An interpreter without its dead rules interprets every line as it does with them, however it
was assembled: what the player is told is the same, and so is a search for a verb that fails. -/
theorem interpret_living (i : Interpreter) (sources : List RuleSource)
    (assembled : i.AssembledFrom sources) (raw : Option Text) :
    (i.withRules i.rulebook.living).interpret (raw.getD []) = i.interpret (raw.getD []) := by
  have bound := assembled.isBound i sources
  -- places change when rules are left out, so the decisions are compared by their verdicts only
  apply i.interpret_of_verdict
  change Option.map Found.verdict (Rulebook.find? ⟨i.rulebook.living, _⟩ _ _) =
    Option.map Found.verdict (i.rulebook.find? _ _)
  rw [Rulebook.map_verdict_find?, Rulebook.map_verdict_find?]
  exact i.rulebook.findSome?_living i.lexicon _ _ bound.compiled

end Interpreter

/-- Rules by which something can be given or presented, to someone or not. -/
def heraldSources : List RuleSource :=
  [⟨"give <item> <character>".toList, "GIVE".toList⟩,
    ⟨"present <thing> <person>".toList, "PRESENT".toList⟩,
    ⟨"give/present <character>".toList, "PAY".toList⟩,
    ⟨"give <gift> <guest>".toList, "TREAT".toList⟩]

def heraldLexicon : Lexicon :=
  .ofVocabulary
    { verbs := .ofPairs [("give".toList, ["present".toList])]
      articles := ["the".toList] }

/-- Both twins of the first rule are dead. They fit the line as it does, and are refused as it is,
for the article alone is no item. -/
theorem herald_living :
    ∃ i, Interpreter.ofSources heraldLexicon heraldSources true false = .ok i ∧
      i.AssembledFrom heraldSources ∧ i.rulebook.dead = [1, 3] ∧
      (i.probes "Present the wizard".toList).map Probe.matched = [true, true, true, true] ∧
      i.interpret "Present the wizard".toList =
        .ok (.accepted "PAY".toList [("character".toList, "the wizard".toList)]
          (some "give".toList) "give the wizard".toList) ∧
      (i.withRules i.rulebook.living).interpret "Present the wizard".toList =
        i.interpret "Present the wizard".toList := by
  have facts : (Interpreter.ofSources heraldLexicon heraldSources true false).map
      (fun i => (i.rulebook.dead, (i.probes "Present the wizard".toList).map Probe.matched,
        i.interpret "Present the wizard".toList)) =
      .ok ([1, 3], [true, true, true, true],
        .ok (.accepted "PAY".toList [("character".toList, "the wizard".toList)]
          (some "give".toList) "give the wizard".toList)) := by decide +kernel
  obtain ⟨i, made, same⟩ := (map_eq_ok _ _ _).mp facts
  obtain ⟨dead, fits, interpreted⟩ : _ ∧ _ ∧ _ := by simpa only [Prod.mk.injEq] using same
  have assembled : i.AssembledFrom heraldSources := .ofSources _ _ _ _ i made
  exact ⟨i, made, assembled, dead, fits, interpreted,
    i.interpret_living heraldSources assembled (some "Present the wizard".toList)⟩

end TextAdventure
