import TextAdventure.Proofs.Pattern.Shape
import TextAdventure.Proofs.Rulebook.Collisions
import TextAdventure.Proofs.Rulebook.Expansion
import TextAdventure.Proofs.Rulebook.Shadows

/-!
What strict building refuses. A rule is shadowed exactly if an earlier one has its shape
(`mem_dead_iff_shape`), so nothing is refused on account of a rule that differs from it. Strict
building gives the rulebook that building gives otherwise, unless that one has a dead rule or a
collision (`build_strict_eq_ok_iff`). More rules only add to these: a dead rule or a collision among
rules is still one behind others. So extending a rulebook, where the rules that come in are checked
alone and then with the others, is refused exactly if building everything at once is.
-/
namespace TextAdventure

/-! ### Shadows -/

/-- Each shadow stands behind the twin that is named with it. -/
theorem twins_of_mem_shadowsFrom (seen : List (Text × (Nat × RuleSource))) (front rules : List Rule)
    (records : ∀ u n first, seen.lookup u = some (n, first) →
      ∃ q, front[n]? = some q ∧ q.regex.source = u)
    (s : Shadow) (shadow : s ∈ shadowsFrom seen front.length rules) :
    s.firstIndex < s.index ∧ ∃ q r, (front ++ rules)[s.firstIndex]? = some q ∧
      (front ++ rules)[s.index]? = some r ∧ r.Twins q := by
  induction rules generalizing seen front with
  | nil => cases shadow
  | cons r rs ih =>
    -- the rules behind this one, with this one among those in front
    have rest (seen) (records) := ih seen (front ++ [r]) records
    simp only [List.length_append, List.length_singleton, List.append_assoc,
      List.singleton_append] at rest
    have kept (n : Nat) (q : Rule) (place : front[n]? = some q) :
        (front ++ [r])[n]? = some q := by
      rw [List.getElem?_append_left (List.getElem?_eq_some_iff.mp place).1, place]
    have longer : ∀ u n first, seen.lookup u = some (n, first) →
        ∃ q, (front ++ [r])[n]? = some q ∧ q.regex.source = u := by
      intro u n first found
      obtain ⟨q, place, written⟩ := records u n first found
      exact ⟨q, kept n q place, written⟩
    rw [shadowsFrom] at shadow
    cases found : seen.lookup r.regex.source with
    | some first =>
      rw [found] at shadow
      rcases List.mem_cons.mp shadow with rfl | later
      · obtain ⟨q, place, written⟩ := records _ _ _ found
        have inside := (List.getElem?_eq_some_iff.mp place).1
        refine ⟨inside, q, r, ?_, by simp, written⟩
        change (front ++ r :: rs)[first.1]? = some q
        rw [List.getElem?_append_left inside, place]
      · exact rest seen longer later
    | none =>
      rw [found] at shadow
      refine rest _ (fun u n first recorded => ?_) shadow
      rw [List.lookup_cons] at recorded
      cases same : u == r.regex.source with
      | true =>
        rw [same] at recorded
        cases recorded
        exact ⟨r, by simp, (eq_of_beq same).symm⟩
      | false =>
        rw [same] at recorded
        exact longer u n first recorded

/-- No word of a well-formed element is lost in the spelling of a lexicon, whatever its tables. -/
theorem Element.isSpelled_of_isWellFormed (lexicon : Option Lexicon) (e : Element)
    (proper : e.IsWellFormed) : e.IsSpelled (Rulebook.spelling lexicon) := by
  intro w named
  have folded : Pattern.IsFoldedWord w := proper.words w named
  cases lexicon with
  | none => exact folded.1
  | some l => exact l.canonicalWord_ne_nil w folded.isNormalWord.word

/-- Under any lexicon, well-formed patterns are written alike exactly if they have one shape. -/
theorem Pattern.IsWellFormed.source_eq_iff (lexicon : Option Lexicon) (p p' : Pattern)
    (proper : p.IsWellFormed) (proper' : p'.IsWellFormed) :
    (p.regex (Rulebook.spelling lexicon)).source = (p'.regex (Rulebook.spelling lexicon)).source ↔
      p.shape (Rulebook.spelling lexicon) = p'.shape (Rulebook.spelling lexicon) :=
  Pattern.source_eq_iff _ p p'
    (fun e member => e.isSpelled_of_isWellFormed lexicon (proper e member))
    (fun e member => e.isSpelled_of_isWellFormed lexicon (proper' e member))

namespace Rulebook

variable (b : Rulebook)

theorem twins_of_mem_shadows (s : Shadow) (shadow : s ∈ b.shadows) :
    s.firstIndex < s.index ∧ ∃ q r, b.rules[s.firstIndex]? = some q ∧
      b.rules[s.index]? = some r ∧ r.Twins q :=
  twins_of_mem_shadowsFrom [] [] b.rules (fun _ _ _ found => by cases found) s shadow

theorem isShadowed_iff (rules : List Rule) (n : Nat) :
    IsShadowed rules n ↔
      ∃ m < n, ∃ q r, rules[m]? = some q ∧ rules[n]? = some r ∧ r.Twins q := by
  constructor
  · rintro ⟨r, place, q, inFront, twins⟩
    obtain ⟨m, less, rfl⟩ := List.mem_take_iff_getElem.mp inFront
    exact ⟨m, by omega, _, r, List.getElem?_eq_getElem (by omega), place, twins⟩
  · rintro ⟨m, less, q, r, place', place, twins⟩
    refine ⟨r, place, q, List.mem_of_getElem? (i := m) ?_, twins⟩
    rw [List.getElem?_take_of_lt less, place']

/-- Whether the rules at two places have one shape. -/
def AlikeAt (spell : Text → Text) (m n : Nat) : Prop :=
  ∃ q r, b.rules[m]? = some q ∧ b.rules[n]? = some r ∧
    q.pattern.shape spell = r.pattern.shape spell

theorem IsCompiledFrom.twins_iff (sources : List RuleSource) (compiled : b.IsCompiledFrom sources)
    (q r : Rule) (member' : q ∈ b.rules) (member : r ∈ b.rules) :
    r.Twins q ↔
      q.pattern.shape (spelling b.lexicon) = r.pattern.shape (spelling b.lexicon) := by
  have made := compiled.compile_source b sources
  obtain ⟨parsed', -, regex'⟩ := (Rule.compile_eq_ok _ _ q).mp (made q member')
  obtain ⟨parsed, -, regex⟩ := (Rule.compile_eq_ok _ _ r).mp (made r member)
  rw [Rule.Twins, regex', regex]
  exact (Pattern.isWellFormed_of_parse _ _ parsed').source_eq_iff b.lexicon _ _
    (Pattern.isWellFormed_of_parse _ _ parsed)

theorem IsCompiledFrom.alikeAt_iff (sources : List RuleSource) (compiled : b.IsCompiledFrom sources)
    (m n : Nat) :
    (∃ q r, b.rules[m]? = some q ∧ b.rules[n]? = some r ∧ r.Twins q) ↔
      b.AlikeAt (spelling b.lexicon) m n := by
  refine exists_congr fun q => exists_congr fun r => and_congr_right fun place' =>
    and_congr_right fun place => ?_
  exact compiled.twins_iff b sources q r (List.mem_of_getElem? place') (List.mem_of_getElem? place)

end Rulebook

/-! ### Rules behind others -/

theorem IsShadowed.append (front rules : List Rule) (n : Nat) (shadowed : IsShadowed rules n) :
    IsShadowed (front ++ rules) (front.length + n) := by
  obtain ⟨r, place, q, inFront, twins⟩ := shadowed
  refine ⟨r, ?_, q, ?_, twins⟩
  · rw [List.getElem?_append_right (Nat.le_add_right _ _), Nat.add_sub_cancel_left, place]
  · rw [List.take_length_add_append]
    exact List.mem_append_right front inFront

theorem Lexicon.Collides.append (l : Lexicon) (front rules : List Rule) (e : Element) (w : Text)
    (collides : l.Collides rules e w) : l.Collides (front ++ rules) e w := by
  refine { collides with heads := ?_ }
  -- more rules only bring more verbs
  rw [patternVerbs, List.flatMap_append, WordSet.mem_ofList, List.mem_append]
  exact .inr (WordSet.mem_ofList.mp collides.heads)

theorem mem_collisionsOf_append (l : Lexicon) (front rules : List Rule) (c : Collision)
    (member : c ∈ collisionsOf rules l) :
    { c with index := front.length + c.index } ∈ collisionsOf (front ++ rules) l := by
  obtain ⟨r, place, e, inPattern, collides, verb, rule⟩ := (mem_collisionsOf l rules c).mp member
  refine (mem_collisionsOf l _ _).mpr ⟨r, ?_, e, inPattern, collides.append l front, verb, rule⟩
  rw [List.getElem?_append_right (Nat.le_add_right _ _), Nat.add_sub_cancel_left, place]

namespace Rulebook

variable (lexicon : Option Lexicon) (front rules : List Rule)

theorem dead_eq_nil_of_append (alive : (⟨front ++ rules, lexicon⟩ : Rulebook).dead = []) :
    (⟨rules, lexicon⟩ : Rulebook).dead = [] := by
  refine List.eq_nil_iff_forall_not_mem.mpr fun n dead => ?_
  have shadowed := ((mem_dead _ n).mp dead).append front
  exact List.eq_nil_iff_forall_not_mem.mp alive _ ((mem_dead _ _).mpr shadowed)

theorem collisions_eq_nil_of_append
    (apart : (⟨front ++ rules, lexicon⟩ : Rulebook).collisions = []) :
    (⟨rules, lexicon⟩ : Rulebook).collisions = [] := by
  cases lexicon with
  | none => rfl
  | some l =>
    refine List.eq_nil_iff_forall_not_mem.mpr fun c member => ?_
    exact List.eq_nil_iff_forall_not_mem.mp apart _ (mem_collisionsOf_append l front rules c member)

/-! ### Strict checks -/

variable (b b' : Rulebook) (sources more : List RuleSource) (strict : Bool)

theorem checked_true_eq_ok_iff :
    b.checked true = .ok b' ↔ b = b' ∧ b.dead = [] ∧ b.collisions = [] := by
  rw [checked, if_pos rfl, dead, List.map_eq_nil_iff]
  cases b.shadows with
  | cons s ss => simp
  | nil => cases b.collisions <;> simp

/-- The first shadow is reported, and a collision only where there are no shadows. -/
theorem checked_true_eq_error_iff (fault : BuildFault) :
    b.checked true = .error fault ↔
      (∃ s, b.shadows.head? = some s ∧ fault = .shadowed s) ∨
        b.shadows = [] ∧ ∃ c, b.collisions.head? = some c ∧ fault = .collides c := by
  rw [checked, if_pos rfl]
  cases b.shadows with
  | cons s ss => simp [eq_comm]
  | nil => cases b.collisions <;> simp [eq_comm]

theorem build_true_of_build (built : build sources lexicon strict = .ok b) :
    build sources lexicon true = b.checked true := by
  obtain ⟨rules, compiled, passed⟩ := (bind_eq_ok _ _ _).mp built
  obtain rfl := eq_of_checked _ b strict passed
  rw [build, compiled]
  rfl

theorem compileFrom_ne_shadowed (spell : Text → Text) (index : Nat) (s : Shadow) :
    compileFrom spell index sources ≠ .error (.shadowed s) := by
  induction sources generalizing index with
  | nil => simp [compileFrom]
  | cons source sources ih =>
    unfold compileFrom
    split
    · simp
    · intro refused
      cases rest : compileFrom spell (index + 1) sources with
      | error fault =>
        rw [rest] at refused
        cases refused
        exact ih _ rest
      | ok rules =>
        rw [rest] at refused
        cases refused

/-- Where strict building reports a shadow, the rules compile and have that shadow. -/
theorem exists_shadow_of_build (s : Shadow)
    (refused : build sources lexicon true = .error (.shadowed s)) :
    ∃ b, build sources lexicon false = .ok b ∧ s ∈ b.shadows := by
  cases compiled : compileFrom (spelling lexicon) 0 sources with
  | error fault =>
    -- a malformed pattern is reported before anything is checked
    rw [build, compiled] at refused
    cases refused
    exact absurd compiled (compileFrom_ne_shadowed sources _ 0 s)
  | ok rules =>
    rw [build, compiled] at refused
    refine ⟨⟨rules, lexicon⟩, by rw [build, compiled]; rfl, ?_⟩
    rcases (checked_true_eq_error_iff _ _).mp refused with ⟨_, first, ⟨⟩⟩ | ⟨-, _, -, ⟨⟩⟩
    exact List.mem_of_mem_head? first

theorem build_false_eq_ok_iff :
    build sources lexicon false = .ok b ↔ b.lexicon = lexicon ∧ b.IsCompiledFrom sources := by
  constructor
  · exact isCompiledFrom_of_build sources lexicon false b
  · rintro ⟨rfl, compiled⟩
    exact compiled.build b sources

theorem build_true_eq_ok_iff :
    build sources lexicon true = .ok b ↔
      build sources lexicon false = .ok b ∧ b.dead = [] ∧ b.collisions = [] := by
  simp only [build, bind_eq_ok, checked_true_eq_ok_iff, checked_false, Except.ok.injEq]
  constructor
  · rintro ⟨rules, compiled, rfl, sound⟩
    exact ⟨⟨rules, compiled, rfl⟩, sound⟩
  · rintro ⟨⟨rules, compiled, rfl⟩, sound⟩
    exact ⟨rules, compiled, rfl, sound⟩

theorem extended_true_eq_ok_iff :
    b.extended more true = .ok b' ↔ ∃ added, build more b.lexicon true = .ok added ∧
      b' = ⟨b.rules ++ added.rules, b.lexicon⟩ ∧ b'.dead = [] ∧ b'.collisions = [] := by
  simp only [extended, map_eq_ok, extension, bind_eq_ok, checked_true_eq_ok_iff]
  constructor
  · rintro ⟨_, ⟨added, built, _, ⟨rfl, sound⟩, ⟨⟩⟩, rfl⟩
    exact ⟨added, built, rfl, sound⟩
  · rintro ⟨added, built, rfl, sound⟩
    exact ⟨_, ⟨added, built, _, ⟨rfl, sound⟩, rfl⟩, rfl⟩

/-- Sources compile in one way, so what they compile to stands in front of what comes of them and
further ones. -/
theorem exists_added (spell : Text → Text) (rules whole : List Rule)
    (compiled : List.Forall₂ (fun s r => Rule.compile spell s = .ok r) sources rules)
    (all : List.Forall₂ (fun s r => Rule.compile spell s = .ok r) (sources ++ more) whole) :
    ∃ added, List.Forall₂ (fun s r => Rule.compile spell s = .ok r) more added ∧
      whole = rules ++ added := by
  have unique : Relator.RightUnique fun s r => Rule.compile spell s = .ok r :=
    fun s r r' made made' => Except.ok.inj (made.symm.trans made')
  have front := List.forall₂_take sources.length all
  have behind := List.forall₂_drop sources.length all
  rw [List.take_left] at front
  rw [List.drop_left] at behind
  refine ⟨_, behind, ?_⟩
  rw [List.right_unique_forall₂' unique compiled front, List.take_append_drop]

/-- Rules that come in are checked alone and then among all: the second check finds all that the
first one does. -/
theorem IsCompiledFrom.extended_iff_build (compiled : b.IsCompiledFrom sources) :
    b.extended more true = .ok b' ↔ Rulebook.build (sources ++ more) b.lexicon true = .ok b' := by
  simp only [extended_true_eq_ok_iff, build_true_eq_ok_iff, build_false_eq_ok_iff]
  constructor
  · rintro ⟨added, ⟨⟨same, further⟩, -⟩, rfl, sound⟩
    unfold IsCompiledFrom at further
    rw [same] at further
    exact ⟨⟨rfl, List.rel_append compiled further⟩, sound⟩
  · obtain ⟨whole, lexicon⟩ := b'
    rintro ⟨⟨rfl, all⟩, alive, apart⟩
    -- what is neither dead nor colliding among all rules is not so among the added ones
    obtain ⟨added, further, rfl⟩ := exists_added sources more _ b.rules whole compiled all
    exact ⟨⟨added, b.lexicon⟩, ⟨⟨rfl, further⟩, dead_eq_nil_of_append _ _ _ alive,
      collisions_eq_nil_of_append _ _ _ apart⟩, rfl, alive, apart⟩

/-! ### What strict building refuses -/

/-- Exactly the rules behind one of their own shape are dead, and a rule is reported as the shadow
of one of its own shape, or refused for it under strict checks. For well-formed patterns are written
alike if and only if they have one shape. -/
theorem mem_dead_iff_shape (lexicon : Option Lexicon) :
    (∀ sources strict b, build sources lexicon strict = .ok b →
      (∀ n, n ∈ b.dead ↔ ∃ m < n, b.AlikeAt (spelling lexicon) m n) ∧
      ∀ s ∈ b.shadows, s.firstIndex < s.index ∧
        b.AlikeAt (spelling lexicon) s.firstIndex s.index) ∧
    (∀ sources s, build sources lexicon true = .error (.shadowed s) →
      ∃ b, build sources lexicon false = .ok b ∧ s ∈ b.shadows) ∧
    ∀ p p' : Pattern, p.IsWellFormed → p'.IsWellFormed →
      ((p.regex (spelling lexicon)).source = (p'.regex (spelling lexicon)).source ↔
        p.shape (spelling lexicon) = p'.shape (spelling lexicon)) := by
  refine ⟨fun sources strict b built => ?_, exists_shadow_of_build lexicon,
    fun p p' proper proper' => proper.source_eq_iff lexicon p p' proper'⟩
  obtain ⟨rfl, compiled⟩ := isCompiledFrom_of_build sources lexicon strict b built
  refine ⟨fun n => ?_, fun s shadow => ?_⟩
  · rw [mem_dead, isShadowed_iff]
    exact exists_congr fun m => and_congr_right fun _ => compiled.alikeAt_iff b sources m n
  · obtain ⟨less, twins⟩ := b.twins_of_mem_shadows s shadow
    exact ⟨less, (compiled.alikeAt_iff b sources _ _).mp twins⟩

/-- A lexicon in which two words stand for `forge`. -/
def smithLexicon : Lexicon :=
  .ofVocabulary { verbs := .ofPairs [("forge".toList, ["smelt".toList, "hammer".toList])] }

def smithSources : List RuleSource :=
  [⟨"smelt/forge [the/a] <metal>".toList, "FORGE".toList⟩,
    ⟨"hammer [the/a/the] <item>".toList, "HAMMER".toList⟩]

/-- The articles come in another order here. -/
def anvilSource : RuleSource := ⟨"forge [a/the] <metal>".toList, "STRIKE".toList⟩

theorem smithSources_shadowed :
    build smithSources (some smithLexicon) true = .error (.shadowed
      ⟨1, ⟨"hammer [the/a/the] <item>".toList, "HAMMER".toList⟩, 0,
        ⟨"smelt/forge [the/a] <metal>".toList, "FORGE".toList⟩⟩) := by decide +kernel

/-- The second rule has the shape of the first one, and the third one has not. -/
theorem smith_shadow :
    ∃ b, build (smithSources ++ [anvilSource]) (some smithLexicon) false = .ok b ∧ b.dead = [1] ∧
      (∃ m < 1, b.AlikeAt smithLexicon.canonicalWord m 1) ∧
      (¬∃ m < 2, b.AlikeAt smithLexicon.canonicalWord m 2) ∧
      (∃ s, build smithSources (some smithLexicon) true = .error (.shadowed s) ∧
        ∃ b', build smithSources (some smithLexicon) false = .ok b' ∧ s ∈ b'.shadows) ∧
      ∃ p p', Pattern.parse "smelt/hammer".toList = .ok p ∧
        Pattern.parse "forge".toList = .ok p' ∧
        (p.regex smithLexicon.canonicalWord).source =
          (p'.regex smithLexicon.canonicalWord).source := by
  have compiled : (build (smithSources ++ [anvilSource]) (some smithLexicon) false).map dead =
      .ok [1] := by decide +kernel
  obtain ⟨b, built, dead⟩ := (map_eq_ok _ _ _).mp compiled
  obtain ⟨reported, refused, alike⟩ := mem_dead_iff_shape (some smithLexicon)
  obtain ⟨places, -⟩ := reported _ _ b built
  have shape : (Pattern.parse "smelt/hammer".toList).map
      (fun p => p.shape smithLexicon.canonicalWord) =
        .ok [.choice ⟨"forge".toList, []⟩] := by decide +kernel
  have shape' : (Pattern.parse "forge".toList).map (fun p => p.shape smithLexicon.canonicalWord) =
      .ok [.choice ⟨"forge".toList, []⟩] := by decide +kernel
  obtain ⟨p, parsed, single⟩ := (map_eq_ok _ _ _).mp shape
  obtain ⟨p', parsed', single'⟩ := (map_eq_ok _ _ _).mp shape'
  refine ⟨b, built, dead, (places 1).mp (by simp [dead]), fun behind => ?_,
    ⟨_, smithSources_shadowed, refused _ _ smithSources_shadowed⟩, p, p', parsed, parsed', ?_⟩
  · have listed := (places 2).mpr behind
    simp [dead] at listed
  · exact (alike p p' (Pattern.isWellFormed_of_parse _ _ parsed)
      (Pattern.isWellFormed_of_parse _ _ parsed')).mpr (single.trans single'.symm)

/-- Strict building gives what building gives otherwise, unless that has a dead rule or a collision,
and it reports a shadow exactly if a rule is dead. Extending a rulebook under strict checks gives
what building everything at once under strict checks gives. -/
theorem build_strict_eq_ok_iff (sources : List RuleSource) (lexicon : Option Lexicon) :
    (∀ b, build sources lexicon true = .ok b ↔
      build sources lexicon false = .ok b ∧ b.dead = [] ∧ b.collisions = []) ∧
    (∀ b fault, build sources lexicon false = .ok b → build sources lexicon true = .error fault →
      ((∃ s, fault = .shadowed s) ↔ b.dead ≠ [])) ∧
    ∀ b strict, build sources lexicon strict = .ok b → ∀ more b',
      b.extended more true = .ok b' ↔ build (sources ++ more) lexicon true = .ok b' := by
  refine ⟨fun b => build_true_eq_ok_iff lexicon b sources, fun b fault built refused => ?_,
    fun b strict built more b' => ?_⟩
  · rw [build_true_of_build lexicon b sources false built, checked_true_eq_error_iff] at refused
    rw [dead, ne_eq, List.map_eq_nil_iff]
    rcases refused with ⟨s, first, rfl⟩ | ⟨empty, c, -, rfl⟩
    · exact iff_of_true ⟨s, rfl⟩ fun empty => by simp [empty] at first
    · exact iff_of_false (fun ⟨_, other⟩ => by cases other) fun shadowed => shadowed empty
  · obtain ⟨rfl, compiled⟩ := isCompiledFrom_of_build sources lexicon strict b built
    exact compiled.extended_iff_build b b' sources more

/-- With a rule behind its twin nothing can be built strictly. The first rule can, and the third one
can come in behind it, while the second one cannot, though there is nothing wrong with it alone. -/
theorem smith_strict :
    (∃ b fault, build smithSources (some smithLexicon) false = .ok b ∧ b.dead ≠ [] ∧
      build smithSources (some smithLexicon) true = .error fault ∧ ∃ s, fault = .shadowed s) ∧
    ∃ b b', build (smithSources.take 1) (some smithLexicon) true = .ok b ∧
      build (smithSources.take 1 ++ [anvilSource]) (some smithLexicon) true = .ok b' ∧
      b.extended [anvilSource] true = .ok b' ∧
      (∃ added, build (smithSources.drop 1) (some smithLexicon) true = .ok added) ∧
      ∀ b'', b.extended (smithSources.drop 1) true ≠ .ok b'' := by
  obtain ⟨-, shadowed, -⟩ := build_strict_eq_ok_iff smithSources (some smithLexicon)
  obtain ⟨-, -, extended⟩ := build_strict_eq_ok_iff (smithSources.take 1) (some smithLexicon)
  have whole : (build smithSources (some smithLexicon) false).map dead = .ok [1] := by
    decide +kernel
  have alone (sources : List RuleSource) (sound : (build sources (some smithLexicon) true).map size =
      .ok sources.length) : ∃ b, build sources (some smithLexicon) true = .ok b :=
    ((map_eq_ok _ _ _).mp sound).imp fun _ => And.left
  obtain ⟨b, built, dead⟩ := (map_eq_ok _ _ _).mp whole
  obtain ⟨first, builtFirst⟩ := alone (smithSources.take 1) (by decide +kernel)
  obtain ⟨both, builtBoth⟩ := alone (smithSources.take 1 ++ [anvilSource]) (by decide +kernel)
  have bad : b.dead ≠ [] := by simp [dead]
  refine ⟨⟨b, _, built, bad, smithSources_shadowed,
      (shadowed b _ built smithSources_shadowed).mpr bad⟩,
    first, both, builtFirst, builtBoth, ?_, alone _ (by decide +kernel), fun b' joined => ?_⟩
  · exact (extended first true builtFirst _ both).mpr builtBoth
  · have strict := (extended first true builtFirst _ b').mp joined
    rw [List.take_append_drop, smithSources_shadowed] at strict
    cases strict

end Rulebook

end TextAdventure
