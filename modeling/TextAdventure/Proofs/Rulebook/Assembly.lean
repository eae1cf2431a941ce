import TextAdventure.Proofs.Interpreter.Captures

/-!
Rulebooks do not remember how they were assembled. Rules may be built at once or in portions, under
one lexicon or another or under none, and given to an interpreter before or after further rules come
in. Whatever the order, each rule of the outcome is its source compiled in the spelling of the
present lexicon (`IsCompiledFrom`), and that is what building all the sources at once gives.
-/
namespace TextAdventure

namespace Rulebook

/-- Whether the rules are the sources, one for one, in the spelling of the rulebook's lexicon. -/
def IsCompiledFrom (b : Rulebook) (sources : List RuleSource) : Prop :=
  List.Forall₂ (fun s r => Rule.compile (spelling b.lexicon) s = .ok r) sources b.rules

/-- Sources are compiled one by one: their numbers serve to report faults only. -/
theorem compileFrom_eq_ok_iff (spell : Text → Text) (index : Nat) (sources : List RuleSource)
    (rules : List Rule) :
    compileFrom spell index sources = .ok rules ↔
      List.Forall₂ (fun s r => Rule.compile spell s = .ok r) sources rules := by
  induction sources generalizing index rules with
  | nil =>
    rw [List.forall₂_nil_left_iff, compileFrom, Except.ok.injEq, eq_comm]
  | cons s ss ih =>
    rw [List.forall₂_cons_left_iff]
    unfold compileFrom
    -- the number goes into the fault only, and the rest is compiled from the next number on
    cases compiled : Rule.compile spell s with
    | error m => simp
    | ok r =>
      simp only [bind_eq_ok, ih, Except.ok.injEq]
      constructor
      · rintro ⟨rs, rest, rfl⟩
        exact ⟨r, rs, rfl, rest, rfl⟩
      · rintro ⟨_, rs, rfl, rest, rfl⟩
        exact ⟨rs, rest, rfl⟩

theorem checked_false (b : Rulebook) : b.checked false = .ok b := rfl

/-- Building gives the sources compiled, under the lexicon asked for. -/
theorem isCompiledFrom_of_build (sources : List RuleSource) (lexicon : Option Lexicon)
    (strict : Bool) (b : Rulebook) (built : build sources lexicon strict = .ok b) :
    b.lexicon = lexicon ∧ b.IsCompiledFrom sources := by
  obtain ⟨rules, compiled, passed⟩ := (bind_eq_ok _ _ _).mp built
  obtain rfl := eq_of_checked _ b strict passed
  exact ⟨rfl, (compileFrom_eq_ok_iff _ _ _ _).mp compiled⟩

/-- Sources that are compiled in a rulebook can be built, and give that rulebook. -/
theorem IsCompiledFrom.build (b : Rulebook) (sources : List RuleSource)
    (compiled : b.IsCompiledFrom sources) :
    Rulebook.build sources b.lexicon false = .ok b :=
  (bind_eq_ok _ _ _).mpr ⟨b.rules, (compileFrom_eq_ok_iff _ 0 _ _).mpr compiled, b.checked_false⟩

theorem IsCompiledFrom.map_source (b : Rulebook) (sources : List RuleSource)
    (compiled : b.IsCompiledFrom sources) : b.rules.map Rule.source = sources := by
  unfold IsCompiledFrom at compiled
  generalize b.rules = rules at compiled
  induction compiled with
  | nil => rfl
  | cons made _ ih => rw [List.map_cons, ih, ((Rule.compile_eq_ok _ _ _).mp made).2.1]

theorem IsCompiledFrom.compile_source (b : Rulebook) (sources : List RuleSource)
    (compiled : b.IsCompiledFrom sources) :
    ∀ r ∈ b.rules, Rule.compile (spelling b.lexicon) r.source = .ok r := by
  have built := (compileFrom_eq_ok_iff _ 0 sources b.rules).mpr compiled
  exact compiled_of_compileFrom _ 0 sources b.rules built

theorem IsCompiledFrom.extended (b b' : Rulebook) (sources more : List RuleSource) (strict : Bool)
    (compiled : b.IsCompiledFrom sources) (made : b.extended more strict = .ok b') :
    b'.lexicon = b.lexicon ∧ b'.IsCompiledFrom (sources ++ more) := by
  obtain ⟨e, joined, rfl⟩ := (map_eq_ok _ _ _).mp made
  obtain ⟨added, built, checked⟩ := (bind_eq_ok _ _ _).mp joined
  obtain ⟨whole, passed, last⟩ := (bind_eq_ok _ _ _).mp checked
  cases last
  obtain rfl := eq_of_checked _ whole strict passed
  -- the sources that come in are compiled under the lexicon of the rulebook
  obtain ⟨same, further⟩ := isCompiledFrom_of_build more b.lexicon strict added built
  unfold IsCompiledFrom at further
  rw [same] at further
  exact ⟨rfl, List.rel_append compiled further⟩

theorem IsCompiledFrom.bind (b : Rulebook) (sources : List RuleSource) (l : Lexicon)
    (compiled : b.IsCompiledFrom sources) : (b.bind l).IsCompiledFrom sources := by
  refine List.forall₂_map_right_iff.mpr (compiled.imp fun s r made => ?_)
  -- the source is read as before, and only the spelling changes
  obtain ⟨-, source, -⟩ := (Rule.compile_eq_ok _ _ _).mp made
  subst source
  exact Rule.compile_bind _ l.canonicalWord r made

/-! ### Runs of construction steps -/

/-- Whether construction steps can lead to the rulebook, where the sources are those that the steps
brought in, in order. A rulebook is rebound when it is given to an interpreter with a lexicon. -/
inductive AssembledFrom : List RuleSource → Rulebook → Prop
  | built (sources : List RuleSource) (lexicon : Option Lexicon) (strict : Bool) (b : Rulebook) :
    build sources lexicon strict = .ok b → AssembledFrom sources b
  | extended (sources more : List RuleSource) (strict : Bool) (b b' : Rulebook) :
    AssembledFrom sources b → b.extended more strict = .ok b' → AssembledFrom (sources ++ more) b'
  | rebound (sources : List RuleSource) (b : Rulebook) (l : Lexicon) :
    AssembledFrom sources b → AssembledFrom sources (b.bind l)

theorem AssembledFrom.isCompiledFrom (b : Rulebook) (sources : List RuleSource)
    (assembled : AssembledFrom sources b) : b.IsCompiledFrom sources := by
  induction assembled with
  | built sources lexicon strict b made =>
    exact (isCompiledFrom_of_build sources lexicon strict b made).2
  | extended sources more strict b b' _ made ih =>
    exact (IsCompiledFrom.extended b b' sources more strict ih made).2
  | rebound sources b l _ ih => exact ih.bind b sources l

end Rulebook

namespace Interpreter

/-- Whether construction steps can lead to the interpreter, where the sources are those that the
steps brought in, in order. An interpreter may keep a rulebook that has its lexicon already. -/
inductive AssembledFrom : List RuleSource → Interpreter → Prop
  | ofSources (sources : List RuleSource) (l : Lexicon) (stripFillers strict : Bool)
    (i : Interpreter) :
    ofSources l sources stripFillers strict = .ok i → AssembledFrom sources i
  | ofRulebook (sources : List RuleSource) (b : Rulebook) (l : Lexicon) (stripFillers : Bool) :
    b.AssembledFrom sources → AssembledFrom sources (ofRulebook l b stripFillers)
  | keeping (sources : List RuleSource) (b : Rulebook) (l : Lexicon) (stripFillers : Bool) :
    b.AssembledFrom sources → b.lexicon = some l → AssembledFrom sources ⟨l, b, stripFillers⟩
  | extended (sources more : List RuleSource) (strict : Bool) (i j : Interpreter) :
    AssembledFrom sources i → i.extended more strict = .ok j → AssembledFrom (sources ++ more) j

theorem AssembledFrom.rulebook (i : Interpreter) (sources : List RuleSource)
    (assembled : AssembledFrom sources i) :
    i.rulebook.AssembledFrom sources ∧ i.rulebook.lexicon = some i.lexicon := by
  induction assembled with
  | ofSources sources l stripFillers strict i made =>
    obtain ⟨b, built, last⟩ := (bind_eq_ok _ _ _).mp made
    cases last
    exact ⟨.built sources (some l) strict b built,
      (Rulebook.isCompiledFrom_of_build sources (some l) strict b built).1⟩
  | ofRulebook sources b l stripFillers steps => exact ⟨.rebound sources b l steps, rfl⟩
  | keeping sources b l stripFillers steps same => exact ⟨steps, same⟩
  | extended sources more strict i j _ made ih =>
    obtain ⟨steps, same⟩ := ih
    obtain ⟨b, longer, last⟩ := (bind_eq_ok _ _ _).mp made
    cases last
    -- extending keeps the lexicon, so the interpreter has nothing to rebind
    have compiled := steps.isCompiledFrom i.rulebook sources
    obtain ⟨kept, -⟩ := compiled.extended i.rulebook b sources more strict longer
    exact ⟨.extended sources more strict i.rulebook b steps longer, kept.trans same⟩

/-- Every way to make an interpreter gives one whose rules follow its lexicon. -/
theorem AssembledFrom.isBound (i : Interpreter) (sources : List RuleSource)
    (assembled : AssembledFrom sources i) : i.IsBound := by
  induction assembled with
  | ofSources sources l stripFillers strict i made =>
    exact isBound_of_ofSources l sources stripFillers strict i made
  | ofRulebook sources b l stripFillers steps =>
    apply isBound_ofRulebook
    intro r member
    exact ⟨_, (steps.isCompiledFrom b sources).compile_source b sources r member⟩
  | keeping sources b l stripFillers steps same =>
    -- nothing is rebound: the rulebook was spelled under this lexicon before
    have compiled := (steps.isCompiledFrom b sources).compile_source b sources
    rw [same] at compiled
    exact ⟨same, compiled⟩
  | extended sources more strict i j _ made ih =>
    exact isBound_of_extended i j more strict ih made

/-- However an interpreter was assembled, its rulebook is the one that results from building all the
sources in order under its lexicon: the same rules, of which the same are dead and the same
collide. -/
theorem build_of_assembledFrom (i : Interpreter) (sources : List RuleSource)
    (assembled : AssembledFrom sources i) :
    ∃ b, Rulebook.build sources (some i.lexicon) false = .ok b ∧
      i.rulebook.lexicon = b.lexicon ∧ i.rulebook.rules = b.rules ∧
      i.rulebook.dead = b.dead ∧ i.rulebook.collisions = b.collisions := by
  obtain ⟨steps, same⟩ := assembled.rulebook i sources
  have compiled := steps.isCompiledFrom i.rulebook sources
  have built := compiled.build i.rulebook sources
  rw [same] at built
  exact ⟨i.rulebook, built, rfl, rfl, rfl, rfl⟩

end Interpreter

/-- A rule that differs from `giveRule` until a hand gives. -/
def handSource : RuleSource :=
  ⟨"[now] hand [the] <thing> [to] <person> *".toList, "HAND".toList⟩

/-- The first rule was built under no lexicon and rebound, the second one came in later: it is dead,
as it is when both are built at once. -/
theorem courier_assembled :
    ∃ j, courier.extended [handSource] false = .ok j ∧
      j.AssembledFrom ([giveRule.source] ++ [handSource]) ∧ j.rulebook.dead = [1] ∧
      ∃ b, Rulebook.build [giveRule.source, handSource] (some courier.lexicon) false = .ok b ∧
        j.rulebook.lexicon = b.lexicon ∧ j.rulebook.rules = b.rules ∧
        j.rulebook.dead = b.dead ∧ j.rulebook.collisions = b.collisions := by
  have first : Rulebook.build [giveRule.source] none false = .ok ⟨[giveRule], none⟩ := by
    decide +kernel
  have given : courier.AssembledFrom [giveRule.source] :=
    .ofRulebook _ _ _ _ (.built _ none false _ first)
  have dead : (courier.extended [handSource] false).map (·.rulebook.dead) = .ok [1] := by
    decide +kernel
  obtain ⟨j, made, second⟩ := (map_eq_ok _ _ _).mp dead
  have assembled : j.AssembledFrom ([giveRule.source] ++ [handSource]) :=
    .extended _ _ false _ _ given made
  have lexicon : j.lexicon = courier.lexicon := by
    obtain ⟨b, -, last⟩ := (bind_eq_ok _ _ _).mp made
    cases last
    rfl
  obtain ⟨b, built, same⟩ := j.build_of_assembledFrom _ assembled
  rw [lexicon] at built
  exact ⟨j, made, assembled, second, b, built, same⟩

end TextAdventure
