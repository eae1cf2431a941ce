import TextAdventure.Rulebook.Basic

/-!
What is suspicious in a rulebook. A rule is shadowed when an earlier one has the same regular
expression: it can never be reached. A collision is a word of a rule which the lexicon turns into
another verb that has rules of its own: the rule then takes inputs meant for those.
-/
namespace TextAdventure

/-- Rule `index` is the same as the earlier rule `firstIndex`. -/
structure Shadow where
  index : Nat
  rule : RuleSource
  firstIndex : Nat
  first : RuleSource
  deriving DecidableEq, Repr

/-- Rule `index` has the word `word`, a synonym of `verb`. -/
structure Collision where
  index : Nat
  rule : RuleSource
  word : Text
  verb : Text
  deriving DecidableEq, Repr

/-- A rule by its index and action. -/
def ruleLabel (index : Nat) (action : Text) : Text :=
  '#' :: (toString index).toList ++ " (".toList ++ action ++ [')']

def Shadow.text (s : Shadow) : Text :=
  "Pattern ".toList ++ ruleLabel s.index s.rule.action ++ " is shadowed by ".toList
    ++ ruleLabel s.firstIndex s.first.action

def Collision.text (c : Collision) : Text :=
  "Pattern ".toList ++ ruleLabel c.index c.rule.action ++ ": literal '".toList ++ c.word
    ++ "' is a synonym of '".toList ++ c.verb ++ "', which has patterns of its own".toList

/-- The shadows among rules from `index` on, given the expressions that came so far, each with the
rule that brought it. -/
def shadowsFrom (seen : List (Text × (Nat × RuleSource))) (index : Nat) : List Rule → List Shadow
  | [] => []
  | r :: rs =>
    match seen.lookup r.regex.source with
    | some (firstIndex, first) =>
      ⟨index, r.source, firstIndex, first⟩ :: shadowsFrom seen (index + 1) rs
    | none => shadowsFrom ((r.regex.source, (index, r.source)) :: seen) (index + 1) rs

/-- The verbs that head a pattern under their canonical spelling. -/
def patternVerbs (rules : List Rule) (l : Lexicon) : WordSet :=
  .ofList (rules.flatMap fun r =>
    ((r.pattern.head?.map Element.words).getD []).filter fun w => l.canonicalVerb w == some w)

/-- The words of one element that become another of the given verbs, unless the element names that
verb itself. -/
def elementCollisions (l : Lexicon) (verbs : WordSet) (index : Nat) (r : Rule) (e : Element) :
    List Collision :=
  e.words.filterMap fun w =>
    match l.verb? w with
    | some v =>
      if v != w && !e.words.contains v && verbs.contains v then some ⟨index, r.source, w, v⟩
      else none
    | none => none

/-- The collisions of a list of rules under a lexicon. -/
def collisionsOf (rules : List Rule) (l : Lexicon) : List Collision :=
  let verbs := patternVerbs rules l
  rules.zipIdx.flatMap fun (r, i) => r.pattern.elements.flatMap (elementCollisions l verbs i r)

namespace Rulebook

def shadows (b : Rulebook) : List Shadow := shadowsFrom [] 0 b.rules

/-- The indices of the rules that can never be reached. -/
def dead (b : Rulebook) : List Nat := b.shadows.map Shadow.index

/-- The collisions under the rulebook's own lexicon. -/
def collisions (b : Rulebook) : List Collision :=
  match b.lexicon with
  | some l => collisionsOf b.rules l
  | none => []

/-- The warnings that a rulebook gives cause to, shadows first. -/
def warnings (b : Rulebook) : List Text :=
  b.shadows.map (fun s => s.text ++ ": ".toList ++ s.rule.pattern)
    ++ b.collisions.map fun c => c.text ++ ": ".toList ++ c.rule.pattern

end Rulebook

end TextAdventure
