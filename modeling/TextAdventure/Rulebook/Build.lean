import TextAdventure.Rulebook.Warning

/-!
Building rulebooks. A malformed pattern stops the building; under `strict` so does the first shadow,
or else the first collision.
-/
namespace TextAdventure

/-- Why a rulebook cannot be built. -/
inductive BuildFault where
  /-- The pattern at the index is malformed. -/
  | malformed (index : Nat) (action : Text) (cause : Malformed)
  | shadowed (shadow : Shadow)
  | collides (collision : Collision)
  deriving DecidableEq, Repr

/-- The report of a fault. -/
def BuildFault.message : BuildFault → String
  | malformed index action cause =>
    cause.message ("Pattern " ++ String.ofList (ruleLabel index action) ++ ": ")
  | shadowed s => String.ofList s.text ++ "\n  " ++ String.ofList s.rule.pattern
  | collides c => String.ofList c.text ++ "\n  " ++ String.ofList c.rule.pattern

namespace Rulebook

/-- Compiles rules that are numbered from `index` on. -/
def compileFrom (spell : Text → Text) (index : Nat) :
    List RuleSource → Except BuildFault (List Rule)
  | [] => .ok []
  | s :: ss =>
    match Rule.compile spell s with
    | .error m => .error (.malformed index s.action m)
    | .ok r => do
      let rs ← compileFrom spell (index + 1) ss
      .ok (r :: rs)

/-- The rulebook itself, unless `strict` and something in it is suspicious. -/
def checked (b : Rulebook) (strict : Bool) : Except BuildFault Rulebook :=
  if strict then
    match b.shadows, b.collisions with
    | s :: _, _ => .error (.shadowed s)
    | [], c :: _ => .error (.collides c)
    | [], [] => .ok b
  else .ok b

/-- Builds a rulebook from what an author wrote. -/
def build (sources : List RuleSource) (lexicon : Option Lexicon) (strict : Bool) :
    Except BuildFault Rulebook := do
  let rules ← compileFrom (spelling lexicon) 0 sources
  checked ⟨rules, lexicon⟩ strict

/-- A rulebook with more rules behind its own, and those rules as a rulebook by themselves: both are
checked, and both give cause to warnings. -/
structure Extension where
  added : Rulebook
  joined : Rulebook

def Extension.warnings (e : Extension) : List Text := e.added.warnings ++ e.joined.warnings

/-- Builds further rules under the lexicon of the rulebook and joins them to it. -/
def extension (b : Rulebook) (sources : List RuleSource) (strict : Bool) :
    Except BuildFault Extension := do
  let added ← build sources b.lexicon strict
  let joined ← checked ⟨b.rules ++ added.rules, b.lexicon⟩ strict
  .ok ⟨added, joined⟩

/-- The rulebook with further rules behind its own. -/
def extended (b : Rulebook) (sources : List RuleSource) (strict : Bool) :
    Except BuildFault Rulebook :=
  (b.extension sources strict).map Extension.joined

end Rulebook

end TextAdventure
