import TextAdventure.Rulebook.Basic

/-!
Applying a rulebook to a text: the first rule that fits, or what each rule makes of it.
-/
namespace TextAdventure

/-- A rule that fits a text, with what its slots take. -/
structure Found where
  index : Nat
  rule : Rule
  captures : List (Text × Text)
  spans : List (Text × Span)
  deriving DecidableEq

def Found.action (f : Found) : Text := f.rule.action

/-- What one rule makes of a text; no captures where it does not fit. -/
structure Probe where
  index : Nat
  rule : RuleSource
  captures : Option (List (Text × Text))
  deriving DecidableEq, Repr

def Probe.matched (p : Probe) : Bool := p.captures.isSome

/-- The reading of the text by one rule, if that rule fits. -/
def Rule.found? (r : Rule) (index : Nat) (t : Text) : Option Found :=
  (r.spans? t).map fun spans => ⟨index, r, Rule.phrasesAt t spans, spans⟩

namespace Rulebook

/-- The first rule that fits the whole text and whose reading is acceptable. -/
def find? (b : Rulebook) (t : Text) (accept : Found → Bool) : Option Found :=
  b.rules.zipIdx.findSome? fun (r, i) => (r.found? i t).filter accept

/-- What every rule makes of the text. -/
def probes (b : Rulebook) (t : Text) : List Probe :=
  b.rules.zipIdx.map fun (r, i) => ⟨i, r.source, r.captures? t⟩

end Rulebook

end TextAdventure
