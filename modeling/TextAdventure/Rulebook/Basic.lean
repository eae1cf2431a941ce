import TextAdventure.Pattern.Compile
import TextAdventure.Lexicon.Lookup

/-!
Rulebooks: the patterns of a game in the order in which they are tried. Each rule carries the
regular expression of its pattern in the spelling of the rulebook's lexicon.
-/
namespace TextAdventure

/-- What an author writes for a rule. -/
structure RuleSource where
  pattern : Text
  action : Text
  deriving DecidableEq, Repr

structure Rule where
  source : RuleSource
  pattern : Pattern
  regex : Regex
  deriving DecidableEq

namespace Rule

/-- Reads a rule and puts its words into the spelling of `spell`. -/
def compile (spell : Text → Text) (s : RuleSource) : Except Malformed Rule :=
  match Pattern.parse s.pattern with
  | .ok p => .ok ⟨s, p, p.regex spell⟩
  | .error m => .error m

/-- The rule in another spelling. -/
def bind (r : Rule) (spell : Text → Text) : Rule := { r with regex := r.pattern.regex spell }

def action (r : Rule) : Text := r.source.action

/-- The stretch of the text that each slot takes, in the order of the slots, if the rule fits the
whole text. -/
def spans? (r : Rule) (t : Text) : Option (List (Text × Span)) :=
  (r.regex.matchWhole? t).map r.pattern.slots.zip

/-- The text of each span. -/
def phrasesAt (t : Text) (spans : List (Text × Span)) : List (Text × Text) :=
  spans.map fun s => (s.1, Text.trim (s.2.slice t))

/-- The text that each slot takes, if the rule fits the whole text. -/
def captures? (r : Rule) (t : Text) : Option (List (Text × Text)) := (r.spans? t).map (phrasesAt t)

end Rule

/-- The rules of a game, in the order in which they are tried, bound to a lexicon or to none. -/
structure Rulebook where
  rules : List Rule
  lexicon : Option Lexicon
  deriving DecidableEq

namespace Rulebook

/-- How words are spelled under a lexicon; without one, as they are. -/
def spelling : Option Lexicon → Text → Text
  | some l => l.canonicalWord
  | none => id

def size (b : Rulebook) : Nat := b.rules.length

/-- The same rules under another lexicon. -/
def bind (b : Rulebook) (l : Lexicon) : Rulebook :=
  ⟨b.rules.map fun r => r.bind l.canonicalWord, some l⟩

/-- The actions of the rules, each once, in the order in which they first come. -/
def actions (b : Rulebook) : List Text := (b.rules.map Rule.action).eraseDups

end Rulebook

end TextAdventure
