import TextAdventure.Rulebook.Build
import TextAdventure.Rulebook.Search
import TextAdventure.Lexicon.Defect

/-!
Interpreting a line of a player.

The line is brought into normal form; a line that is an abbreviation is replaced by what it stands
for; filler words are dropped if wanted; every word is expanded to its canonical form; the first
rule that fits the expanded words and takes whole noun phrases decides. Captures are given in the
player's own words. A line that no rule fits is refused, not an error: the refusal says whether a
verb was recognized.
-/
namespace TextAdventure

/-- How much of a refused line was understood. -/
inductive Hint where
  | noVerbRecognized
  | verbRecognizedNoPatternMatch
  deriving DecidableEq, Repr

def Hint.text : Hint → String
  | noVerbRecognized => "NoVerbRecognized"
  | verbRecognizedNoPatternMatch => "VerbRecognizedNoPatternMatch"

/-- What became of a line. `verb` is the canonical verb recognized in it and `text` the expanded
line. -/
inductive Outcome where
  | accepted (action : Text) (captures : List (Text × Text)) (verb : Option Text) (text : Text)
  | refused (hint : Hint) (verb : Option Text) (text : Text)
  deriving DecidableEq, Repr

namespace Outcome

def matched : Outcome → Bool
  | accepted .. => true
  | refused .. => false

def action? : Outcome → Option Text
  | accepted action .. => some action
  | refused .. => none

def captures : Outcome → List (Text × Text)
  | accepted _ captures .. => captures
  | refused .. => []

def hint? : Outcome → Option Hint
  | accepted .. => none
  | refused hint .. => some hint

def verb? : Outcome → Option Text
  | accepted _ _ verb _ => verb
  | refused _ verb _ => verb

def text : Outcome → Text
  | accepted _ _ _ text => text
  | refused _ _ text => text

end Outcome

structure Interpreter where
  lexicon : Lexicon
  /-- The rules, bound to the lexicon. -/
  rulebook : Rulebook
  stripFillers : Bool
  deriving DecidableEq

/-- The words at a span of the expanded text. Expansion keeps the number of words and the text is
single-spaced, so the spaces in front of a span count the words in front of it. -/
def wordsAt (s : Span) (text : Text) (surface : List Text) : Text :=
  let first := (text.take s.start).count ' '
  let size := ((text.take s.stop).drop s.start).count ' ' + 1
  Text.unwords ((surface.drop first).take size)

/-- The player's own words at each span. -/
def surfaceCaptures (spans : List (Text × Span)) (text : Text) (surface : List Text) :
    List (Text × Text) :=
  spans.map fun s => (s.1, wordsAt s.2 text surface)

namespace Interpreter

/-- An interpreter that binds the rules to its lexicon. -/
def ofRulebook (l : Lexicon) (b : Rulebook) (stripFillers : Bool) : Interpreter :=
  ⟨l, b.bind l, stripFillers⟩

/-- An interpreter with rules that are built for its lexicon. -/
def ofSources (l : Lexicon) (sources : List RuleSource) (stripFillers strict : Bool) :
    Except BuildFault Interpreter := do
  let b ← Rulebook.build sources (some l) strict
  .ok ⟨l, b, stripFillers⟩

/-- The warnings that come with `ofSources`. -/
def warnings (i : Interpreter) : List Text :=
  i.lexicon.warnings ++ i.rulebook.warnings

/-- The interpreter with further rules. -/
def extended (i : Interpreter) (sources : List RuleSource) (strict : Bool) :
    Except BuildFault Interpreter := do
  let b ← i.rulebook.extended sources strict
  .ok { i with rulebook := b }

/-- What the line stands for if it is an abbreviation as a whole, else the line in normal form. -/
def unabbreviated (l : Lexicon) (line : Text) : Text :=
  let t := Text.normal line
  if t.isEmpty then t else ((l.abbreviation? t).bind Text.nonempty?).getD t

/-- The player's words, before expansion. -/
def surfaceWords (i : Interpreter) (line : Text) : List Text :=
  let ws := Text.words (unabbreviated i.lexicon line)
  if i.stripFillers then ws.filter fun w => !i.lexicon.isFiller w else ws

/-- The expanded words. -/
def normalize (i : Interpreter) (line : Text) : List Text :=
  i.lexicon.expandWords (i.surfaceWords line)

/-- Whether a captured phrase is whole: it is not a lone article, and several words do not end in a
preposition. -/
def isWhole (l : Lexicon) (phrase : Text) : Bool :=
  match Text.words phrase with
  | [] => true
  | [w] => !l.isArticle w
  | w :: v :: ws => !l.isPreposition ((v :: ws).getLast?.getD w)

/-- Whether every captured phrase is whole. -/
def acceptable (l : Lexicon) (f : Found) : Bool := f.captures.all fun c => isWhole l c.2

/-- The rule that decides an expanded text. -/
def decide? (i : Interpreter) (text : Text) : Option Found :=
  i.rulebook.find? text (acceptable i.lexicon)

/-- Interprets a line. -/
def interpret (i : Interpreter) (line : Text) : Except Lexicon.VerbFault Outcome :=
  let surface := i.surfaceWords line
  let ws := i.lexicon.expandWords surface
  let text := Text.unwords ws
  if ws.isEmpty then .ok (.refused .noVerbRecognized none [])
  else do
    let verb ← i.lexicon.findVerb ws
    match i.decide? text with
    | some f => .ok (.accepted f.action (surfaceCaptures f.spans text surface) verb text)
    | none =>
      .ok (.refused (if verb.isSome then .verbRecognizedNoPatternMatch else .noVerbRecognized)
        verb text)

/-- What every rule makes of a line. -/
def probes (i : Interpreter) (line : Text) : List Probe :=
  i.rulebook.probes (Text.unwords (i.normalize line))

end Interpreter

end TextAdventure
