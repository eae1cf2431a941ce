import TextAdventure.Json
import TextAdventure.Command
import TextAdventure.Explanation

/-!
Results as JSON.
-/
namespace TextAdventure

/-- Captures as an object, in the order of the slots. -/
def capturesJson (captures : List (Text × Text)) : Json :=
  .object (captures.map fun c => (c.1, .string c.2))

def Command.json (c : Command) : Json :=
  .ofFields [("action", .string c.action), ("verb", .string c.verb),
    ("direct_object", .ofText? c.directObject), ("indirect_object", .ofText? c.indirectObject),
    ("topic", .ofText? c.topic), ("value", .ofText? c.value), ("spell", .ofText? c.spell),
    ("modifiers", .ofTexts c.modifiers), ("captures", capturesJson c.captures)]

/-- An outcome with the reply to it and its command. -/
def Interpreter.outcomeJson (i : Interpreter) (o : Outcome) : Json :=
  .ofFields [("matched", .bool o.matched), ("action", .ofText? o.action?),
    ("captures", capturesJson o.captures),
    ("hint", .ofText? (o.hint?.map fun h => h.text.toList)), ("verb", .ofText? o.verb?),
    ("text", .string o.text), ("message", .ofText? (i.explain? o {})),
    ("command", ((Command.ofOutcome? o (some i.lexicon)).map Command.json).getD .null)]

def Probe.json (p : Probe) : Json :=
  .ofFields [("index", .ofNat p.index), ("pattern", .string p.rule.pattern),
    ("action", .string p.rule.action), ("matched", .bool p.matched),
    ("captures", (p.captures.map capturesJson).getD .null)]

def Lexicon.Description.json (d : Lexicon.Description) : Json :=
  .ofFields [("word", .string d.word), ("verb", .ofText? d.verb),
    ("direction", .ofText? d.direction),
    ("abbreviation", .ofText? d.abbreviation), ("canonical", .string d.canonical),
    ("article", .bool d.article), ("filler", .bool d.filler), ("preposition", .bool d.preposition),
    ("pronoun", .bool d.pronoun), ("all", .bool d.all)]

def Vocabulary.json (v : Vocabulary) : Json :=
  let lists (t : Table (List Text)) : Json := .object (t.entries.map fun e => (e.1, .ofTexts e.2))
  let texts (t : Table Text) : Json := .object (t.entries.map fun e => (e.1, .string e.2))
  .ofFields [("verbs", lists v.verbs), ("directions", lists v.directions),
    ("abbreviations", texts v.abbreviations), ("multi_word_verbs", .ofTexts v.multiWordVerbs),
    ("articles", .ofTexts v.articles), ("fillers", .ofTexts v.fillers),
    ("prepositions", .ofTexts v.prepositions), ("pronouns", .ofTexts v.pronouns),
    ("all", .ofTexts v.all), ("errors", texts v.errors)]

end TextAdventure
