import TextAdventure.Interpreter
import TextAdventure.Text.Lowercase

/-!
Commands: an accepted line in the shape that a game acts on, verb, direct object and indirect
object. Slots are grouped by the part that they can play; noun phrases lose the articles in front of
them but stay text, since which thing they mean is for the game to find out.
-/
namespace TextAdventure

structure Command where
  action : Text
  verb : Text
  directObject : Option Text
  indirectObject : Option Text
  topic : Option Text
  value : Option Text
  spell : Option Text
  modifiers : List Text
  /-- The captures as they were, articles included. -/
  captures : List (Text × Text)
  deriving DecidableEq, Repr

namespace Command

/-- Actions whose verb is not their own name in lower case. -/
def actionVerbs : List (Text × Text) :=
  [("GIVE", "give"), ("WAVE_WAND", "wave"), ("PLAY_INSTRUMENT", "play"), ("INSERT", "put"),
    ("PUT_ON", "put"), ("SCAN", "examine"), ("PUSH_BUTTON", "push"), ("ASK_ABOUT", "ask"),
    ("TELL_ABOUT", "tell"), ("SET_CONTROL", "set"), ("INSPECT", "examine"), ("LOOK_IN", "search"),
    ("TAKE", "take"), ("DROP", "drop"), ("EXAMINE", "examine"), ("ENTER", "enter"),
    ("EXIT", "exit"), ("GO", "go"), ("RUN", "go")].map fun p => (p.1.toList, p.2.toList)

/-- The verb by which a game knows an action. -/
def verbOf (action : Text) : Text := (actionVerbs.lookup action).getD (Text.lowercase action)

/-- Slots for what is acted on, in order of preference. -/
def directSlots : List Text :=
  ["item", "object", "clothing", "device", "door", "food", "beverage", "text", "control",
    "equipment", "button", "message"].map String.toList

/-- Slots for persons and targets. -/
def targetSlots : List Text := ["character", "target", "person"].map String.toList

/-- Slots for the other thing involved. -/
def indirectSlots : List Text :=
  ["container", "vendor", "key", "surface", "seat", "vehicle", "destination", "weapon"].map
    String.toList

def valueSlots : List Text := ["value", "depth"].map String.toList

/-- What the first of the slots holds that holds anything. -/
def firstOf? (captures : List (Text × Text)) (slots : List Text) : Option Text :=
  slots.findSome? fun s => (captures.lookup s).bind Text.nonempty?

/-- The words without the articles in front; the last word always stays. -/
def dropArticles (l : Lexicon) : List Text → List Text
  | w :: v :: ws => if l.isArticle w then dropArticles l (v :: ws) else w :: v :: ws
  | ws => ws

/-- A noun phrase without the articles in front. -/
def stripArticles (lexicon : Option Lexicon) (phrase : Text) : Text :=
  match lexicon with
  | none => phrase
  | some l => Text.unwords (dropArticles l (Text.words phrase))

/-- Puts a noun phrase into the first of the two places of objects that is free; the second place is
overwritten. -/
def addObject (c : Command) (phrase : Option Text) : Command :=
  match phrase, c.directObject with
  | none, _ => c
  | some p, none => { c with directObject := some p }
  | some p, some _ => { c with indirectObject := some p }

/-- Makes a direction the direct object, in its canonical form if it has one. -/
def addDirection (c : Command) (lexicon : Option Lexicon) (phrase : Option Text) : Command :=
  match phrase with
  | none => c
  | some p => { c with directObject := some ((lexicon.bind (·.direction? p)).getD p) }

/-- Marks a command that is about everything at once. -/
def markAll (c : Command) (lexicon : Option Lexicon) : Command :=
  match lexicon, c.directObject with
  | some l, some p => if l.all.contains p then { c with modifiers := ["all".toList] } else c
  | _, _ => c

/-- The command of an accepted line; a refused line has none. -/
def ofOutcome? (o : Outcome) (lexicon : Option Lexicon) : Option Command :=
  match o with
  | .refused .. => none
  | .accepted action captures _ _ =>
    let stripped := captures.map fun c => (c.1, stripArticles lexicon c.2)
    let bare : Command :=
      { action
        verb := verbOf action
        directObject := firstOf? stripped directSlots
        indirectObject := none
        topic := stripped.lookup "topic".toList
        value := firstOf? stripped valueSlots
        spell := stripped.lookup "spell".toList
        modifiers := []
        captures }
    some ((((bare.addObject (firstOf? stripped targetSlots)).addObject
      (firstOf? stripped indirectSlots)).addDirection lexicon
      (firstOf? stripped ["direction".toList])).markAll lexicon)

end Command

end TextAdventure
