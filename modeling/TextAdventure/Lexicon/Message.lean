import TextAdventure.Lexicon.Lookup

/-!
What the player is told. Each kind of message has a usual template, which a lexicon may replace.
The placeholders of a template are filled one after the other.
-/
namespace TextAdventure

inductive MessageKind where
  | unknownVerb
  | noVerb
  | ambiguousObject
  | objectNotFound
  | cantDoThat
  | needMoreInfo
  | needIndirectObject
  deriving DecidableEq, Repr

namespace MessageKind

def all : List MessageKind :=
  [unknownVerb, noVerb, ambiguousObject, objectNotFound, cantDoThat, needMoreInfo,
    needIndirectObject]

/-- The name under which a lexicon keeps its template. -/
def key : MessageKind → Text
  | unknownVerb => "unknownVerb".toList
  | noVerb => "noVerb".toList
  | ambiguousObject => "ambiguousObject".toList
  | objectNotFound => "objectNotFound".toList
  | cantDoThat => "cantDoThat".toList
  | needMoreInfo => "needMoreInfo".toList
  | needIndirectObject => "needIndirectObject".toList

/-- The usual template. -/
def template : MessageKind → Text
  | unknownVerb => "I don't understand that verb.".toList
  | noVerb => "Please start your command with a verb.".toList
  | ambiguousObject => "Which \x7bobject\x7d do you mean?".toList
  | objectNotFound => "You don't see any \x7bobject\x7d here.".toList
  | cantDoThat => "You can't \x7bverb\x7d that.".toList
  | needMoreInfo => "What do you want to \x7bverb\x7d?".toList
  | needIndirectObject =>
    "What do you want to \x7bverb\x7d the \x7bobject\x7d \x7bpreposition\x7d?".toList

def ofKey? (k : Text) : Option MessageKind := all.find? fun m => m.key == k

end MessageKind

/-- The value of a placeholder. -/
inductive Detail where
  /-- Not decided, so that a usual value may step in. -/
  | missing
  /-- Decided to be left open: the placeholder stays. -/
  | withheld
  | given (value : Text)
  deriving DecidableEq, Repr

namespace Detail

/-- The detail, or the usual value if nothing was decided; no value leaves the placeholder open. -/
def orElse (d : Detail) (usual : Option Text) : Detail :=
  match d, usual with
  | missing, some v => given v
  | missing, none => withheld
  | d, _ => d

/-- Fills in one placeholder. -/
def fill (d : Detail) (placeholder t : Text) : Text :=
  match d with
  | given v => Text.replaceAll placeholder v t
  | _ => t

end Detail

/-- The values of the placeholders of a message. -/
structure Details where
  object : Detail := .missing
  verb : Detail := .missing
  preposition : Detail := .missing
  deriving DecidableEq, Repr

/-- Fills in object, verb and preposition, in this order. -/
def Details.fill (d : Details) (t : Text) : Text :=
  d.preposition.fill "\x7bpreposition\x7d".toList
    (d.verb.fill "\x7bverb\x7d".toList (d.object.fill "\x7bobject\x7d".toList t))

namespace Lexicon

/-- The lexicon's own template under a key, unless it is empty. -/
def ownTemplate? (l : Lexicon) (k : Text) : Option Text := (l.errors.get? k).bind Text.nonempty?

/-- The template under any key: the lexicon's own, else the usual one. -/
def template? (l : Lexicon) (k : Text) : Option Text :=
  (l.ownTemplate? k).or ((MessageKind.ofKey? k).map MessageKind.template)

/-- The template of a kind of message, which never fails to exist. -/
def template (l : Lexicon) (m : MessageKind) : Text := (l.ownTemplate? m.key).getD m.template

theorem template?_key (l : Lexicon) (m : MessageKind) :
    l.template? m.key = some (l.template m) := by
  have known : MessageKind.ofKey? m.key = some m := by cases m <;> decide
  cases h : l.ownTemplate? m.key <;> simp [template?, template, h, known]

/-- The message under any key. -/
def message? (l : Lexicon) (k : Text) (d : Details) : Option Text := (l.template? k).map d.fill

/-- The message of a kind. -/
def message (l : Lexicon) (m : MessageKind) (d : Details) : Text := d.fill (l.template m)

end Lexicon

end TextAdventure
