import TextAdventure.Lexicon.Basic
import TextAdventure.Text.Substring

/-!
Looking words up. A word belongs to the entry of which it is the canonical form, else to the first
entry that has it among its synonyms. An empty canonical form counts as none where a verb is wanted.
-/
namespace TextAdventure

/-- The canonical form of a word in normal form. -/
def canonicalIn (es : List Entry) (w : Text) : Option Text :=
  ((es.find? fun e => e.canonical == w).or (es.find? fun e => e.synonyms.contains w)).map
    Entry.canonical

/-- A text that is not empty. -/
def Text.nonempty? (t : Text) : Option Text := if t.isEmpty then none else some t

namespace Lexicon

variable (l : Lexicon)

def canonicalVerb (w : Text) : Option Text := canonicalIn l.verbs (Text.normal w)

def canonicalDirection (w : Text) : Option Text := canonicalIn l.directions (Text.normal w)

/-- The canonical verb, unless it is empty. -/
def verb? (w : Text) : Option Text := (l.canonicalVerb w).bind Text.nonempty?

/-- The canonical direction, unless it is empty. -/
def direction? (w : Text) : Option Text := (l.canonicalDirection w).bind Text.nonempty?

def abbreviation? (w : Text) : Option Text := l.abbreviations.get? (Text.normal w)

def isArticle (w : Text) : Bool := l.articles.contains w

def isFiller (w : Text) : Bool := l.fillers.contains (Text.normal w)

def isArticleOrFiller (w : Text) : Bool :=
  l.articles.contains (Text.normal w) || l.fillers.contains (Text.normal w)

def isPreposition (w : Text) : Bool := l.prepositions.contains (Text.normal w)

/-- The canonical verb, else the canonical direction, else the word itself in normal form. -/
def canonicalWord (w : Text) : Text :=
  ((l.verb? w).or (l.direction? w)).getD (Text.normal w)

def expandWords (ws : List Text) : List Text := ws.map l.canonicalWord

/-- Puts a phrase in front of those that do not have more words. -/
def insertPhrase (p : Text) : List Text → List Text
  | [] => [p]
  | q :: qs =>
    if (Text.words q).length ≤ (Text.words p).length then p :: q :: qs else q :: insertPhrase p qs

/-- The phrases that may name a verb: the verbs of several words and every verb form with a space in
it. Those of more words come first, and among equals the order is by code point. -/
def phrases : List Text :=
  let forms := l.verbs.flatMap fun e => e.forms.toList
  (WordSet.ofList (l.multiWordVerbs.map Text.normal ++ forms.filter (·.contains ' '))).toList.foldr
    insertPhrase []

/-- Why no verb can be told. -/
inductive VerbFault where
  /-- The phrase that was found has no first word. -/
  | blankPhrase
  deriving DecidableEq, Repr

/-- The verb that a phrase names: its canonical form, else that of its first word, else the phrase
itself. -/
def verbOfPhrase (p : Text) : Except VerbFault Text :=
  match l.verb? p with
  | some v => .ok v
  | none =>
    match Text.words p with
    | [] => .error .blankPhrase
    | w :: _ => .ok ((l.verb? w).getD p)

/-- The first phrase that stands among the words. -/
def phraseIn? (ws : List Text) : Option Text :=
  let padded := ' ' :: Text.unwords (ws.map Text.normal) ++ [' ']
  l.phrases.find? fun p => Text.occursIn (' ' :: p ++ [' ']) padded

/-- The verb of a row of words: that of the longest phrase in it, else of the first word that has
one. -/
def findVerb (ws : List Text) : Except VerbFault (Option Text) :=
  match l.phraseIn? ws with
  | some p => (l.verbOfPhrase p).map some
  | none => .ok (ws.findSome? l.verb?)

/-- Every role of a word. -/
structure Description where
  word : Text
  verb : Option Text
  direction : Option Text
  abbreviation : Option Text
  canonical : Text
  article : Bool
  filler : Bool
  preposition : Bool
  pronoun : Bool
  all : Bool
  deriving DecidableEq, Repr

def describe (w : Text) : Description :=
  let n := Text.normal w
  { word := n
    verb := l.canonicalVerb n
    direction := l.canonicalDirection n
    abbreviation := l.abbreviation? n
    canonical := l.canonicalWord n
    article := l.articles.contains n
    filler := l.fillers.contains n
    preposition := l.prepositions.contains n
    pronoun := l.pronouns.contains n
    all := l.all.contains n }

end Lexicon

end TextAdventure
