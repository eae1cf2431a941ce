import TextAdventure.Table
import TextAdventure.WordSet
import TextAdventure.Text.Normal

/-!
The vocabulary of a game. Verbs and directions are two separate families of words; each entry has a
canonical form and synonyms. A vocabulary is what an author writes down, in any case and spacing; a
lexicon holds it in normal form.
-/
namespace TextAdventure

/-- The tables of an author. -/
structure Vocabulary where
  verbs : Table (List Text) := ∅
  directions : Table (List Text) := ∅
  abbreviations : Table Text := ∅
  multiWordVerbs : List Text := []
  articles : List Text := []
  fillers : List Text := []
  prepositions : List Text := []
  pronouns : List Text := []
  all : List Text := []
  errors : Table Text := ∅
  deriving DecidableEq

/-- A canonical word and the words that mean the same. -/
structure Entry where
  canonical : Text
  synonyms : WordSet
  deriving DecidableEq

/-- Every spelling of the entry. -/
def Entry.forms (e : Entry) : WordSet := e.synonyms.insert e.canonical

structure Lexicon where
  verbs : List Entry
  directions : List Entry
  /-- What stands for a whole input. -/
  abbreviations : Table Text
  /-- Verbs of several words, besides those among the synonyms. -/
  multiWordVerbs : List Text
  articles : WordSet
  fillers : WordSet
  prepositions : List Text
  pronouns : WordSet
  /-- Words for everything at once. -/
  all : WordSet
  /-- Message templates that replace the usual ones. -/
  errors : Table Text
  deriving DecidableEq

namespace Lexicon

/-- The entries of a table, in normal form. -/
def entriesOf (t : Table (List Text)) : List Entry :=
  t.entries.map fun e => ⟨Text.normal e.1, .ofList (e.2.map Text.normal)⟩

/-- Abbreviations in normal form; of two that become the same the later one counts. -/
def abbreviationsOf (t : Table Text) : Table Text :=
  .ofPairs (t.entries.map fun e => (Text.normal e.1, Text.normal e.2))

def normalSet (ws : List Text) : WordSet := .ofList (ws.map Text.normal)

def ofVocabulary (v : Vocabulary) : Lexicon where
  verbs := entriesOf v.verbs
  directions := entriesOf v.directions
  abbreviations := abbreviationsOf v.abbreviations
  multiWordVerbs := v.multiWordVerbs.map Text.normal
  articles := normalSet v.articles
  fillers := normalSet v.fillers
  prepositions := v.prepositions.map Text.normal
  pronouns := normalSet v.pronouns
  all := normalSet v.all
  errors := v.errors

/-- The table of a list of entries; of two with one canonical form the later one counts. -/
def tableOf (es : List Entry) : Table (List Text) :=
  .ofPairs (es.map fun e => (e.canonical, e.synonyms.toList))

/-- The lexicon written down as tables. -/
def toVocabulary (l : Lexicon) : Vocabulary where
  verbs := tableOf l.verbs
  directions := tableOf l.directions
  abbreviations := l.abbreviations
  multiWordVerbs := l.multiWordVerbs
  articles := l.articles.toList
  fillers := l.fillers.toList
  prepositions := l.prepositions
  pronouns := l.pronouns.toList
  all := l.all.toList
  errors := l.errors

end Lexicon

end TextAdventure
