import TextAdventure.Lexicon.Basic
import TextAdventure.Rulebook.Basic

/-!
Grammar documents: the vocabulary and the rules of a game as an author writes them, line by line.
A document is what its directives add up to.
-/
namespace TextAdventure.Grammar

/-- The word lists that a grammar may have. -/
def wordListNames : List Text :=
  ["articles", "fillers", "prepositions", "pronouns", "all"].map String.toList

/-- What one line of a grammar says. -/
inductive Directive where
  | verb (canonical : Text) (synonyms : List Text)
  | direction (canonical : Text) (synonyms : List Text)
  | abbreviation (token phrase : Text)
  | multiWordVerb (phrase : Text)
  | wordList (name : Text) (words : List Text)
  | error (key template : Text)
  | rule (source : RuleSource)
  deriving DecidableEq, Repr

structure Document where
  verbs : Table (List Text) := ∅
  directions : Table (List Text) := ∅
  abbreviations : Table Text := ∅
  multiWordVerbs : List Text := []
  wordLists : Table (List Text) := ∅
  errors : Table Text := ∅
  rules : List RuleSource := []
  deriving DecidableEq

namespace Document

/-- The document with one more directive. Lists under one name grow; abbreviations and templates are
replaced. -/
def add (d : Document) : Directive → Document
  | .verb canonical synonyms => { d with verbs := d.verbs.append canonical synonyms }
  | .direction canonical synonyms => { d with directions := d.directions.append canonical synonyms }
  | .abbreviation token phrase => { d with abbreviations := d.abbreviations.put token phrase }
  | .multiWordVerb phrase => { d with multiWordVerbs := d.multiWordVerbs ++ [phrase] }
  | .wordList name words => { d with wordLists := d.wordLists.append name words }
  | .error key template => { d with errors := d.errors.put key template }
  | .rule source => { d with rules := d.rules ++ [source] }

def ofDirectives (ds : List Directive) : Document := ds.foldl add {}

/-- The words of a list, none if the list is missing. -/
def wordList (d : Document) (name : String) : List Text := (d.wordLists.get? name.toList).getD []

/-- The vocabulary without the rules. -/
def vocabulary (d : Document) : Vocabulary where
  verbs := d.verbs
  directions := d.directions
  abbreviations := d.abbreviations
  multiWordVerbs := d.multiWordVerbs
  articles := d.wordList "articles"
  fillers := d.wordList "fillers"
  prepositions := d.wordList "prepositions"
  pronouns := d.wordList "pronouns"
  all := d.wordList "all"
  errors := d.errors

def lexicon (d : Document) : Lexicon := .ofVocabulary d.vocabulary

/-- Equality of documents up to the order of keys; the order in lists counts. -/
def sameAs (d e : Document) : Bool :=
  d.verbs.sameAs e.verbs && d.directions.sameAs e.directions
    && d.abbreviations.sameAs e.abbreviations && d.multiWordVerbs == e.multiWordVerbs
    && d.wordLists.sameAs e.wordLists && d.errors.sameAs e.errors && d.rules == e.rules

end Document

end TextAdventure.Grammar
