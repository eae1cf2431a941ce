import TextAdventure.Grammar.Basic
import TextAdventure.Grammar.Phrases

/-!
Grammars as they are written: one section for each kind of directive, with a comment as its heading
and a blank line behind it. Sections without entries are left out.
-/
namespace TextAdventure.Grammar

/-- A section, nothing if it has no lines. -/
def sectionLines (heading : String) (ls : List Text) : List Text :=
  if ls.isEmpty then [] else heading.toList :: ls ++ [[]]

/-- A canonical form and its synonyms. -/
def entryLine (keyword : String) (e : Text × List Text) : Text :=
  Text.trimEnd (keyword.toList ++ ' ' :: e.1 ++ ": ".toList ++ phrasesText e.2)

/-- A name and what it is set to. -/
def settingLine (keyword : String) (e : Text × Text) : Text :=
  keyword.toList ++ ' ' :: e.1 ++ " = ".toList ++ e.2

/-- The word list of a name, nothing if it is missing or empty. -/
def wordListLine (d : Document) (name : Text) : List Text :=
  match d.wordLists.get? name with
  | some (w :: ws) => [name ++ ' ' :: Text.unwords (w :: ws)]
  | _ => []

def ruleLine (r : RuleSource) : Text := "pattern ".toList ++ r.action ++ ": ".toList ++ r.pattern

/-- The section of word lists, which has its heading even if all lists are empty. -/
def wordListLines (d : Document) : List Text :=
  if d.wordLists.isEmpty then []
  else "# Word lists".toList :: wordListNames.flatMap (wordListLine d) ++ [[]]

/-- The lines of a document. -/
def documentLines (d : Document) : List Text :=
  sectionLines "# Verbs" (d.verbs.entries.map (entryLine "verb"))
    ++ sectionLines "# Directions" (d.directions.entries.map (entryLine "direction"))
    ++ sectionLines "# Abbreviations" (d.abbreviations.entries.map (settingLine "abbrev"))
    ++ sectionLines "# Multi-word verbs" (d.multiWordVerbs.map ("multiword ".toList ++ ·))
    ++ wordListLines d
    ++ sectionLines "# Errors" (d.errors.entries.map (settingLine "error"))
    ++ sectionLines "# Patterns (first match wins)" (d.rules.map ruleLine)

/-- The text of a document. -/
def Document.text (d : Document) : Text :=
  Text.trimEnd (Text.join ['\n'] (documentLines d)) ++ ['\n']

end TextAdventure.Grammar
