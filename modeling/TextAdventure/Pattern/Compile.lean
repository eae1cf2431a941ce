import TextAdventure.Pattern.Parser
import TextAdventure.Pattern.Printer
import TextAdventure.Regex.Search

/-!
Patterns as regular expressions. Elements are laid out with any blanks between them. An element that
may be left out brings its own blanks, behind it in front of the first required element and before
it afterwards, so that leaving it out never leaves a gap. Words pass through a spelling function
first, which lets a pattern follow a lexicon.
-/
namespace TextAdventure

/-- One of the words in the spelling of `spell`, each spelling once. -/
def Choice.regex (spell : Text → Text) (c : Choice) : Regex :=
  match (c.words.map spell).eraseDups with
  | [w] => .literal w
  | ws => .oneOf ws

/-- A name that is none of the excluded words. -/
def Regex.nameExcept (excluded : List Text) : Regex :=
  if excluded.isEmpty then .name
  else .cat (.notAhead (.cat (.oneOf excluded.eraseDups) (.notAhead .nameChar))) .name

/-- A captured phrase: names with blanks between them, as few as possible. -/
def Regex.phrase (excluded : List Text) : Regex :=
  .capture (.cat (.nameExcept excluded) (.lazyMany (.cat .blanks (.nameExcept excluded))))

/-- What an element stands for, given the elements in front of it, nearest first. -/
def Element.regex (spell : Text → Text) (before : List Element) : Element → Regex
  | choice c => c.regex spell
  | optional c cs => .spaced ((c :: cs).map (Choice.regex spell))
  | capture _ => .phrase ((excludedWords before).map spell)
  | wildcard => .anything

/-- Lays out elements behind others, which are given nearest first. -/
def layout (spell : Text → Text) (before : List Element) : List Element → Regex
  | [] => .empty
  | e :: es =>
    let body := e.regex spell before
    let piece : Regex :=
      match before.any Element.isRequired, e.isRequired with
      | false, false => .opt (.cat body .blanks)
      | false, true => body
      | true, true => .cat .blanks body
      | true, false => .opt (.cat .blanks body)
    .cat piece (layout spell (e :: before) es)

namespace Pattern

/-- The regular expression of a pattern. -/
def regex (p : Pattern) (spell : Text → Text) : Regex := layout spell [] p.elements

end Pattern

end TextAdventure
