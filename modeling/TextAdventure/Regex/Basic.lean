import TextAdventure.Text.WordChar
import TextAdventure.Text.Blank

/-!
Regular expressions in the shape that compiled patterns need, and their written form. Two
expressions with the same written form accept the same texts, so the written form identifies a
compiled pattern.
-/
namespace TextAdventure

/-- A character that may occur in a captured phrase: a word character, an apostrophe or a hyphen. -/
def isNameChar (c : Char) : Bool := Text.isWordChar c || c == '\x27' || c == '-'

inductive Regex where
  /-- Nothing. -/
  | empty
  /-- One fixed word, case ignored. -/
  | literal (word : Text)
  /-- One of several words, earlier ones preferred, case ignored. -/
  | oneOf (words : List Text)
  /-- One or more blanks, as many as possible. -/
  | blanks
  /-- One character of a name. -/
  | nameChar
  /-- One or more characters of a name, as many as possible. -/
  | name
  /-- One or more characters of any kind but line feeds, as few as possible. -/
  | anything
  | cat (first second : Regex)
  /-- The body, or nothing if that fails. -/
  | opt (body : Regex)
  /-- The body repeated, as few times as possible. -/
  | lazyMany (body : Regex)
  /-- Succeeds without reading where the body does not match. -/
  | notAhead (body : Regex)
  /-- Records what the body reads. -/
  | capture (body : Regex)
  deriving DecidableEq, Repr

namespace Regex

/-- Characters that are written with a backslash in front. -/
def isSpecial (c : Char) : Bool :=
  ['\t', '\n', '\x0b', '\x0c', '\r', ' ', '#', '$', '&', '(', ')', '*', '+', '-', '.', '?', '[',
    '\\', ']', '^', '\x7b', '|', '\x7d', '~'].contains c

/-- A word in which no character has a special meaning. -/
def escape (w : Text) : Text := w.flatMap fun c => if isSpecial c then ['\\', c] else [c]

/-- The written form. -/
def source : Regex → Text
  | empty => []
  | literal w => escape w
  | oneOf ws => "(?:".toList ++ Text.join ['|'] (ws.map escape) ++ [')']
  | blanks => "\\s+".toList
  | nameChar => "[\\w'-]".toList
  | name => "[\\w'-]+".toList
  | anything => ".+?".toList
  | cat r s => r.source ++ s.source
  | opt r => "(?:".toList ++ r.source ++ ")?".toList
  | lazyMany r => "(?:".toList ++ r.source ++ ")*?".toList
  | notAhead r => "(?!".toList ++ r.source ++ [')']
  | capture r => '(' :: r.source ++ [')']

/-- The expressions one after the other, with blanks between any two. -/
def spaced : List Regex → Regex
  | [] => empty
  | [r] => r
  | r :: s :: rs => cat r (cat blanks (spaced (s :: rs)))

end Regex

end TextAdventure
