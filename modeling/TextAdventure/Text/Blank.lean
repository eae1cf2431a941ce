import TextAdventure.Text.Basic

/-!
Blanks, words and lines.

A blank is any character that Unicode counts as white space, with the four information separators
(28 to 31) among them. A text is cut into words at runs of blanks and into lines at line breaks.
-/
namespace TextAdventure.Text

def isBlank (c : Char) : Bool :=
  let n := c.toNat
  (9 ≤ n && n ≤ 13) || (28 ≤ n && n ≤ 32) || n == 0x85 || n == 0xA0 || n == 0x1680 ||
    (0x2000 ≤ n && n ≤ 0x200A) || n == 0x2028 || n == 0x2029 || n == 0x202F || n == 0x205F ||
    n == 0x3000

/-- Puts a word in front of others unless it is empty. -/
def consWord (w : Text) (ws : List Text) : List Text := if w.isEmpty then ws else w :: ws

/-- The word that the text begins with, empty before a blank, and the words after it. -/
def splitWords : Text → Text × List Text
  | [] => ([], [])
  | c :: t =>
    let (w, ws) := splitWords t
    if isBlank c then ([], consWord w ws) else (c :: w, ws)

/-- The longest runs of characters that are not blank. -/
def words (t : Text) : List Text :=
  let (w, ws) := splitWords t
  consWord w ws

/-- The words joined by single spaces. -/
def unwords (ws : List Text) : Text := join [' '] ws

/-- Drops blanks at the start. -/
def trimStart (t : Text) : Text := t.dropWhile isBlank

/-- Drops blanks at the end. -/
def trimEnd : Text → Text
  | [] => []
  | c :: t =>
    match trimEnd t with
    | [] => if isBlank c then [] else [c]
    | u => c :: u

/-- Drops blanks at both ends. -/
def trim (t : Text) : Text := trimEnd (trimStart t)

/-- Characters that end a line. -/
def isLineBreak (c : Char) : Bool :=
  let n := c.toNat
  (10 ≤ n && n ≤ 13) || (28 ≤ n && n ≤ 30) || n == 0x85 || n == 0x2028 || n == 0x2029

/-- Puts a character in front of the first line. -/
def consLine (c : Char) : List Text → List Text
  | [] => [[c]]
  | l :: ls => (c :: l) :: ls

/-- The lines of a text without their breaks. A carriage return and the line feed after it are one
break, and a break at the end begins no further line. -/
def lines : Text → List Text
  | [] => []
  | '\r' :: '\n' :: t => [] :: lines t
  | c :: t => if isLineBreak c then [] :: lines t else consLine c (lines t)

end TextAdventure.Text
