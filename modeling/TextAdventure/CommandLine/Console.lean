import TextAdventure.Text.Basic

/-!
What is written to a console. Lines of markup are printed by the console, which may refuse one;
other text is written as it is. How a console reads markup is its own affair: whoever makes a line
puts tags around the text that is in a style, and asks the console to escape what is no markup.
-/
namespace TextAdventure.CommandLine

/-- The styles in use. -/
inductive Style where
  | bold
  | dim
  | green
  | red
  | yellow
  deriving DecidableEq, Repr

def Style.name : Style → Text
  | bold => "bold".toList
  | dim => "dim".toList
  | green => "green".toList
  | red => "red".toList
  | yellow => "yellow".toList

/-- The markup between the opening and the closing tag of a style. -/
def styled (style : Style) (markup : Text) : Text :=
  '[' :: style.name ++ ']' :: markup ++ '[' :: '/' :: style.name ++ [']']

structure Console where
  /-- The text as markup for itself. -/
  escape : Text → Text
  /-- The printed line of the markup, if the console can make sense of it. -/
  print? : Text → Option Text

/-- A part of the output. -/
inductive Output where
  /-- A line that the console prints. -/
  | line (markup : Text)
  | plain (text : Text)
  deriving DecidableEq, Repr

/-- The text that was written, and whether nothing was refused. -/
structure Written where
  text : Text
  complete : Bool
  deriving DecidableEq, Repr

namespace Console

variable (c : Console)

def write? : Output → Option Text
  | .line markup => c.print? markup
  | .plain text => some text

/-- Writes one part after another and ends at the first one that is refused. -/
def writeAll : List Output → Written
  | [] => ⟨[], true⟩
  | o :: os =>
    match c.write? o with
    | none => ⟨[], false⟩
    | some t =>
      let rest := writeAll os
      ⟨t ++ rest.text, rest.complete⟩

end Console

end TextAdventure.CommandLine
