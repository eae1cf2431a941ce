/-!
Text as a list of characters. Every function on a player's line or an author's file recurses on
this list, and offsets into a text count its characters.
-/
namespace TextAdventure

abbrev Text := List Char

/-- The texts with `separator` between any two neighbours. -/
def Text.join (separator : Text) : List Text → Text
  | [] => []
  | [t] => t
  | t :: u :: us => t ++ separator ++ Text.join separator (u :: us)

end TextAdventure
