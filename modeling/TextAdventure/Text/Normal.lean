import TextAdventure.Text.Blank
import TextAdventure.Text.CaseFolding

/-!
The normal form in which words are compared: case-folded, with single spaces between words and no
blank at either end.
-/
namespace TextAdventure.Text

def normal (t : Text) : Text := casefold (unwords (words t))

end TextAdventure.Text
