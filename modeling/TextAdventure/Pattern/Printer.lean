import TextAdventure.Pattern.Basic

/-!
The canonical spelling of a pattern: elements one space apart, alternatives joined by slashes,
optional text in brackets, captures in angle brackets and a star for any words.
-/
namespace TextAdventure

def Choice.text (c : Choice) : Text := Text.join ['/'] c.words

def Element.text : Element → Text
  | choice c => c.text
  | optional c cs => '[' :: Text.join [' '] ((c :: cs).map Choice.text) ++ [']']
  | capture name => '<' :: name ++ ['>']
  | wildcard => ['*']

/-- The canonical spelling. -/
def Pattern.text (p : Pattern) : Text := Text.join [' '] (p.elements.map Element.text)

end TextAdventure
