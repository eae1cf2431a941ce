import TextAdventure.Text.Basic

/-!
Cutting a text at a separator, and padding it to a width.
-/
namespace TextAdventure.Text

/-- The pieces of a text between separators; there is always at least one. -/
def splitOn (separator : Char) : Text → List Text
  | [] => [[]]
  | c :: t =>
    match splitOn separator t with
    | [] => [[c]]
    | piece :: pieces => if c = separator then [] :: piece :: pieces else (c :: piece) :: pieces

/-- The text with spaces behind it up to a width. -/
def padEnd (width : Nat) (t : Text) : Text := t ++ List.replicate (width - t.length) ' '

end TextAdventure.Text
