import TextAdventure.Text.Basic

/-!
Finding and replacing a stretch of text inside a longer one.
-/
namespace TextAdventure.Text

/-- Whether `needle` stands somewhere in the text. -/
def occursIn (needle : Text) : Text → Bool
  | [] => needle.isEmpty
  | c :: t => needle.isPrefixOf (c :: t) || occursIn needle t

/-- Replaces the occurrences of `needle` from left to right, where the first `skip` characters
belong to an occurrence that was replaced already. -/
def replaceFrom (needle value : Text) : Nat → Text → Text
  | _, [] => []
  | skip + 1, _ :: t => replaceFrom needle value skip t
  | 0, c :: t =>
    if needle.isPrefixOf (c :: t) then value ++ replaceFrom needle value (needle.length - 1) t
    else c :: replaceFrom needle value 0 t

/-- Replaces every occurrence of a text that is not empty; occurrences do not overlap. -/
def replaceAll (needle value t : Text) : Text := replaceFrom needle value 0 t

end TextAdventure.Text
