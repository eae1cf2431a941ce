import TextAdventure.Text.Quoted

/-!
What can be wrong with a pattern, and how it is reported: the cause, the column where it was
noticed, the pattern, and a mark under that column.
-/
namespace TextAdventure

inductive Fault where
  | unterminatedCapture
  | unbalancedAngle
  | unexpectedCharacter (c : Char)
  | emptyPattern
  | missingBlank
  | duplicateCapture (name : Text)
  | nothingRequired
  | emptyCapture
  | invalidName (name : Text)
  | unbalancedBracket
  | danglingSlash
  /-- A slash after a capture or a star. -/
  | slashAfterSlot
  | unexpected (text : Text)
  | unclosedOptional
  | nestedOptional
  | slotInOptional
  | unexpectedInOptional (text : Text)
  | emptyOptional
  deriving DecidableEq, Repr

/-- The cause in words. -/
def Fault.text : Fault → String
  | unterminatedCapture => "Unterminated capture, expected '>'"
  | unbalancedAngle => "Unbalanced '>'"
  | unexpectedCharacter c => "Unexpected character " ++ String.ofList (Text.quoted [c])
  | emptyPattern => "Empty pattern"
  | missingBlank => "Expected whitespace between pattern elements"
  | duplicateCapture name => "Duplicate capture name <" ++ String.ofList name ++ ">"
  | nothingRequired => "Pattern needs at least one word or capture outside [] and *"
  | emptyCapture => "Empty capture <>"
  | invalidName name => "Invalid capture name <" ++ String.ofList name ++ ">"
  | unbalancedBracket => "Unbalanced ']'"
  | danglingSlash => "'/' must join two words"
  | slashAfterSlot => "Only bare words can be alternatives"
  | unexpected t => "Unexpected " ++ String.ofList (Text.quoted t)
  | unclosedOptional => "Unbalanced '[', expected ']'"
  | nestedOptional => "Optional spans cannot be nested"
  | slotInOptional => "Only words and alternations are allowed inside []"
  | unexpectedInOptional t => "Unexpected " ++ String.ofList (Text.quoted t) ++ " inside []"
  | emptyOptional => "Empty optional []"

/-- A text that is not a pattern, with the first fault in it. -/
structure Malformed where
  fault : Fault
  position : Nat
  source : Text
  deriving DecidableEq, Repr

/-- The report, with `label` in front of the cause. -/
def Malformed.message (m : Malformed) (label : String) : String :=
  "Column " ++ toString m.position ++ ": " ++ label ++ m.fault.text ++ "\n  "
    ++ String.ofList m.source ++ "\n  " ++ String.ofList (List.replicate m.position ' ') ++ "^"

end TextAdventure
