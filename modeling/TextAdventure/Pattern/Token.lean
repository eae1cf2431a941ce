import TextAdventure.Text.Blank
import TextAdventure.Pattern.Fault

/-!
The tokens of a pattern. Tokens tile the source: the next token begins where the last one ends, and
a character with which no token begins is a fault.
-/
namespace TextAdventure

inductive Token where
  | space (blanks : Text)
  /-- A capture, by what stands between its angle brackets. -/
  | capture (inner : Text)
  | word (text : Text)
  | slash
  | openBracket
  | closeBracket
  | star
  deriving DecidableEq, Repr

namespace Token

/-- The stretch of the source that a token is read from. -/
def lexeme : Token → Text
  | space t => t
  | capture inner => '<' :: inner ++ ['>']
  | word t => t
  | slash => ['/']
  | openBracket => ['[']
  | closeBracket => [']']
  | star => ['*']

/-- Characters of a word: letters and digits of the first 128 code points, apostrophe, hyphen. -/
def isPatternWordChar (c : Char) : Bool := c.isAlphanum || c == '\x27' || c == '-'

/-- The token with which the text `c :: t` begins. -/
def leading (c : Char) (t : Text) : Except Fault Token :=
  if Text.isBlank c then .ok (space (c :: t.takeWhile Text.isBlank))
  else if isPatternWordChar c then .ok (word (c :: t.takeWhile isPatternWordChar))
  else if c = '/' then .ok slash
  else if c = '[' then .ok openBracket
  else if c = ']' then .ok closeBracket
  else if c = '*' then .ok star
  else if c = '<' then
    let inner := t.takeWhile fun d => d != '<' && d != '>'
    if t[inner.length]? = some '>' then .ok (capture inner) else .error .unterminatedCapture
  else if c = '>' then .error .unbalancedAngle
  else .error (.unexpectedCharacter c)

end Token

/-- A token and the number of characters in front of it. -/
structure Lexeme where
  token : Token
  position : Nat
  deriving DecidableEq, Repr

/-- The tokens of a text that begins at `position`, or the first fault and its position. -/
def Lexeme.scanFrom (position : Nat) : Text → Except (Fault × Nat) (List Lexeme)
  | [] => .ok []
  | c :: t =>
    match Token.leading c t with
    | .error fault => .error (fault, position)
    | .ok token => do
      let n := token.lexeme.length
      let rest ← scanFrom (position + n) (t.drop (n - 1))
      .ok (⟨token, position⟩ :: rest)
termination_by t => t.length
decreasing_by simp only [List.length_drop, List.length_cons]; omega

/-- The tokens of a pattern source. -/
def Lexeme.scan (source : Text) : Except (Fault × Nat) (List Lexeme) := scanFrom 0 source

end TextAdventure
