import TextAdventure.Text.Quoted

/-!
JSON values whose objects keep the order of their fields, and their indented text.
-/
namespace TextAdventure

inductive Json where
  | null
  | bool (value : Bool)
  /-- The number `mantissa / 10 ^ scale`. -/
  | number (mantissa : Int) (scale : Nat)
  | string (value : Text)
  | array (items : List Json)
  | object (fields : List (Text × Json))
  deriving Inhabited

namespace Json

def ofNat (n : Nat) : Json := number n 0

/-- A text, or null in its absence. -/
def ofText? : Option Text → Json
  | some t => string t
  | none => null

def ofTexts (ts : List Text) : Json := array (ts.map string)

/-- An object with the given field names. -/
def ofFields (fields : List (String × Json)) : Json :=
  object (fields.map fun f => (f.1.toList, f.2))

/-- A field of an object; of two fields with one name the later one counts. -/
def field? : Json → String → Option Json
  | object fields, name => fields.reverse.lookup name.toList
  | _, _ => none

/-- One character inside a string. Characters beyond the controls stand for themselves. -/
def escapeChar (c : Char) : Text :=
  if c == '\x22' || c == '\\' then ['\\', c]
  else if c == '\n' then ['\\', 'n']
  else if c == '\r' then ['\\', 'r']
  else if c == '\t' then ['\\', 't']
  else if c.toNat == 8 then ['\\', 'b']
  else if c.toNat == 12 then ['\\', 'f']
  else if c.toNat < 32 then '\\' :: 'u' :: Text.hexDigits 4 c.toNat
  else [c]

def stringText (t : Text) : Text := '\x22' :: t.flatMap escapeChar ++ ['\x22']

def numberText (mantissa : Int) (scale : Nat) : Text :=
  let n := mantissa.natAbs
  let whole := (toString (n / Nat.pow 10 scale)).toList
  let digits := (toString (n % Nat.pow 10 scale)).toList
  let sign := if mantissa < 0 then ['-'] else []
  if scale = 0 then sign ++ whole
  else sign ++ whole ++ '.' :: List.replicate (scale - digits.length) '0' ++ digits

/-- The start of a line, two spaces to each level. -/
def lineStart (level : Nat) : Text := '\n' :: List.replicate (2 * level) ' '

mutual

/-- The text of a value at a level of indentation. -/
def textAt (level : Nat) : Json → Text
  | null => "null".toList
  | bool true => "true".toList
  | bool false => "false".toList
  | number mantissa scale => numberText mantissa scale
  | string t => stringText t
  | array [] => ['[', ']']
  | array (x :: xs) =>
    '[' :: lineStart (level + 1) ++ textAt (level + 1) x ++ itemsAt (level + 1) xs
      ++ lineStart level ++ [']']
  | object [] => ['\x7b', '\x7d']
  | object (f :: fs) =>
    '\x7b' :: lineStart (level + 1) ++ fieldAt (level + 1) f ++ fieldsAt (level + 1) fs
      ++ lineStart level ++ ['\x7d']

/-- The items after the first one. -/
def itemsAt (level : Nat) : List Json → Text
  | [] => []
  | x :: xs => ',' :: lineStart level ++ textAt level x ++ itemsAt level xs

def fieldAt (level : Nat) : Text × Json → Text
  | (name, value) => stringText name ++ ':' :: ' ' :: textAt level value

/-- The fields after the first one. -/
def fieldsAt (level : Nat) : List (Text × Json) → Text
  | [] => []
  | f :: fs => ',' :: lineStart level ++ fieldAt level f ++ fieldsAt level fs

end

/-- The indented text. -/
def text (j : Json) : Text := textAt 0 j

end Json

end TextAdventure
