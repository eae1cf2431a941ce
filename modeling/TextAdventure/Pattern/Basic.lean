import TextAdventure.Text.Basic

/-!
Patterns: the phrasings by which a player may ask for one action. A pattern is a row of elements. At
least one of them must be said, and no slot is named twice.
-/
namespace TextAdventure

/-- One word, or one of several alternative words. -/
structure Choice where
  first : Text
  others : List Text
  deriving DecidableEq, Repr

def Choice.words (c : Choice) : List Text := c.first :: c.others

inductive Element where
  /-- A word that must be said. -/
  | choice (c : Choice)
  /-- Words that may be left out, all together. -/
  | optional (first : Choice) (others : List Choice)
  /-- One or more words of the player's own, kept under a name. -/
  | capture (name : Text)
  /-- Any words, possibly none. -/
  | wildcard
  deriving DecidableEq, Repr

namespace Element

/-- Whether the element stands for at least one word of the input. -/
def isRequired : Element → Bool
  | choice _ => true
  | capture _ => true
  | optional _ _ => false
  | wildcard => false

/-- The words that the element names. -/
def words : Element → List Text
  | choice c => c.words
  | optional c cs => (c :: cs).flatMap Choice.words
  | capture _ => []
  | wildcard => []

def slot? : Element → Option Text
  | capture name => some name
  | _ => none

end Element

/-- The slot names of a row of elements. -/
def slotNames (es : List Element) : List Text := es.filterMap Element.slot?

structure Pattern where
  elements : List Element
  has_required : elements.any Element.isRequired = true
  nodup_slots : (slotNames elements).Nodup
  deriving DecidableEq

namespace Pattern

/-- The names under which the pattern captures, in order. -/
def slots (p : Pattern) : List Text := slotNames p.elements

/-- The element by which the player must begin, optional text aside. -/
def head? (p : Pattern) : Option Element := p.elements.find? Element.isRequired

end Pattern

/-- The words that a capture may not take, given the elements in front of it, nearest first.
Between two captures separated only by text that may be left out, the first one stops as early as
it can; the second one must not swallow the text that was skipped. -/
def excludedWords (before : List Element) : List Text :=
  match before.dropWhile fun e => !e.isRequired with
  | .capture _ :: _ => (before.takeWhile fun e => !e.isRequired).flatMap Element.words
  | _ => []

/-- The words excluded at an index of the pattern. -/
def Pattern.excludedAt (p : Pattern) (i : Nat) : List Text :=
  excludedWords (p.elements.take i).reverse

end TextAdventure
