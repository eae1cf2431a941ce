import TextAdventure.Pattern.Basic
import TextAdventure.Text.Blank
import TextAdventure.Text.CaseFolding

/-!
The grammar of patterns, as a relation between an element and the texts that spell it. It knows
nothing of tokens or of reading: blanks stand wherever they may, and `Spells` says which rows of
elements a text denotes. What is not part of the grammar, that slots differ and that something must
be said, is left to `Pattern` itself.
-/
namespace TextAdventure

namespace Pattern

def IsBlanks (b : Text) : Prop := ∀ c ∈ b, Text.isBlank c = true

/-- One or more letters and digits of the first 128 code points, apostrophes and hyphens. -/
def IsSpelledWord (w : Text) : Prop :=
  w ≠ [] ∧ ∀ c ∈ w, c.isAlphanum = true ∨ c = '\x27' ∨ c = '-'

/-- A letter or underscore, then letters, digits and underscores. -/
def IsSlotName (n : Text) : Prop :=
  ∃ c t, n = c :: t ∧ (c.isAlpha = true ∨ c = '_') ∧ ∀ d ∈ t, d.isAlphanum = true ∨ d = '_'

/-- Words joined by slashes spell the choice between their folded forms. -/
inductive SpellsChoice : Choice → Text → Prop
  | words (w : Text) (ws : List Text) (proper : ∀ v ∈ w :: ws, IsSpelledWord v) :
    SpellsChoice ⟨Text.casefold w, ws.map Text.casefold⟩ (Text.join ['/'] (w :: ws))

/-- Spellings one after another, with blanks between any two neighbours. -/
inductive SpellsRow {α : Type} (spells : α → Text → Prop) : List α → Text → Prop
  | last (a : α) (t : Text) : spells a t → SpellsRow spells [a] t
  | next (a : α) (as : List α) (t b u : Text) : spells a t → b ≠ [] → IsBlanks b →
    SpellsRow spells as u → SpellsRow spells (a :: as) (t ++ b ++ u)

inductive SpellsElement : Element → Text → Prop
  | choice (c : Choice) (t : Text) : SpellsChoice c t → SpellsElement (.choice c) t
  | optional (c : Choice) (cs : List Choice) (b t b' : Text) :
    IsBlanks b → SpellsRow SpellsChoice (c :: cs) t → IsBlanks b' →
    SpellsElement (.optional c cs) ('[' :: (b ++ t ++ b' ++ [']']))
  | capture (n b b' : Text) : IsBlanks b → IsSlotName n → IsBlanks b' →
    SpellsElement (.capture n) ('<' :: (b ++ n ++ b' ++ ['>']))
  | wildcard : SpellsElement .wildcard ['*']

/-- Whether the text spells the elements, one after another and with blanks in between, in front and
behind. -/
def Spells (s : Text) (es : List Element) : Prop :=
  ∃ b t b', IsBlanks b ∧ SpellsRow SpellsElement es t ∧ IsBlanks b' ∧ s = b ++ t ++ b'

theorem isBlanks_append (b b' : Text) : IsBlanks (b ++ b') ↔ IsBlanks b ∧ IsBlanks b' :=
  List.forall_mem_append

theorem isBlanks_nil : IsBlanks [] := fun _ member => absurd member List.not_mem_nil

end Pattern

end TextAdventure
