import TextAdventure.Text.Blank

/-!
Lists of phrases: words apart by blanks, and phrases of several words in double quotes.
-/
namespace TextAdventure.Grammar

/-- What stands in quotes at the start of the text `c :: t`: at least one character, none of them a
quote. -/
def quotedPhrase? (c : Char) (t : Text) : Option Text :=
  if c = '\x22' then
    let inner := t.takeWhile (· != '\x22')
    if !inner.isEmpty && t[inner.length]? == some '\x22' then some inner else none
  else none

/-- The phrases of a text, in order. A quote that does not open a phrase belongs to a word. -/
def splitPhrases : Text → List Text
  | [] => []
  | c :: t =>
    match quotedPhrase? c t with
    | some p => p :: splitPhrases (t.drop (p.length + 1))
    | none =>
      if Text.isBlank c then splitPhrases t
      else
        let w := t.takeWhile fun d => !Text.isBlank d
        (c :: w) :: splitPhrases (t.drop w.length)
termination_by t => t.length
decreasing_by all_goals simp only [List.length_drop, List.length_cons]; omega

/-- A phrase as it is written: in quotes if it has a space. -/
def phraseText (p : Text) : Text := if p.contains ' ' then '\x22' :: p ++ ['\x22'] else p

/-- A list of phrases as it is written. -/
def phrasesText (ps : List Text) : Text := Text.join [' '] (ps.map phraseText)

end TextAdventure.Grammar
