import TextAdventure.Interpreter
import TextAdventure.Lexicon.Message

/-!
What a player is told about a refused line. With a verb but no rule, the reply depends on what
stands behind the verb: an object and a final preposition ask for the indirect object, nothing but
articles asks for more, and anything else is declined.
-/
namespace TextAdventure

namespace Lexicon

/-- The words without articles. -/
def withoutArticles (l : Lexicon) (ws : List Text) : List Text := ws.filter fun w => !l.isArticle w

/-- The object and the preposition of a line whose indirect object is missing. -/
def missingIndirect? (l : Lexicon) (ws : List Text) : Option (Text × Text) :=
  match ws with
  | _ :: w :: v :: rest =>
    let last := (v :: rest).getLast?.getD w
    let object := l.withoutArticles (w :: (v :: rest).dropLast)
    if l.isPreposition last && !object.isEmpty then some (Text.unwords object, last) else none
  | _ => none

/-- The reply to a line in which a verb was recognized. -/
def replyToVerb (l : Lexicon) (verb : Option Text) (text : Text) (d : Details) : Text :=
  let d := { d with verb := d.verb.orElse verb }
  let ws := Text.words text
  match l.missingIndirect? ws with
  | some (object, preposition) =>
    l.message .needIndirectObject
      { d with
        object := d.object.orElse (some object)
        preposition := d.preposition.orElse (some preposition) }
  | none =>
    if (l.withoutArticles (ws.drop 1)).isEmpty || (l.verb? text).isSome then
      l.message .needMoreInfo d
    else l.message .cantDoThat d

/-- The reply to an outcome, none if the line was accepted. -/
def explain? (l : Lexicon) (o : Outcome) (d : Details) : Option Text :=
  match o with
  | .accepted .. => none
  | .refused hint verb text =>
    if text.isEmpty then some (l.message .noVerb d)
    else
      match hint with
      | .noVerbRecognized => some (l.message .unknownVerb d)
      | .verbRecognizedNoPatternMatch => some (l.replyToVerb verb text d)

end Lexicon

namespace Interpreter

/-- The reply to an outcome, none if the line was accepted. -/
def explain? (i : Interpreter) (o : Outcome) (d : Details) : Option Text := i.lexicon.explain? o d

end Interpreter

end TextAdventure
