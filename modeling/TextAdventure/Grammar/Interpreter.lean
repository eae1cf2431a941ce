import TextAdventure.Grammar.BuiltIn
import TextAdventure.Interpreter

/-!
Interpreters of grammars.
-/
namespace TextAdventure

/-- The interpreter of a grammar. -/
def Grammar.Document.interpreter (d : Grammar.Document) (stripFillers strict : Bool) :
    Except BuildFault Interpreter :=
  Interpreter.ofSources d.lexicon d.rules stripFillers strict

/-- The interpreter of the built-in grammar, whose rules all compile. -/
def Interpreter.builtIn (stripFillers : Bool) : Interpreter :=
  (Grammar.builtIn.interpreter stripFillers false).toOption.getD
    ⟨Grammar.builtIn.lexicon, ⟨[], some Grammar.builtIn.lexicon⟩, stripFillers⟩

end TextAdventure
