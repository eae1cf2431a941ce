import TextAdventure.Grammar.Interpreter
import TextAdventure.Text.Split

/-!
Grammars from files. The name of a grammar file should end in `.grammar`; another ending is only
worth a warning.
-/
namespace TextAdventure.Grammar

/-- Why there is no interpreter. -/
inductive LoadFault where
  | missingFile (path : Text)
  | unreadable (fault : ReadFault)
  | unbuildable (fault : BuildFault)
  deriving DecidableEq, Repr

def LoadFault.message : LoadFault → String
  | missingFile path => "File not found: " ++ String.ofList path
  | unreadable fault => fault.message
  | unbuildable fault => fault.message

/-- The name of the file that a path leads to. -/
def fileName (path : Text) : Text :=
  ((Text.splitOn '/' path).filter fun s => !s.isEmpty && s != ['.']).getLast?.getD []

/-- The ending of a file name: from its last dot on, unless that is its first or last character. -/
def extension? (name : Text) : Option Text :=
  let ending := (name.reverse.takeWhile (· != '.')).reverse
  if ending.isEmpty || name.length ≤ ending.length + 1 then none else some ('.' :: ending)

/-- The warning about a file name without the usual ending. -/
def extensionWarnings (path : Text) : List Text :=
  match extension? (fileName path) with
  | none => ["Expected .grammar extension, got none".toList]
  | some e =>
    if e = ".grammar".toList then [] else ["Expected .grammar extension, got ".toList ++ e]

/-- The outcome of an attempt to load something, and the warnings that came with it. -/
structure Loaded (α : Type) where
  result : Except LoadFault α
  warnings : List Text

/-- Reads a document from a file system. -/
def loadDocument (files : Text → Option Text) (path : Text) : Loaded Document :=
  match files path with
  | none => ⟨.error (.missingFile path), []⟩
  | some t =>
    match parse t with
    | .error f => ⟨.error (.unreadable f), extensionWarnings path⟩
    | .ok d => ⟨.ok d, extensionWarnings path⟩

/-- The interpreter of a document. -/
def Document.load (d : Document) (stripFillers : Bool) : Loaded Interpreter :=
  match d.interpreter stripFillers false with
  | .error f => ⟨.error (.unbuildable f), d.lexicon.warnings⟩
  | .ok i => ⟨.ok i, i.warnings⟩

/-- The interpreter of a text. -/
def loadText (t : Text) : Loaded Interpreter :=
  match parse t with
  | .error f => ⟨.error (.unreadable f), []⟩
  | .ok d => d.load true

/-- The interpreter of a file, or the built-in one if no file is named. -/
def loadInterpreter (files : Text → Option Text) (path : Option Text) (stripFillers : Bool) :
    Loaded Interpreter :=
  match path.bind Text.nonempty? with
  | none => ⟨.ok (.builtIn stripFillers), []⟩
  | some p =>
    let document := loadDocument files p
    match document.result with
    | .error f => ⟨.error f, document.warnings⟩
    | .ok d =>
      let loaded := d.load stripFillers
      ⟨loaded.result, document.warnings ++ loaded.warnings⟩

end TextAdventure.Grammar
