import TextAdventure.CommandLine.Report

/-!
The program. It collects what a task may see, leaves the task to the library and prints the report.
Only the loop over a player's lines is kept here, so that it answers each line as it comes.
-/
open TextAdventure TextAdventure.CommandLine

/-- The text of a file, if it can be read. -/
def readText? (path : Text) : IO (Option Text) := do
  try
    let content ← IO.FS.readFile (String.ofList path)
    return some content.toList
  catch _ => return none

/-- The files that an invocation may ask for. -/
def filesOf (v : Invocation) (grammarFile : Option Text) : List Text :=
  let operand := match v.task with
    | .checkGrammar file _ => some file
    | .showGrammar file => some file
    | .remoteCheck file => some file
    | _ => none
  v.grammar.toList ++ grammarFile.toList ++ operand.toList

def printWarnings (warnings : List Text) : IO Unit :=
  warnings.forM fun w => IO.eprintln ("WARNING: " ++ String.ofList w)

/-- Writes to the terminal and tells whether nothing was refused. -/
def write (output : List Output) : IO Bool := do
  let written := Markup.console.writeAll output
  IO.print (String.ofList written.text)
  return written.complete

/-- Answers lines until the input ends. -/
partial def talk (i : Interpreter) : IO UInt32 := do
  IO.print (String.ofList prompt)
  (← IO.getStdout).flush
  let line ← (← IO.getStdin).getLine
  if line.isEmpty then
    IO.println ""
    return 0
  match replyTo Markup.console i line.toList with
  | .error _ =>
    IO.eprintln "the verb phrase is blank"
    return 1
  | .ok reply =>
    if ← write reply then talk i else return 1

/-- Carries out an invocation. -/
def perform (v : Invocation) : IO UInt32 := do
  let grammarFile := (← IO.getEnv "SAID_GRAMMAR").map String.toList
  let contents ← (filesOf v grammarFile).mapM fun path => return (path, ← readText? path)
  let files (path : Text) : Option Text := (contents.lookup path).bind id
  match v.task with
  | .repl stripFillers =>
    let loaded := Grammar.loadInterpreter files (v.grammar.or grammarFile) stripFillers
    printWarnings loaded.warnings
    match loaded.result with
    | .ok i => if ← write [greeting i] then talk i else return 1
    | .error f =>
      let _ ← write [errorLine Markup.console f.message]
      return 1
  | _ =>
    match v.run Markup.console { files, input := [], grammarFile, serviceDown := false } with
    | .ok report =>
      printWarnings report.warnings
      IO.print (String.ofList report.output)
      return report.status.toUInt32
    | .error (.load f) =>
      IO.eprintln f.message
      return 1
    | .error (.verb _) =>
      IO.eprintln "the verb phrase is blank"
      return 1

def usage : String :=
  "usage: text-adventure [-h] [-v] [-g GRAMMAR] "
    ++ "\x7binterpret,repl,debug,patterns,lexicon,grammar,remote\x7d ..."

def main (args : List String) : IO UInt32 := do
  match Invocation.read (args.map String.toList) with
  | .ok v => perform v
  | .error .help =>
    IO.println usage
    return 0
  | .error .usage =>
    IO.eprintln usage
    return 2
