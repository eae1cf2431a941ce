import TextAdventure.CommandLine.Arguments

/-!
What a command line asks for.
-/
namespace TextAdventure.CommandLine

/-- What to do. -/
inductive Task where
  | interpret (line : Text) (json stripFillers : Bool)
  | repl (stripFillers : Bool)
  | debug (line : Text) (showAll : Bool)
  | patterns (action : Option Text) (showRegex : Bool)
  | lexicon (word : Option Text)
  | checkGrammar (file : Text) (strict : Bool)
  | showGrammar (file : Text)
  | exampleGrammar
  | remoteInterpret (line : Text) (stripFillers : Bool)
  | remoteDebug (line : Text)
  | remotePatterns
  | remoteLexicon (word : Text)
  | remoteCheck (file : Text)
  deriving DecidableEq, Repr

structure Invocation where
  /-- The grammar file that was named. -/
  grammar : Option Text
  task : Task
  deriving DecidableEq, Repr

def mainForm : Form :=
  ⟨[⟨"--verbose", ["-v", "--verbose"], false⟩, ⟨"--grammar", ["-g", "--grammar"], true⟩],
    .command false⟩

def jsonOption : OptionForm := ⟨"--json", ["--json"], false⟩
def keepFillersOption : OptionForm := ⟨"--no-strip-fillers", ["--no-strip-fillers"], false⟩
def showAllOption : OptionForm := ⟨"--all", ["-a", "--all"], false⟩
def actionOption : OptionForm := ⟨"--action", ["-a", "--action"], true⟩
def regexOption : OptionForm := ⟨"--regex", ["--regex"], false⟩
def strictOption : OptionForm := ⟨"--strict", ["--strict"], false⟩

/-- The one operand of a level that takes one. -/
def Level.theOperand (l : Level) : Text := (l.operand.bind List.head?).getD []

/-- A command of the group `grammar` and what is left over. -/
def readGrammarTask (args : List Text) : Except Stop (Task × List Text) := do
  let group ← Level.read ⟨[], .command true⟩ args
  match group.operand with
  | some (command :: args) =>
    if command = "check".toList then
      let l ← Level.read ⟨[strictOption], .one⟩ args
      .ok (.checkGrammar l.theOperand (l.has strictOption.key), group.extras ++ l.extras)
    else if command = "show".toList then
      let l ← Level.read ⟨[], .one⟩ args
      .ok (.showGrammar l.theOperand, group.extras ++ l.extras)
    else if command = "example".toList then
      let l ← Level.read ⟨[], .none⟩ args
      .ok (.exampleGrammar, group.extras ++ l.extras)
    else .error .usage
  | _ => .error .usage

/-- A command of the group `remote` and what is left over. -/
def readRemoteTask (args : List Text) : Except Stop (Task × List Text) := do
  let group ← Level.read ⟨[], .command true⟩ args
  match group.operand with
  | some (command :: args) =>
    if command = "interpret".toList then
      let l ← Level.read ⟨[keepFillersOption], .one⟩ args
      .ok (.remoteInterpret l.theOperand (!l.has keepFillersOption.key), group.extras ++ l.extras)
    else if command = "debug".toList then
      let l ← Level.read ⟨[], .one⟩ args
      .ok (.remoteDebug l.theOperand, group.extras ++ l.extras)
    else if command = "patterns".toList then
      let l ← Level.read ⟨[], .none⟩ args
      .ok (.remotePatterns, group.extras ++ l.extras)
    else if command = "lexicon".toList then
      let l ← Level.read ⟨[], .one⟩ args
      .ok (.remoteLexicon l.theOperand, group.extras ++ l.extras)
    else if command = "check".toList then
      let l ← Level.read ⟨[], .one⟩ args
      .ok (.remoteCheck l.theOperand, group.extras ++ l.extras)
    else .error .usage
  | _ => .error .usage

/-- A command with its arguments and what is left over. -/
def readTask (command : Text) (args : List Text) : Except Stop (Task × List Text) :=
  if command = "interpret".toList then do
    let l ← Level.read ⟨[jsonOption, keepFillersOption], .one⟩ args
    .ok (.interpret l.theOperand (l.has jsonOption.key) (!l.has keepFillersOption.key), l.extras)
  else if command = "repl".toList then do
    let l ← Level.read ⟨[keepFillersOption], .none⟩ args
    .ok (.repl (!l.has keepFillersOption.key), l.extras)
  else if command = "debug".toList then do
    let l ← Level.read ⟨[showAllOption], .one⟩ args
    .ok (.debug l.theOperand (l.has showAllOption.key), l.extras)
  else if command = "patterns".toList then do
    let l ← Level.read ⟨[actionOption, regexOption], .none⟩ args
    .ok (.patterns (l.value? actionOption.key) (l.has regexOption.key), l.extras)
  else if command = "lexicon".toList then do
    let l ← Level.read ⟨[], .optional⟩ args
    .ok (.lexicon (l.operand.bind List.head?), l.extras)
  else if command = "grammar".toList then readGrammarTask args
  else if command = "remote".toList then readRemoteTask args
  else .error .usage

/-- Reads a command line. Without a command it asks for help; anything left over is an error. -/
def Invocation.read (args : List Text) : Except Stop Invocation := do
  let l ← Level.read mainForm args
  match l.operand with
  | some (command :: args) =>
    let (task, extras) ← readTask command args
    if (l.extras ++ extras).isEmpty then .ok ⟨l.value? "--grammar", task⟩ else .error .usage
  | _ => .error (if l.extras.isEmpty then .help else .usage)

end TextAdventure.CommandLine
