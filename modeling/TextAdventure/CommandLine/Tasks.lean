import TextAdventure.CommandLine.Invocation
import TextAdventure.CommandLine.Trace
import TextAdventure.Service.Basic
import TextAdventure.Grammar.Printer

/-!
What each task answers: the exit status, what is to be written, and the warnings on the way. Remote
tasks are requests to the service, which runs in the same process.
-/
namespace TextAdventure.CommandLine

structure Answer where
  status : Nat
  output : List Output
  warnings : List Text
  deriving DecidableEq, Repr

/-- What a task can see. -/
structure Surroundings where
  files : Text → Option Text
  input : Text
  /-- The grammar file of the environment, used unless another is named. -/
  grammarFile : Option Text
  /-- Whether the service cannot be reached. -/
  serviceDown : Bool

section

variable (c : Console)

/-- A line that says what went wrong. -/
def errorLine (message : String) : Output :=
  .line (styled .red ("✗ Error: ".toList ++ c.escape message.toList))

/-- Continues with what was loaded, or tells why it could not be. -/
def withLoaded {α : Type} (l : Grammar.Loaded α)
    (continue_ : α → Except ServiceFault (Nat × List Output)) : Except ServiceFault Answer :=
  match l.result with
  | .error f => .ok ⟨1, [errorLine c f.message], l.warnings⟩
  | .ok a => (continue_ a).map fun r => ⟨r.1, r.2, l.warnings⟩

/-- Turns a missing verb phrase into a fault of the whole task. -/
def verbResult {α : Type} (r : Except Lexicon.VerbFault α) : Except ServiceFault α :=
  r.mapError .verb

/-! ### Single lines -/

/-- An outcome as it is shown to the player. -/
def outcomeLines (i : Interpreter) (o : Outcome) : List Output :=
  match o with
  | .accepted action captures _ _ =>
    .line (styled .green ("✓ ".toList ++ action))
      :: captures.map fun r => .line ("  ".toList ++ r.1 ++ ':' :: ' ' :: c.escape r.2)
  | .refused hint _ _ =>
    [.line (styled .yellow ("✗ ".toList ++ c.escape ((i.explain? o {}).getD []))),
      .line (styled .dim ("  ".toList ++ hint.text.toList))]

/-- What the loop says at its start. -/
def greeting (i : Interpreter) : Output :=
  .line (styled .dim
    ((toString i.rulebook.size).toList ++ " patterns loaded. Ctrl-D to exit.".toList))

def prompt : Text := ['>', ' ']

/-- What the loop answers to a line, nothing if the line is blank. -/
def replyTo (i : Interpreter) (line : Text) : Except Lexicon.VerbFault (List Output) :=
  if (Text.trim line).isEmpty then .ok []
  else do
    let o ← i.interpret line
    .ok (outcomeLines c i o)

/-- The lines of an input; a break at its end begins no further line. -/
def inputLines (input : Text) : List Text :=
  match (Text.splitOn '\n' input).reverse with
  | [] :: rest => rest.reverse
  | all => all.reverse

/-- The whole conversation over an input. -/
def conversation (i : Interpreter) : List Text → Except Lexicon.VerbFault (List Output)
  | [] => .ok [.plain (prompt ++ ['\n'])]
  | l :: ls => do
    let reply ← replyTo c i l
    let rest ← conversation i ls
    .ok (.plain prompt :: reply ++ rest)

/-! ### Listings -/

/-- A rule of the listing, with its regular expression on request. -/
def ruleLines (b : Rulebook) (showRegex : Bool) (n : Nat) (r : Rule) : List Output :=
  let dead := if b.dead.contains n then ' ' :: styled .red "(dead)".toList else []
  .line ('#' :: Text.padEnd 3 (toString n).toList ++ ' ' ::
      styled .bold (Text.padEnd 16 r.action) ++ ' ' :: c.escape r.source.pattern ++ dead)
    :: if showRegex then [.line (styled .dim ("     ".toList ++ c.escape r.regex.source))] else []

def rulesLines (b : Rulebook) (action : Option Text) (showRegex : Bool) : List Output :=
  let wanted (r : Rule) : Bool :=
    match action.bind Text.nonempty? with
    | none => true
    | some a => r.action == Text.uppercase a
  ((b.rules.zipIdx.filter fun r => wanted r.1).map fun r => ruleLines c b showRegex r.2 r.1).flatten
    ++ [.line ('\n' :: styled .dim ((toString b.size).toList ++ " patterns, ".toList
      ++ (toString b.actions.length).toList ++ " actions".toList))]

/-- The word lists that a word is in. -/
def rolesOf (d : Lexicon.Description) : List Text :=
  ([("article", d.article), ("filler", d.filler), ("preposition", d.preposition),
    ("pronoun", d.pronoun), ("all", d.all)].filter fun r => r.2).map fun r => r.1.toList

/-- A word with its roles. -/
def descriptionLines (d : Lexicon.Description) : List Output :=
  let row (label : String) (value : Option Text) : List Output :=
    match value.bind Text.nonempty? with
    | some v => [.line ("  ".toList ++ label.toList ++ ':' :: ' ' :: v)]
    | none => []
  let roles := rolesOf d
  let known := row "verb" d.verb ++ row "direction" d.direction
    ++ row "abbreviation for" d.abbreviation
    ++ if roles.isEmpty then [] else [.line ("  ".toList ++ Text.join [',', ' '] roles)]
  .line (styled .bold (c.escape d.word))
    :: if known.isEmpty then [.line (styled .dim "  not in the lexicon".toList)] else known

def jsonText (j : Json) : Text := j.text ++ ['\n']

/-! ### Grammar files -/

/-- The report on a rulebook that was built from a document. -/
def checkLines (file : Text) (d : Grammar.Document) (b : Rulebook) : Nat × List Output :=
  let count (label : String) (n : Nat) : Output := .line (label.toList ++ (toString n).toList)
  let warning (t : Text) : Output := .line (styled .yellow ("  warning: ".toList ++ t))
  let problems := d.lexicon.defects.map fun p => warning (c.escape p.text)
  let dead := b.shadows.map fun s => warning ("pattern ".toList ++ ruleLabel s.index s.rule.action
    ++ " can never match: ".toList ++ c.escape s.rule.pattern)
  let collisions := b.collisions.map fun l => warning (c.escape l.text)
  let head := [.line ("=== ".toList ++ c.escape file ++ " ===".toList),
    count "Verbs: " d.verbs.size, count "Directions: " d.directions.size,
    count "Abbreviations: " d.abbreviations.size,
    .line ("Patterns: ".toList ++ (toString b.size).toList ++ " (".toList
      ++ (toString b.actions.length).toList ++ " actions)".toList)]
  match problems ++ dead ++ collisions with
  | [] => (0, head ++ [.line (styled .green "✓ OK".toList)])
  | ws => (1, head ++ ws)

/-- Checks a grammar file. -/
def checkGrammar (s : Surroundings) (file : Text) (strict : Bool) : Answer :=
  let loaded := Grammar.loadDocument s.files file
  match loaded.result with
  | .error f => ⟨1, [errorLine c f.message], loaded.warnings⟩
  | .ok d =>
    match Rulebook.build d.rules (some d.lexicon) strict with
    | .error f => ⟨1, [errorLine c f.message], loaded.warnings⟩
    | .ok b =>
      let (status, output) := checkLines c file d b
      ⟨status, output, loaded.warnings ++ b.warnings⟩

end

/-! ### Remote tasks -/

/-- Where the service is found. -/
def serviceUrl : Text := "http://localhost:8000".toList

def statusPhrase (status : Nat) : String :=
  if status = 400 then "Bad Request"
  else if status = 404 then "Not Found"
  else if status = 405 then "Method Not Allowed"
  else "Unprocessable Entity"

/-- What is said about a reply that is an error. -/
def statusMessage (status : Nat) (url : Text) : Text :=
  let code := toString status
  ("Client error '" ++ code ++ " " ++ statusPhrase status ++ "' for url '").toList ++ url
    ++ ("'\nFor more information check: https://developer.mozilla.org/en-US/docs/Web/HTTP/Status/"
      ++ code).toList

def remoteError (message : Text) : Nat × Text := (1, "✗ Error: ".toList ++ message ++ ['\n'])

/-- Sends a request to the service and continues with the body of a good reply. -/
def request (s : Surroundings) (grammar : Option Text) (method : String) (path : Text)
    (body : Option Json) (continue_ : Json → Nat × Text) : Except ServiceFault Answer :=
  if s.serviceDown then
    let (status, output) := remoteError "connection refused".toList
    .ok ⟨status, [.plain output], []⟩
  else
    let service := Service.start (Grammar.loadInterpreter s.files grammar true)
    let target := "/api".toList ++ path
    let response := service.handle ⟨method.toList, target, body⟩
    response.reply.map fun reply =>
      let (status, output) :=
        if 400 ≤ reply.status then
          remoteError (statusMessage reply.status (serviceUrl ++ Url.written target))
        else continue_ (reply.body.getD .null)
      ⟨status, [.plain output], response.warnings⟩

/-- The text of a string, or nothing. -/
def stringOf : Option Json → Text
  | some (.string t) => t
  | _ => []

/-- A number as it is written. -/
def numberOf : Option Json → Text
  | some (.number mantissa scale) => Json.numberText mantissa scale
  | _ => []

def itemsOf : Option Json → List Json
  | some (.array items) => items
  | _ => []

def fieldsOf : Option Json → List (Text × Json)
  | some (.object fields) => fields
  | _ => []

/-- An interpretation that the service sent. -/
def remoteOutcomeText (j : Json) : Text :=
  match j.field? "matched" with
  | some (.bool true) =>
    "✓ ".toList ++ stringOf (j.field? "action") ++ '\n' ::
      ((fieldsOf (j.field? "captures")).map fun c =>
        "  ".toList ++ c.1 ++ ':' :: ' ' :: stringOf (some c.2) ++ ['\n']).flatten
  | _ =>
    "✗ ".toList ++ stringOf (j.field? "message") ++ "\n  ".toList ++ stringOf (j.field? "hint")
      ++ ['\n']

/-- A listing of rules that the service sent. -/
def remoteRulesText (j : Json) : Text :=
  match itemsOf (j.field? "patterns") with
  | [] => "No patterns.\n".toList
  | ps =>
    (ps.map fun p => '#' :: Text.padEnd 3 (numberOf (p.field? "index")) ++ ' ' ::
      Text.padEnd 16 (stringOf (p.field? "action")) ++ ' ' :: stringOf (p.field? "pattern")
      ++ ['\n']).flatten

/-- A report on a grammar that the service sent. -/
def remoteCheckText (file : Text) (j : Json) : Nat × Text :=
  let head := "=== ".toList ++ file ++ " ===\nVerbs: ".toList ++ numberOf (j.field? "verb_count")
    ++ "\nDirections: ".toList ++ numberOf (j.field? "direction_count")
    ++ "\nPatterns: ".toList ++ numberOf (j.field? "pattern_count") ++ " (".toList
    ++ (toString (itemsOf (j.field? "actions")).length).toList ++ " actions)\n".toList
  let dead := (itemsOf (j.field? "dead_patterns")).map fun d =>
    "pattern #".toList ++ numberOf (d.field? "index") ++ " (".toList ++ stringOf (d.field? "action")
      ++ ") can never match: ".toList ++ stringOf (d.field? "pattern")
  let warnings := (itemsOf (j.field? "problems")).map (fun p => stringOf (some p)) ++ dead
    ++ (itemsOf (j.field? "collisions")).map fun c => stringOf (some c)
  match warnings with
  | [] => (0, head ++ "✓ OK\n".toList)
  | ws => (1, head ++ (ws.map fun w => "  warning: ".toList ++ w ++ ['\n']).flatten)

/-! ### Tasks -/

/-- Carries out a task, whose output is meant for the console. -/
def Invocation.answer (v : Invocation) (c : Console) (s : Surroundings) :
    Except ServiceFault Answer :=
  let named := (v.grammar.or s.grammarFile)
  let load (stripFillers : Bool) : Grammar.Loaded Interpreter :=
    Grammar.loadInterpreter s.files named stripFillers
  match v.task with
  | .interpret line json stripFillers =>
    withLoaded c (load stripFillers) fun i => do
      let o ← verbResult (i.interpret line)
      .ok (0, if json then [.plain (jsonText (i.outcomeJson o))] else outcomeLines c i o)
  | .repl stripFillers =>
    withLoaded c (load stripFillers) fun i => do
      let talk ← verbResult (conversation c i (inputLines s.input))
      .ok (0, greeting i :: talk)
  | .debug line showAll =>
    withLoaded c (load true) fun i => do
      let trace ← verbResult (Trace.ofLine i line showAll)
      .ok (0, (trace.lines c).map .line)
  | .patterns action showRegex =>
    withLoaded c (load true) fun i => .ok (0, rulesLines c i.rulebook action showRegex)
  | .lexicon word =>
    withLoaded c (load true) fun i =>
      match word.bind Text.nonempty? with
      | none => .ok (0, [.plain (jsonText i.lexicon.toVocabulary.json)])
      | some w => .ok (0, descriptionLines c (i.lexicon.describe w))
  | .checkGrammar file strict => .ok (checkGrammar c s file strict)
  | .showGrammar file =>
    withLoaded c (Grammar.loadDocument s.files file) fun d => .ok (0, [.plain d.text])
  | .exampleGrammar => .ok ⟨0, [.plain Grammar.builtInText], []⟩
  | .remoteInterpret line stripFillers =>
    request s s.grammarFile "POST" "/interpret".toList
      (some (.ofFields [("text", .string line), ("strip_fillers", .bool stripFillers)]))
      fun j => (0, remoteOutcomeText j)
  | .remoteDebug line =>
    request s s.grammarFile "POST" "/interpret/debug".toList
      (some (.ofFields [("text", .string line)])) fun j => (0, jsonText j)
  | .remotePatterns =>
    request s s.grammarFile "GET" "/patterns".toList none fun j => (0, remoteRulesText j)
  | .remoteLexicon word =>
    request s s.grammarFile "GET" ("/lexicon/".toList ++ word) none fun j => (0, jsonText j)
  | .remoteCheck file =>
    match s.files file with
    | none =>
      let (status, output) := remoteError ("File not found: ".toList ++ file)
      .ok ⟨status, [.plain output], []⟩
    | some t =>
      request s s.grammarFile "POST" "/grammars/check".toList
        (some (.ofFields [("text", .string t)])) (remoteCheckText file)

end TextAdventure.CommandLine
