import TextAdventure.Grammar.File
import TextAdventure.Service.View
import TextAdventure.Text.Uppercase
import TextAdventure.Url

/-!
The interpreter as a service. A request names a route and may carry a JSON body; the reply has a
status and, where the request was understood, a JSON body. The interpreter is loaded at the first
request that needs it and serves all later ones.
-/
namespace TextAdventure

structure Request where
  method : Text
  /-- Path and query, percent-encoded. -/
  target : Text
  body : Option Json

structure Reply where
  status : Nat
  body : Option Json

inductive Route where
  | root
  | interpret
  | debug
  | patterns
  | lexicon
  | word (w : Text)
  | checkGrammar
  | builtInGrammar
  deriving DecidableEq, Repr

namespace Route

/-- The route of a path. -/
def ofPath? (path : Text) : Option Route :=
  let words := "/api/lexicon/".toList
  if path = ['/'] then some root
  else if path = "/api/interpret".toList then some interpret
  else if path = "/api/interpret/debug".toList then some debug
  else if path = "/api/patterns".toList then some patterns
  else if path = "/api/lexicon".toList then some lexicon
  else if path = "/api/grammars/check".toList then some checkGrammar
  else if path = "/api/grammars/default".toList then some builtInGrammar
  else if words.isPrefixOf path then
    let w := path.drop words.length
    if w.isEmpty || w.contains '/' then none else some (word w)
  else none

/-- The route of a path, with slashes at its end forgiven. -/
def find? (path : Text) : Option Route :=
  (ofPath? path).or
    (if path = ['/'] then none else ofPath? (path.reverse.dropWhile (· == '/')).reverse)

/-- The one method that a route answers to. -/
def method : Route → Text
  | interpret => "POST".toList
  | debug => "POST".toList
  | checkGrammar => "POST".toList
  | _ => "GET".toList

end Route

/-- The truth value that a field stands for: a boolean, 0 or 1, or a word for yes or no. -/
def Json.truth? : Json → Option Bool
  | .bool b => some b
  | .number mantissa scale =>
    if mantissa = 0 then some false
    else if mantissa = Int.ofNat (Nat.pow 10 scale) then some true
    else none
  | .string t =>
    let w := t.map Char.toLower
    if ["1", "on", "t", "true", "y", "yes"].any fun s => s.toList == w then some true
    else if ["0", "off", "f", "false", "n", "no"].any fun s => s.toList == w then some false
    else none
  | _ => none

/-- The text of a request and the value of a switch, if the body is well-formed. -/
def Request.textAndSwitch? (r : Request) (switch : String) (usual : Bool) : Option (Text × Bool) :=
  match r.body with
  | some (.object fields) =>
    match (Json.object fields).field? "text", (Json.object fields).field? switch with
    | some (.string t), none => some (t, usual)
    | some (.string t), some b => b.truth?.map fun b => (t, b)
    | _, _ => none
  | _ => none

/-- What a service cannot catch. -/
inductive ServiceFault where
  | load (fault : Grammar.LoadFault)
  | verb (fault : Lexicon.VerbFault)
  deriving DecidableEq, Repr

/-- A service: its interpreter, and whether that was loaded already. -/
structure Service where
  grammar : Grammar.Loaded Interpreter
  loaded : Bool

/-- What a request leads to. -/
structure Response where
  reply : Except ServiceFault Reply
  service : Service
  warnings : List Text

namespace Service

def start (grammar : Grammar.Loaded Interpreter) : Service := ⟨grammar, false⟩

/-- Loads the interpreter unless it is there. -/
def load (s : Service) : Service × List Text :=
  if s.loaded then (s, []) else ({ s with loaded := s.grammar.result.isOk }, s.grammar.warnings)

/-- Answers by the interpreter. -/
def withInterpreter (s : Service) (answer : Interpreter → Except Lexicon.VerbFault Json) :
    Response :=
  let (service, warnings) := s.load
  let reply : Except ServiceFault Reply :=
    match s.grammar.result with
    | .error f => .error (.load f)
    | .ok i =>
      match answer i with
      | .error f => .error (.verb f)
      | .ok body => .ok ⟨200, some body⟩
  ⟨reply, service, warnings⟩

/-- A reply that needs no interpreter. -/
def plain (s : Service) (status : Nat) (body : Option Json) : Response :=
  ⟨.ok ⟨status, body⟩, s, []⟩

/-- The interpretation of a line. -/
def interpretJson (line : Text) (i : Interpreter) : Except Lexicon.VerbFault Json :=
  (i.interpret line).map i.outcomeJson

/-- What every rule makes of a line. -/
def debugJson (line : Text) (i : Interpreter) : Except Lexicon.VerbFault Json := do
  let ws := i.normalize line
  let verb ← i.lexicon.findVerb ws
  .ok (.ofFields [("text", .string (Text.unwords ws)), ("verb", .ofText? verb),
    ("probes", .array ((i.probes line).map Probe.json))])

/-- The rules, or those for one action. -/
def patternsJson (action : Option Text) (i : Interpreter) : Json :=
  let wanted (r : Rule) : Bool :=
    match action with
    | none => true
    | some a => r.action == Text.uppercase a
  let row (r : Rule) (n : Nat) : Json :=
    .ofFields [("index", .ofNat n), ("action", .string r.action),
      ("pattern", .string r.source.pattern), ("canonical", .string r.pattern.text),
      ("slots", .ofTexts r.pattern.slots), ("dead", .bool (i.rulebook.dead.contains n))]
  .ofFields [("patterns",
    .array ((i.rulebook.rules.zipIdx.filter fun r => wanted r.1).map fun r => row r.1 r.2))]

/-- The report on a grammar that reads and builds. -/
def reportJson (d : Grammar.Document) (b : Rulebook) : Json :=
  let row (s : Shadow) : Json :=
    .ofFields [("index", .ofNat s.index), ("action", .string s.rule.action),
      ("pattern", .string s.rule.pattern)]
  .ofFields [("verb_count", .ofNat d.verbs.size), ("direction_count", .ofNat d.directions.size),
    ("pattern_count", .ofNat b.size), ("actions", .ofTexts b.actions),
    ("problems", .ofTexts (d.lexicon.defects.map Defect.text)),
    ("dead_patterns", .array (b.shadows.map row)),
    ("collisions", .ofTexts (b.collisions.map Collision.text))]

/-- Reads and builds a grammar without putting it to use. -/
def checkGrammar (s : Service) (t : Text) (strict : Bool) : Response :=
  let refuse (message : String) : Response :=
    s.plain 400 (some (.ofFields [("detail", .string message.toList)]))
  match Grammar.parse t with
  | .error f => refuse f.message
  | .ok d =>
    match Rulebook.build d.rules (some d.lexicon) strict with
    | .error f => refuse f.message
    | .ok b => ⟨.ok ⟨200, some (reportJson d b)⟩, s, b.warnings⟩

/-- Answers a request that reached a route. -/
def answer (s : Service) (r : Request) : Route → Response
  | .root =>
    s.plain 200 (some (.ofFields [("name", .string "said API".toList),
      ("version", .string "0.1.0".toList)]))
  | .interpret =>
    match r.textAndSwitch? "strip_fillers" true with
    | none => s.plain 422 none
    | some (t, strip) => s.withInterpreter fun i => interpretJson t { i with stripFillers := strip }
  | .debug =>
    match r.textAndSwitch? "strip_fillers" true with
    | none => s.plain 422 none
    | some (t, strip) => s.withInterpreter fun i => debugJson t { i with stripFillers := strip }
  | .patterns => s.withInterpreter fun i => .ok (patternsJson (Url.parameter? r.target "action") i)
  | .lexicon => s.withInterpreter fun i => .ok i.lexicon.toVocabulary.json
  | .word w => s.withInterpreter fun i => .ok (i.lexicon.describe w).json
  | .checkGrammar =>
    match r.textAndSwitch? "strict" false with
    | none => s.plain 422 none
    | some (t, strict) => s.checkGrammar t strict
  | .builtInGrammar =>
    s.plain 200 (some (.ofFields [("name", .string "default".toList),
      ("dsl", .string Grammar.builtInText)]))

/-- Answers a request. -/
def handle (s : Service) (r : Request) : Response :=
  match Route.find? (Url.path r.target) with
  | none => s.plain 404 (some (.ofFields [("detail", .string "Not Found".toList)]))
  | some route => if r.method = route.method then s.answer r route else s.plain 405 none

end Service

end TextAdventure
