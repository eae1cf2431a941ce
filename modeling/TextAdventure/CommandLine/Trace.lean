import TextAdventure.Interpreter
import TextAdventure.CommandLine.Console
import TextAdventure.Text.Split

/-!
The trace of a line through all rules. The first rule that fits the line is marked as the winner;
other rules that fit are listed too, and those that do not only on request.
-/
namespace TextAdventure.CommandLine

inductive TraceEntry where
  | winner (probe : Probe)
  | alsoFits (probe : Probe)
  | misses (probe : Probe)
  deriving DecidableEq, Repr

structure Trace where
  normalized : List Text
  verb : Option Text
  entries : List TraceEntry
  deriving DecidableEq, Repr

/-- The entries for rules behind others, of which one fits if `won`. -/
def traceEntries (showAll won : Bool) : List Probe → List TraceEntry
  | [] => []
  | p :: ps =>
    if p.matched then (if won then .alsoFits p else .winner p) :: traceEntries showAll true ps
    else if showAll then .misses p :: traceEntries showAll won ps
    else traceEntries showAll won ps

namespace Trace

def ofLine (i : Interpreter) (line : Text) (showAll : Bool) : Except Lexicon.VerbFault Trace := do
  let ws := i.normalize line
  let verb ← i.lexicon.findVerb ws
  .ok ⟨ws, verb, traceEntries showAll false (i.probes line)⟩

/-- The index of the rule that is marked as the winner. -/
def winner? (t : Trace) : Option Nat :=
  t.entries.findSome? fun e =>
    match e with
    | .winner p => some p.index
    | _ => none

/-- Captures in braces, names and phrases in quotes. -/
def capturesText (captures : List (Text × Text)) : Text :=
  '\x7b' :: Text.join [',', ' '] (captures.map fun c =>
    Text.quoted c.1 ++ ':' :: ' ' :: Text.quoted c.2) ++ ['\x7d']

/-! ### Printing -/

section

variable (c : Console)

/-- A rule with its index and action in columns. -/
def ruleColumns (p : Probe) : Text :=
  '#' :: Text.padEnd 3 (toString p.index).toList ++ ' ' :: Text.padEnd 16 p.rule.action
    ++ ' ' :: c.escape p.rule.pattern

/-- The rule and what its slots take. -/
def capturedColumns (p : Probe) : Text :=
  ruleColumns c p ++ "  ".toList ++ c.escape (capturesText (p.captures.getD []))

def entryMarkup : TraceEntry → Text
  | .winner p => styled .green ("→ ".toList ++ capturedColumns c p)
  | .alsoFits p => "  ".toList ++ capturedColumns c p
  | .misses p => styled .dim ("  ".toList ++ ruleColumns c p)

def normalizedMarkup (t : Trace) : Text :=
  styled .dim ("normalized: ".toList ++ c.escape (Text.unwords t.normalized))

/-- The line of the verb, which is not escaped, and an empty line. -/
def verbMarkup (t : Trace) : Text :=
  styled .dim ("verb: ".toList ++ t.verb.getD "None".toList) ++ ['\n']

def noMatchMarkup : Text := styled .yellow "No pattern matched.".toList

/-- The lines of the trace. -/
def lines (t : Trace) : List Text :=
  t.normalizedMarkup c :: t.verbMarkup :: t.entries.map (entryMarkup c)
    ++ if t.winner?.isNone then [noMatchMarkup] else []

end

end Trace

end TextAdventure.CommandLine
