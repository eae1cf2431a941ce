import TextAdventure.CommandLine.Tasks
import TextAdventure.CommandLine.Markup

/-!
What is left behind when a task was carried out on a console. A line that the console refuses ends
the task: what stands in front of it was written, and the exit status tells of the failure.
-/
namespace TextAdventure.CommandLine

structure Report where
  status : Nat
  output : Text
  warnings : List Text
  deriving DecidableEq, Repr

/-- Writes an answer. -/
def Answer.report (a : Answer) (c : Console) : Report :=
  let written := c.writeAll a.output
  ⟨if written.complete then a.status else 1, written.text, a.warnings⟩

/-- Carries out a task on a console. -/
def Invocation.run (v : Invocation) (c : Console) (s : Surroundings) :
    Except ServiceFault Report :=
  (v.answer c s).map fun a => a.report c

/-- The exit status of a reading that ended early. -/
def Stop.status : Stop → Nat
  | usage => 2
  | help => 0

/-- Carries out a command line on a plain terminal. What is said about its usage goes elsewhere. -/
def run (s : Surroundings) (args : List Text) : Except ServiceFault Report :=
  match Invocation.read args with
  | .error stop => .ok ⟨stop.status, [], []⟩
  | .ok v => v.run Markup.console s

end TextAdventure.CommandLine
