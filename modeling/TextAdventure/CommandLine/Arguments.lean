import TextAdventure.Text.Basic

/-!
Reading arguments. Options may stand anywhere, may be shortened to any unambiguous beginning of a
long spelling, may carry their value behind an equals sign, and short ones may be written together.
After `--` nothing is an option. What is left over is kept, since it is for the outermost level to
complain about it.
-/
namespace TextAdventure.CommandLine

structure OptionForm where
  /-- The name under which the option is kept. -/
  key : String
  spellings : List String
  takesValue : Bool
  deriving DecidableEq, Repr

/-- What a level takes besides options. -/
inductive Operand where
  | none
  | one
  | optional
  /-- A command, which takes all arguments behind it. -/
  | command (required : Bool)
  deriving DecidableEq, Repr

structure Form where
  options : List OptionForm
  operand : Operand

/-- Why reading ends early. -/
inductive Stop where
  | usage
  | help
  deriving DecidableEq, Repr

def helpOption : OptionForm := ⟨"--help", ["-h", "--help"], false⟩

/-- A value written together with its option. -/
inductive Attached where
  | nothing
  /-- Directly behind a short spelling. -/
  | direct (value : Text)
  | behindEquals (value : Text)
  deriving DecidableEq, Repr

/-- One argument by its role. -/
inductive Piece where
  | plain (raw : Text)
  /-- The marker after which nothing is an option. -/
  | dashes
  | option (raw : Text) (form : OptionForm) (attached : Attached)
  | unknownOption (raw : Text)
  deriving DecidableEq, Repr

namespace Piece

def raw : Piece → Text
  | plain t => t
  | dashes => ['-', '-']
  | option t _ _ => t
  | unknownOption t => t

def isOption : Piece → Bool
  | option .. => true
  | unknownOption _ => true
  | _ => false

end Piece

namespace Form

/-- Every spelling with its option. -/
def spellings (f : Form) : List (Text × OptionForm) :=
  (helpOption :: f.options).flatMap fun o => o.spellings.map fun s => (s.toList, o)

def find? (f : Form) (spelling : Text) : Option OptionForm := f.spellings.lookup spelling

end Form

/-- A minus sign and digits, with at most one point before the last of them. -/
def isNegativeNumber : Text → Bool
  | '-' :: t =>
    let whole := t.takeWhile Char.isDigit
    match t.drop whole.length with
    | [] => !whole.isEmpty
    | '.' :: u => !u.isEmpty && u.all Char.isDigit
    | _ => false
  | _ => false

/-- The options that an argument may mean, given that it is no exact spelling. -/
def candidates (f : Form) (raw : Text) : List (OptionForm × Attached) :=
  let name := raw.takeWhile (· != '=')
  match raw with
  | '-' :: '-' :: _ =>
    let attached : Attached :=
      if name.length < raw.length then .behindEquals (raw.drop (name.length + 1)) else .nothing
    (f.spellings.filter fun s => name.isPrefixOf s.1).map fun s => (s.2, attached)
  | '-' :: c :: value =>
    (f.spellings.filter fun s => s.1 == ['-', c]).map fun s => (s.2, .direct value)
  | _ => []

/-- The role of an argument in front of the marker. -/
def classify (f : Form) (raw : Text) : Except Stop Piece :=
  match raw with
  | '-' :: _ :: _ =>
    let name := raw.takeWhile (· != '=')
    match f.find? raw, f.find? name with
    | some o, _ => .ok (.option raw o .nothing)
    | none, some o => .ok (.option raw o (.behindEquals (raw.drop (name.length + 1))))
    | none, none =>
      match candidates f raw with
      | [(o, attached)] => .ok (.option raw o attached)
      | _ :: _ :: _ => .error .usage
      | [] =>
        if isNegativeNumber raw || raw.contains ' ' then .ok (.plain raw)
        else .ok (.unknownOption raw)
  | _ => .ok (.plain raw)

/-- The roles of all arguments. -/
def pieces (f : Form) : List Text → Except Stop (List Piece)
  | [] => .ok []
  | raw :: rest =>
    if raw = ['-', '-'] then .ok (.dashes :: rest.map .plain)
    else do
      let p ← classify f raw
      let ps ← pieces f rest
      .ok (p :: ps)

/-- What options written together come to: those that are settled, one that may still take a value
from the next argument, and what no option is known for. -/
structure Cluster where
  settled : List (OptionForm × Option Text)
  pending : Option OptionForm
  extras : List Text

/-- Takes apart options that are written together. -/
def cluster (f : Form) (o : OptionForm) : Attached → Except Stop Cluster
  | .nothing => .ok ⟨[], some o, []⟩
  | .behindEquals value => if o.takesValue then .ok ⟨[(o, some value)], none, []⟩ else .error .usage
  | .direct [] => .error .usage
  | .direct (c :: t) =>
    if o.takesValue then .ok ⟨[(o, some (c :: t))], none, []⟩
    else if c = '-' then .error .usage
    else
      match f.find? ['-', c], t with
      | none, _ => .ok ⟨[(o, none)], none, ['-' :: c :: t]⟩
      | some next, [] => .ok ⟨[(o, none)], some next, []⟩
      | some next, '=' :: u =>
        (cluster f next (.behindEquals u)).map fun k => { k with settled := (o, none) :: k.settled }
      | some next, d :: u =>
        (cluster f next (.direct (d :: u))).map fun k =>
          { k with settled := (o, none) :: k.settled }
termination_by a => match a with
  | .nothing => 0
  | .behindEquals _ => 0
  | .direct t => t.length
decreasing_by all_goals simp

/-- What a level of arguments says. -/
structure Level where
  settings : List (String × Option Text) := []
  /-- The operand, or the command with all that follows it. -/
  operand : Option (List Text) := none
  extras : List Text := []

namespace Level

def has (l : Level) (key : String) : Bool := l.settings.any fun s => s.1 == key

/-- The value of an option; the last one counts. -/
def value? (l : Level) (key : String) : Option Text := (l.settings.reverse.lookup key).bind id

/-- Records options; a request for help ends the reading. -/
def settle (l : Level) (taken : List (OptionForm × Option Text)) (extras : List Text) :
    Except Stop Level :=
  if taken.any fun t => t.1 == helpOption then .error .help
  else .ok { l with
    settings := l.settings ++ taken.map fun t => (t.1.key, t.2)
    extras := l.extras ++ extras }

/-- Takes the operand from pieces among which there is no option; the rest is left over. -/
def finish (l : Level) (f : Form) (ps : List Piece) : Level :=
  let bare := match ps with
    | .dashes :: rest => rest
    | ps => ps
  let behind (rest : List Piece) : List Text :=
    match rest with
    | .dashes :: rest => rest.map Piece.raw
    | rest => rest.map Piece.raw
  match l.operand, f.operand, bare with
  | none, .one, .plain t :: rest =>
    { l with operand := some [t], extras := l.extras ++ behind rest }
  | none, .optional, .plain t :: rest =>
    { l with operand := some [t], extras := l.extras ++ behind rest }
  | none, .optional, rest => { l with extras := l.extras ++ rest.map Piece.raw }
  | none, .command _, .plain _ :: _ => { l with operand := some (ps.map Piece.raw) }
  | _, _, _ => { l with extras := l.extras ++ ps.map Piece.raw }

/-- Reads pieces behind those that the level has taken. -/
def extend (f : Form) (l : Level) : List Piece → Except Stop Level
  | [] => .ok (l.finish f [])
  | p :: ps =>
    if !(p :: ps).any Piece.isOption then .ok (l.finish f (p :: ps))
    else
      match p with
      | .unknownOption raw => extend f { l with extras := l.extras ++ [raw] } ps
      | .option _ o attached =>
        match cluster f o attached with
        | .error s => .error s
        | .ok k =>
          match k.pending, ps with
          | none, ps =>
            match l.settle k.settled k.extras with
            | .error s => .error s
            | .ok l => extend f l ps
          | some last, ps =>
            if last.takesValue then
              match ps with
              | .plain v :: ps =>
                match l.settle (k.settled ++ [(last, some v)]) k.extras with
                | .error s => .error s
                | .ok l => extend f l ps
              | _ => .error .usage
            else
              match l.settle (k.settled ++ [(last, none)]) k.extras with
              | .error s => .error s
              | .ok l => extend f l ps
      | .dashes => extend f { l with extras := l.extras ++ [p.raw] } ps
      | .plain t =>
        match l.operand, f.operand with
        | none, .one => extend f { l with operand := some [t] } ps
        | none, .optional => extend f { l with operand := some [t] } ps
        | none, .command _ => .ok { l with operand := some (t :: ps.map Piece.raw) }
        | _, _ => extend f { l with extras := l.extras ++ [t] } ps

/-- Reads one level of arguments. -/
def read (f : Form) (args : List Text) : Except Stop Level := do
  let ps ← pieces f args
  let l ← extend f {} ps
  match l.operand, f.operand with
  | none, .one => .error .usage
  | none, .command true => .error .usage
  | _, _ => .ok l

end Level

end TextAdventure.CommandLine
