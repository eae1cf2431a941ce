import TextAdventure.Lexicon.Message

/-!
Defects of a lexicon, which an author should know of but which keep nothing from working: a form
that belongs to two entries, a canonical form of several words, an abbreviation of the wrong length
or without a meaning, a template that no message uses.
-/
namespace TextAdventure

/-- The two separate families of entries. -/
inductive Family where
  | verb
  | direction
  deriving DecidableEq, Repr

def Family.text : Family → Text
  | verb => "verb".toList
  | direction => "direction".toList

inductive Defect where
  | twoOwners (form : Text) (family : Family) (first second : Text)
  | severalWords (canonical : Text)
  | abbreviationLength (abbreviation : Text)
  | emptyExpansion (abbreviation : Text)
  | unknownTemplate (key : Text)
  deriving DecidableEq, Repr

/-- The report of a defect. -/
def Defect.text : Defect → Text
  | twoOwners form family first second =>
    "'".toList ++ form ++ "' maps to both ".toList ++ family.text ++ " '".toList ++ first
      ++ "' and '".toList ++ second ++ "'".toList
  | severalWords canonical =>
    "Canonical form '".toList ++ canonical ++ "' must be a single word".toList
  | abbreviationLength abbreviation =>
    "Abbreviation '".toList ++ abbreviation ++ "' must be a 1-2 character token".toList
  | emptyExpansion abbreviation =>
    "Abbreviation '".toList ++ abbreviation ++ "' expands to nothing".toList
  | unknownTemplate key => "Unknown error template key: ".toList ++ key

/-- Claims forms for the entry with canonical form `owner`; a form that another entry has claimed
stays with it and is a defect. -/
def claimForms (family : Family) (owner : Text) :
    List Text → Table Text → Table Text × List Defect
  | [], owners => (owners, [])
  | form :: forms, owners =>
    match owners.get? form with
    | some other =>
      if other = owner then claimForms family owner forms (owners.put form owner)
      else
        let (owners, defects) := claimForms family owner forms owners
        (owners, .twoOwners form family other owner :: defects)
    | none => claimForms family owner forms (owners.put form owner)

/-- The forms that belong to two entries of different canonical forms. -/
def overlaps (family : Family) (owners : Table Text) : List Entry → List Defect
  | [] => []
  | e :: es =>
    let (owners, defects) := claimForms family e.canonical e.forms.toList owners
    defects ++ overlaps family owners es

/-- The defects of one abbreviation. -/
def abbreviationDefects (a : Text × Text) : List Defect :=
  (if a.1.isEmpty || 2 < a.1.length || a.1.contains ' ' then [.abbreviationLength a.1] else [])
    ++ if a.2.isEmpty then [.emptyExpansion a.1] else []

/-- The defects of a lexicon, none if it is consistent. -/
def Lexicon.defects (l : Lexicon) : List Defect :=
  overlaps .verb ∅ l.verbs ++ overlaps .direction ∅ l.directions
    ++ ((l.verbs ++ l.directions).filter (·.canonical.contains ' ')).map
        (fun e => .severalWords e.canonical)
    ++ l.abbreviations.entries.flatMap abbreviationDefects
    ++ (l.errors.keys.filter fun k => (MessageKind.ofKey? k).isNone).map .unknownTemplate

/-- The warnings that a lexicon gives cause to. -/
def Lexicon.warnings (l : Lexicon) : List Text :=
  l.defects.map fun d => "lexicon: ".toList ++ d.text

end TextAdventure
