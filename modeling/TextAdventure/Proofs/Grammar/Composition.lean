import TextAdventure.Proofs.Grammar.WellFormed
import TextAdventure.Proofs.Grammar.RoundTrip

/-!
Grammars put together. What a line says does not depend on the lines in front of it, so two texts
with a line feed between them say what the first and then the second says
(`readLines_append_eq_ok`), and the directives of the two add up to the merge of their documents
(`Document.isMerge_ofDirectives`). The first line that is not a grammar by itself is the one that a
rejected text is rejected for (`readLines_eq_error`).
-/
namespace TextAdventure.Grammar

/-! ### Merging documents -/

/-- Whether `f` is the document `d` with the document `e` behind it: lists under one name are put
together, and of two abbreviations or templates with one name the later one is kept. -/
structure Document.IsMerge (d e f : Document) : Prop where
  verbs : Table.IsMerge (· ++ ·) d.verbs e.verbs f.verbs
  directions : Table.IsMerge (· ++ ·) d.directions e.directions f.directions
  abbreviations :
    Table.IsMerge (fun _ later => later) d.abbreviations e.abbreviations f.abbreviations
  multiWordVerbs : f.multiWordVerbs = d.multiWordVerbs ++ e.multiWordVerbs
  wordLists : Table.IsMerge (· ++ ·) d.wordLists e.wordLists f.wordLists
  errors : Table.IsMerge (fun _ later => later) d.errors e.errors f.errors
  rules : f.rules = d.rules ++ e.rules

theorem Document.IsMerge.unique {d e f f' : Document} (merge : IsMerge d e f)
    (merge' : IsMerge d e f') : f = f' := by
  obtain ⟨verbs, directions, abbreviations, phrases, wordLists, errors, rules⟩ := merge
  obtain ⟨verbs', directions', abbreviations', phrases', wordLists', errors', rules'⟩ := merge'
  cases f
  cases f'
  rw [Document.mk.injEq]
  exact ⟨verbs.unique verbs', directions.unique directions', abbreviations.unique abbreviations',
    phrases.trans phrases'.symm, wordLists.unique wordLists', errors.unique errors',
    rules.trans rules'.symm⟩

theorem Document.isMerge_empty (d : Document) : IsMerge d {} d where
  verbs := Table.isMerge_empty _ _
  directions := Table.isMerge_empty _ _
  abbreviations := Table.isMerge_empty _ _
  multiWordVerbs := (List.append_nil _).symm
  wordLists := Table.isMerge_empty _ _
  errors := Table.isMerge_empty _ _
  rules := (List.append_nil _).symm

/-- What is added to the later document is added to the merge. -/
theorem Document.IsMerge.add {d e f : Document} (merge : IsMerge d e f) (x : Directive) :
    IsMerge d (e.add x) (f.add x) := by
  cases x with
  | verb canonical synonyms => exact { merge with verbs := merge.verbs.append canonical synonyms }
  | direction canonical synonyms =>
    exact { merge with directions := merge.directions.append canonical synonyms }
  | abbreviation token phrase =>
    exact { merge with abbreviations := merge.abbreviations.put token phrase }
  | multiWordVerb phrase =>
    refine { merge with multiWordVerbs := ?_ }
    rw [Document.add, merge.multiWordVerbs, List.append_assoc]
    rfl
  | wordList name words => exact { merge with wordLists := merge.wordLists.append name words }
  | error key template => exact { merge with errors := merge.errors.put key template }
  | rule source =>
    refine { merge with rules := ?_ }
    rw [Document.add, merge.rules, List.append_assoc]
    rfl

theorem Document.isMerge_ofDirectives (ds es : List Directive) :
    IsMerge (ofDirectives ds) (ofDirectives es) (ofDirectives (ds ++ es)) := by
  -- the later directives are added to the empty document on one side, to the first one on the other
  have fold (e f : Document) (merge : IsMerge (ofDirectives ds) e f) :
      IsMerge (ofDirectives ds) (es.foldl Document.add e) (es.foldl Document.add f) := by
    induction es generalizing e f with
    | nil => exact merge
    | cons x es ih => exact ih _ _ (merge.add x)
  have whole := fold {} (ofDirectives ds) (isMerge_empty _)
  rwa [ofDirectives, ← List.foldl_append] at whole

/-! ### Reading line by line -/

theorem readLines_cons_eq_ok (n : Nat) (l : Text) (ls : List Text) (ds : List Directive) :
    readLines n (l :: ls) = .ok ds ↔ ∃ d later, readLine l = .ok d ∧
      readLines (n + 1) ls = .ok later ∧ ds = d.toList ++ later := by
  rw [readLines]
  cases readLine l with
  | error fault => simp
  | ok d =>
    constructor
    · intro read
      obtain ⟨later, readLater, last⟩ := (bind_eq_ok _ _ _).mp read
      exact ⟨d, later, rfl, readLater, (Except.ok.inj last).symm⟩
    · rintro ⟨d', later, first, readLater, rfl⟩
      cases first
      exact (bind_eq_ok _ _ _).mpr ⟨later, readLater, rfl⟩

/-- What lines say does not depend on their numbers. -/
theorem readLines_eq_ok_renumber (n m : Nat) (ls : List Text) (ds : List Directive) :
    readLines n ls = .ok ds ↔ readLines m ls = .ok ds := by
  induction ls generalizing n m ds with
  | nil => rfl
  | cons l ls ih => simp only [readLines_cons_eq_ok, ih (n + 1) (m + 1)]

theorem readLines_append_eq_ok (n : Nat) (ls ms : List Text) (ds : List Directive) :
    readLines n (ls ++ ms) = .ok ds ↔ ∃ front behind, readLines n ls = .ok front ∧
      readLines n ms = .ok behind ∧ ds = front ++ behind := by
  constructor
  · intro read
    induction ls generalizing n ds with
    | nil => exact ⟨[], ds, rfl, read, rfl⟩
    | cons l ls ih =>
      obtain ⟨d, later, first, readLater, rfl⟩ := (readLines_cons_eq_ok n l (ls ++ ms) ds).mp read
      obtain ⟨front, behind, readFront, readBehind, rfl⟩ := ih (n + 1) later readLater
      exact ⟨d.toList ++ front, behind,
        (readLines_cons_eq_ok n l ls _).mpr ⟨d, front, first, readFront, rfl⟩,
        (readLines_eq_ok_renumber (n + 1) n ms behind).mp readBehind, (List.append_assoc ..).symm⟩
  · rintro ⟨front, behind, readFront, readBehind, rfl⟩
    exact readLines_append n ls ms front behind readFront fun m =>
      (readLines_eq_ok_renumber n m ms behind).mp readBehind

/-- Lines are rejected for the first of them that says nothing that can be read. -/
theorem readLines_eq_error (n : Nat) (ls : List Text) (f : ReadFault) :
    readLines n ls = .error f ↔ ∃ before line after fault, ls = before ++ line :: after ∧
      (∀ l ∈ before, ∃ d, readLine l = .ok d) ∧ readLine line = .error fault ∧
      f = ⟨n + before.length, Text.trim line, fault⟩ := by
  constructor
  · intro rejected
    induction ls generalizing n with
    | nil => cases rejected
    | cons l ls ih =>
      rw [readLines] at rejected
      cases first : readLine l with
      | error fault =>
        rw [first] at rejected
        exact ⟨[], l, ls, fault, rfl, List.forall_mem_nil _, first,
          (Except.error.inj rejected).symm⟩
      | ok d =>
        rw [first] at rejected
        cases rest : readLines (n + 1) ls with
        | ok later =>
          simp only [rest] at rejected
          cases rejected
        | error g =>
          simp only [rest] at rejected
          obtain rfl : g = f := Except.error.inj rejected
          obtain ⟨before, line, after, fault, rfl, read, faulty, rfl⟩ := ih (n + 1) rest
          refine ⟨l :: before, line, after, fault, rfl, List.forall_mem_cons.mpr ⟨⟨d, first⟩, read⟩,
            faulty, ?_⟩
          rw [List.length_cons, Nat.add_right_comm, Nat.add_assoc]
  · rintro ⟨before, line, after, fault, rfl, read, faulty, rfl⟩
    induction before generalizing n with
    | nil =>
      rw [List.nil_append, readLines, faulty]
      rfl
    | cons l before ih =>
      obtain ⟨⟨d, first⟩, later⟩ := List.forall_mem_cons.mp read
      rw [List.cons_append, readLines, first]
      simp only [ih (n + 1) later, List.length_cons, Nat.add_comm before.length, Nat.add_assoc]
      rfl

/-! ### One line as a text -/

theorem readLines_lines_of_isUnbroken (n : Nat) (l : Text) (unbroken : Text.IsUnbroken l) :
    readLines n (Text.lines l) = readLines n [l] := by
  by_cases empty : l = []
  · subst empty
    rfl
  · rw [Text.lines_of_isUnbroken l unbroken empty]

theorem exists_parse_eq_ok_line (l : Text) (unbroken : Text.IsUnbroken l) :
    (∃ d, parse l = .ok d) ↔ ∃ d, readLine l = .ok d := by
  rw [parse, readLines_lines_of_isUnbroken 1 l unbroken, readLines]
  cases readLine l with
  | error fault => simp [Except.map]
  | ok d => simp [Except.map, readLines, bind, Except.bind]

theorem parse_eq_error_line (l : Text) (f : ReadFault) (unbroken : Text.IsUnbroken l) :
    parse l = .error f ↔ ∃ fault, readLine l = .error fault ∧ f = ⟨1, Text.trim l, fault⟩ := by
  rw [parse, readLines_lines_of_isUnbroken 1 l unbroken, readLines]
  cases readLine l with
  | error fault => simp [Except.map, eq_comm]
  | ok d => simp [Except.map, readLines, bind, Except.bind]

/-! ### Texts put together -/

theorem parse_append_newline_eq_ok (t u : Text) (f : Document) :
    parse (t ++ '\n' :: u) = .ok f ↔
      ∃ d e, parse t = .ok d ∧ parse u = .ok e ∧ Document.IsMerge d e f := by
  -- an empty line in between says nothing
  obtain ⟨k, cut⟩ := Text.exists_lines_append_newline t u
  simp only [parse, map_eq_ok, cut, readLines_append_eq_ok, readLines_empty, Except.ok.injEq]
  constructor
  · rintro ⟨_, ⟨_, behind, ⟨front, _, readFront, rfl, rfl⟩, readBehind, rfl⟩, rfl⟩
    refine ⟨_, _, ⟨front, readFront, rfl⟩, ⟨behind, readBehind, rfl⟩, ?_⟩
    rw [List.append_nil]
    exact Document.isMerge_ofDirectives front behind
  · rintro ⟨_, _, ⟨front, readFront, rfl⟩, ⟨behind, readBehind, rfl⟩, merge⟩
    refine ⟨front ++ [] ++ behind,
      ⟨_, behind, ⟨front, [], readFront, rfl, rfl⟩, readBehind, rfl⟩, ?_⟩
    rw [List.append_nil]
    exact (Document.isMerge_ofDirectives front behind).unique merge

/-- A text is rejected for the first of its lines that is rejected as a text of its own. -/
theorem parse_eq_error (t : Text) (f : ReadFault) :
    parse t = .error f ↔ ∃ before line after g, Text.lines t = before ++ line :: after ∧
      (∀ l ∈ before, ∃ d, parse l = .ok d) ∧ parse line = .error g ∧
      f = { g with lineNumber := before.length + 1 } := by
  have rejected : parse t = .error f ↔ readLines 1 (Text.lines t) = .error f := by
    rw [parse]
    cases readLines 1 (Text.lines t) with
    | error g => simp [Except.map]
    | ok ds => simp [Except.map]
  -- each line has no breaks in it, so as a text it is a single line
  have unbroken := Text.isUnbroken_of_mem_lines t
  rw [rejected, readLines_eq_error]
  constructor
  · rintro ⟨before, line, after, fault, cut, read, faulty, rfl⟩
    rw [cut] at unbroken
    refine ⟨before, line, after, ⟨1, Text.trim line, fault⟩, cut, fun l member => ?_, ?_, ?_⟩
    · exact (exists_parse_eq_ok_line l (unbroken l (List.mem_append_left _ member))).mpr
        (read l member)
    · exact (parse_eq_error_line line _ (unbroken line (by simp))).mpr ⟨fault, faulty, rfl⟩
    · rw [Nat.add_comm]
  · rintro ⟨before, line, after, g, cut, read, alone, rfl⟩
    rw [cut] at unbroken
    obtain ⟨fault, faulty, rfl⟩ :=
      (parse_eq_error_line line g (unbroken line (by simp))).mp alone
    refine ⟨before, line, after, fault, cut, fun l member => ?_, faulty, ?_⟩
    · exact (exists_parse_eq_ok_line l (unbroken l (List.mem_append_left _ member))).mp
        (read l member)
    · rw [Nat.add_comm]

/-- What a report has in front of the number of the line: the column of a malformed pattern. -/
def LineFault.column : LineFault → String
  | malformed cause => "Column " ++ toString cause.position ++ ": "
  | _ => ""

theorem ReadFault.exists_message_eq (f : ReadFault) :
    ∃ rest, f.message = f.fault.column ++ ("Line " ++ toString f.lineNumber ++ ": ") ++ rest := by
  obtain ⟨n, line, fault⟩ := f
  have report (cause : String) : ∃ rest, "Line " ++ toString n ++ ": " ++ cause ++ "\n  "
      ++ String.ofList line = "" ++ ("Line " ++ toString n ++ ": ") ++ rest :=
    ⟨cause ++ "\n  " ++ String.ofList line, by simp only [String.empty_append, String.append_assoc]⟩
  cases fault with
  | malformed cause =>
    refine ⟨cause.fault.text ++ "\n  " ++ String.ofList cause.source ++ "\n  "
      ++ String.ofList (List.replicate cause.position ' ') ++ "^", ?_⟩
    change cause.message ("Line " ++ toString n ++ ": ") =
      "Column " ++ toString cause.position ++ ": " ++ ("Line " ++ toString n ++ ": ") ++ _
    unfold Malformed.message
    simp only [String.append_assoc]
  | _ => exact report _

/-- Grammars are read line by line: two texts with a line feed between them are a grammar exactly if
both are, and then the documents are merged; and a text is rejected for the first line that is
rejected by itself, whose number is reported. -/
theorem parse_lines :
    (∀ t u : Text, (∃ f, parse (t ++ '\n' :: u) = .ok f) ↔
      (∃ d, parse t = .ok d) ∧ ∃ e, parse u = .ok e) ∧
    (∀ (t u : Text) (f : Document), parse (t ++ '\n' :: u) = .ok f ↔
      ∃ d e, parse t = .ok d ∧ parse u = .ok e ∧ Document.IsMerge d e f) ∧
    ∀ (t : Text) (f : ReadFault),
      (parse t = .error f ↔ ∃ before line after g, Text.lines t = before ++ line :: after ∧
        (∀ l ∈ before, ∃ d, parse l = .ok d) ∧ parse line = .error g ∧
        f = { g with lineNumber := before.length + 1 }) ∧
      ∃ rest, f.message = f.fault.column ++ ("Line " ++ toString f.lineNumber ++ ": ") ++ rest := by
  refine ⟨fun t u => ?_, parse_append_newline_eq_ok, fun t f =>
    ⟨parse_eq_error t f, f.exists_message_eq⟩⟩
  constructor
  · rintro ⟨f, whole⟩
    obtain ⟨d, e, front, behind, -⟩ := (parse_append_newline_eq_ok t u f).mp whole
    exact ⟨⟨d, front⟩, e, behind⟩
  · rintro ⟨⟨d, front⟩, e, behind⟩
    obtain ⟨ds, readFront, rfl⟩ := (map_eq_ok _ _ _).mp front
    obtain ⟨es, readBehind, rfl⟩ := (map_eq_ok _ _ _).mp behind
    exact ⟨_, (parse_append_newline_eq_ok t u _).mpr
      ⟨_, _, front, behind, Document.isMerge_ofDirectives ds es⟩⟩

-- blank lines and comments are counted
example : parse "# verbs\n\nverb take: get\r\nverbs".toList =
    .error ⟨4, "verbs".toList, .unknownDirective "verbs".toList⟩ := by rfl

end TextAdventure.Grammar
