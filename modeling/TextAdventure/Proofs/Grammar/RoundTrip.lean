import TextAdventure.Proofs.Grammar.Lines

/-!
Writing a grammar and reading it again. The lines of a document say one directive for each of its
entries (`writes_documentLines`), the directives add up to the document again
(`ofDirectives_directives`), and dropping the blanks at the end of the text loses no line that says
anything (`readLines_lines_append_blanks`). Only empty word lists are not written.
-/
namespace TextAdventure.Grammar

open Text (IsWord IsTrimmed IsUnbroken)

/-! ### Reading lines -/

theorem readLines_append (n : Nat) (ls ms : List Text) (ds es : List Directive)
    (front : readLines n ls = .ok ds) (behind : ∀ m, readLines m ms = .ok es) :
    readLines n (ls ++ ms) = .ok (ds ++ es) := by
  induction ls generalizing n ds with
  | nil =>
    cases front
    exact behind n
  | cons l ls ih =>
    rw [readLines] at front
    rw [List.cons_append, readLines]
    split at front
    · cases front
    next d first =>
      -- the lines behind are read from a later number on, which makes no difference to them
      obtain ⟨later, readLater, last⟩ := (bind_eq_ok _ _ _).mp front
      cases last
      rw [List.append_assoc]
      exact (bind_eq_ok _ _ _).mpr ⟨_, ih (n + 1) later readLater, rfl⟩

theorem readLines_map_trimEnd (n : Nat) (ls : List Text) :
    readLines n (ls.map Text.trimEnd) = readLines n ls := by
  induction ls generalizing n with
  | nil => rfl
  | cons l ls ih => rw [List.map_cons, readLines, readLines, readLine_trimEnd, Text.trim_trimEnd, ih]

theorem readLines_empty (n k : Nat) : readLines n (List.replicate k []) = .ok [] := by
  induction k generalizing n with
  | zero => rfl
  | succ k ih =>
    have blank : readLine [] = .ok none := rfl
    rw [List.replicate_succ, readLines, blank]
    exact (bind_eq_ok _ _ _).mpr ⟨[], ih (n + 1), rfl⟩

theorem readLines_append_empty (n k : Nat) (ls : List Text) :
    readLines n (ls ++ List.replicate k []) = readLines n ls := by
  induction ls generalizing n with
  | nil => exact readLines_empty n k
  | cons l ls ih => rw [List.cons_append, readLines, readLines, ih]

/-- Blanks at the end of a text say nothing. -/
theorem readLines_lines_append_blanks (n : Nat) (t b : Text)
    (blanks : ∀ c ∈ b, Text.isBlank c = true) :
    readLines n (Text.lines (t ++ b)) = readLines n (Text.lines t) := by
  obtain ⟨k, same⟩ := Text.lines_append_blanks t b blanks
  rw [← readLines_map_trimEnd, same, readLines_append_empty, readLines_map_trimEnd]

/-! ### Lines that say directives -/

/-- Whether the lines have no breaks in them and say the directives, wherever they stand. -/
structure Writes (ls : List Text) (ds : List Directive) : Prop where
  unbroken : ∀ l ∈ ls, IsUnbroken l
  read : ∀ n, readLines n ls = .ok ds

theorem writes_nil : Writes [] [] := ⟨List.forall_mem_nil _, fun _ => rfl⟩

theorem Writes.append {ls ms : List Text} {ds es : List Directive} (front : Writes ls ds)
    (behind : Writes ms es) : Writes (ls ++ ms) (ds ++ es) where
  unbroken := List.forall_mem_append.mpr ⟨front.unbroken, behind.unbroken⟩
  read n := readLines_append n ls ms ds es (front.read n) behind.read

theorem writes_of_readLine (l : Text) (d : Option Directive) (unbroken : IsUnbroken l)
    (read : readLine l = .ok d) : Writes [l] d.toList where
  unbroken := List.forall_mem_singleton.mpr unbroken
  read n := by
    rw [readLines, read]
    exact (bind_eq_ok _ _ _).mpr ⟨[], rfl, congrArg Except.ok (List.append_nil _)⟩

theorem writes_map {α : Type} (line : α → Text) (make : α → Directive) (xs : List α)
    (each : ∀ x ∈ xs, Says (line x) (make x)) : Writes (xs.map line) (xs.map make) := by
  induction xs with
  | nil => exact writes_nil
  | cons x xs ih =>
    obtain ⟨first, later⟩ := List.forall_mem_cons.mp each
    exact (writes_of_readLine (line x) (some (make x)) first.unbroken first.read).append (ih later)

/-- A heading and a blank line say nothing. -/
theorem Writes.framed (heading : Text) {ls : List Text} {ds : List Directive} (lines : Writes ls ds)
    (comment : heading.head? = some '#') (unbroken : IsUnbroken heading) :
    Writes (heading :: ls ++ [[]]) ds := by
  have above := writes_of_readLine heading none unbroken (readLine_comment heading comment)
  have blank : Writes [[]] [] := writes_of_readLine [] none Text.isUnbroken_nil rfl
  have framed := (above.append lines).append blank
  rwa [List.append_nil] at framed

theorem Writes.section (heading : String) {ls : List Text} {ds : List Directive}
    (lines : Writes ls ds) (comment : heading.toList.head? = some '#')
    (unbroken : IsUnbroken heading.toList) : Writes (sectionLines heading ls) ds := by
  unfold sectionLines
  split
  next empty =>
    rwa [List.isEmpty_iff.mp empty] at lines
  · exact lines.framed heading.toList comment unbroken

/-! ### Documents -/

/-- The word list of a name unless it is missing or empty. -/
def Document.writtenList? (d : Document) (name : Text) : Option (List Text) :=
  (d.wordLists.get? name).filter (!·.isEmpty)

/-- The word lists that are written, in their order. -/
def Document.writtenLists (d : Document) : List (Text × List Text) :=
  wordListNames.filterMap fun name => (d.writtenList? name).map (name, ·)

/-- The directives that the lines of a document are written for. -/
def Document.directives (d : Document) : List Directive :=
  d.verbs.entries.map (fun e => .verb e.1 e.2)
    ++ d.directions.entries.map (fun e => .direction e.1 e.2)
    ++ d.abbreviations.entries.map (fun e => .abbreviation e.1 e.2)
    ++ d.multiWordVerbs.map .multiWordVerb
    ++ d.writtenLists.map (fun e => .wordList e.1 e.2)
    ++ d.errors.entries.map (fun e => .error e.1 e.2)
    ++ d.rules.map .rule

theorem Document.mem_writtenLists (d : Document) (name : Text) (ws : List Text)
    (member : (name, ws) ∈ d.writtenLists) :
    name ∈ wordListNames ∧ d.wordLists.get? name = some ws ∧ ws ≠ [] := by
  obtain ⟨name', listed, made⟩ := List.mem_filterMap.mp member
  obtain ⟨ws', kept, same⟩ := Option.map_eq_some_iff.mp made
  cases same
  obtain ⟨found, nonempty⟩ := Option.filter_eq_some_iff.mp kept
  exact ⟨listed, found, by simpa using nonempty⟩

theorem wordListLine_eq (d : Document) (name : Text) :
    wordListLine d name =
      ((d.writtenList? name).map fun ws => name ++ ' ' :: Text.unwords ws).toList := by
  unfold wordListLine Document.writtenList?
  cases d.wordLists.get? name with
  | none => rfl
  | some ws =>
    cases ws with
    | nil => rfl
    | cons w ws => rfl

theorem flatMap_wordListLine (d : Document) (names : List Text) :
    names.flatMap (wordListLine d) =
      (names.filterMap fun name => (d.writtenList? name).map (name, ·)).map
        fun e => e.1 ++ ' ' :: Text.unwords e.2 := by
  induction names with
  | nil => rfl
  | cons name names ih =>
    rw [List.flatMap_cons, wordListLine_eq, ih]
    cases kept : d.writtenList? name <;> simp [kept]

theorem writes_wordListLines (d : Document) (wellFormed : d.WellFormed) :
    Writes (wordListLines d) (d.writtenLists.map fun e => .wordList e.1 e.2) := by
  unfold wordListLines
  split
  next empty =>
    have nothing : d.writtenLists = [] := by
      apply List.eq_nil_iff_forall_not_mem.mpr
      intro e member
      obtain ⟨-, found, -⟩ := d.mem_writtenLists e.1 e.2 member
      rw [Table.get?, List.isEmpty_iff.mp empty] at found
      cases found
    rw [nothing]
    exact writes_nil
  · -- the heading stands even where all lists are empty, so this is no `sectionLines`
    rw [flatMap_wordListLine]
    refine (writes_map _ _ _ fun e member => ?_).framed _ (by decide) (by decide)
    obtain ⟨-, found, nonempty⟩ := d.mem_writtenLists e.1 e.2 member
    have entry := d.wordLists.mem_entries_of_get? e.1 e.2 found
    exact says_wordListLine e.1 e.2 (wellFormed.wordLists _ entry) nonempty

theorem writes_documentLines (d : Document) (wellFormed : d.WellFormed)
    (plain : ∀ e ∈ d.verbs.entries ++ d.directions.entries, ∀ s ∈ e.2, IsPlain s) :
    Writes (documentLines d) d.directives := by
  obtain ⟨plainVerbs, plainDirections⟩ := List.forall_mem_append.mp plain
  have verbs := writes_map (entryLine "verb") (fun e => .verb e.1 e.2) d.verbs.entries
    fun e member => says_verbLine e.1 e.2 (wellFormed.verbs e member) (plainVerbs e member)
  have directions := writes_map (entryLine "direction") (fun e => .direction e.1 e.2)
    d.directions.entries fun e member =>
      says_directionLine e.1 e.2 (wellFormed.directions e member) (plainDirections e member)
  have abbreviations := writes_map (settingLine "abbrev") (fun e => .abbreviation e.1 e.2)
    d.abbreviations.entries fun e member =>
      says_abbreviationLine e.1 e.2 (wellFormed.abbreviations e member)
  have multiWordVerbs := writes_map ("multiword ".toList ++ ·) .multiWordVerb d.multiWordVerbs
    fun p member => says_multiWordLine p (wellFormed.multiWordVerbs p member)
  have errors := writes_map (settingLine "error") (fun e => .error e.1 e.2) d.errors.entries
    fun e member => says_errorLine e.1 e.2 (wellFormed.errors e member)
  have rules := writes_map ruleLine .rule d.rules
    fun r member => says_ruleLine r (wellFormed.rules r member)
  -- section by section, in the order in which they are written
  have upToVerbs := verbs.section "# Verbs" (by decide) (by decide)
  have upToDirections := upToVerbs.append
    (directions.section "# Directions" (by decide) (by decide))
  have upToAbbreviations := upToDirections.append
    (abbreviations.section "# Abbreviations" (by decide) (by decide))
  have upToMultiWordVerbs := upToAbbreviations.append
    (multiWordVerbs.section "# Multi-word verbs" (by decide) (by decide))
  have upToWordLists := upToMultiWordVerbs.append (writes_wordListLines d wellFormed)
  have upToErrors := upToWordLists.append (errors.section "# Errors" (by decide) (by decide))
  exact upToErrors.append (rules.section "# Patterns (first match wins)" (by decide) (by decide))

/-! ### Adding up -/

/-- Directives that rewrite one field by `f` rewrite it by a fold of `f`. -/
theorem foldl_add_map {α β : Type} (make : α → Directive) (get : Document → β)
    (set : Document → β → Document) (f : β → α → β)
    (step : ∀ d x, d.add (make x) = set d (f (get d) x))
    (laws : ∀ d b c, get (set d b) = b ∧ set (set d b) c = set d c ∧ set d (get d) = d)
    (d : Document) (xs : List α) :
    (xs.map make).foldl Document.add d = set d (xs.foldl f (get d)) := by
  induction xs generalizing d with
  | nil => exact (laws d (get d) (get d)).2.2.symm
  | cons x xs ih =>
    -- the rest of the fold starts from the field as the first step leaves it
    obtain ⟨getSet, setSet, -⟩ := laws d (f (get d) x) (xs.foldl f (f (get d) x))
    rw [List.map_cons, List.foldl_cons, ih, step, getSet, setSet, List.foldl_cons]

theorem foldl_add_verb (d : Document) (es : List (Text × List Text)) :
    (es.map fun e => .verb e.1 e.2).foldl Document.add d =
      { d with verbs := es.foldl (fun t e => t.append e.1 e.2) d.verbs } :=
  foldl_add_map _ Document.verbs (fun d v => { d with verbs := v }) _ (fun _ _ => rfl)
    (fun _ _ _ => ⟨rfl, rfl, rfl⟩) d es

theorem foldl_add_direction (d : Document) (es : List (Text × List Text)) :
    (es.map fun e => .direction e.1 e.2).foldl Document.add d =
      { d with directions := es.foldl (fun t e => t.append e.1 e.2) d.directions } :=
  foldl_add_map _ Document.directions (fun d v => { d with directions := v }) _ (fun _ _ => rfl)
    (fun _ _ _ => ⟨rfl, rfl, rfl⟩) d es

theorem foldl_add_abbreviation (d : Document) (es : List (Text × Text)) :
    (es.map fun e => .abbreviation e.1 e.2).foldl Document.add d =
      { d with abbreviations := es.foldl (fun t e => t.put e.1 e.2) d.abbreviations } :=
  foldl_add_map _ Document.abbreviations (fun d v => { d with abbreviations := v }) _
    (fun _ _ => rfl) (fun _ _ _ => ⟨rfl, rfl, rfl⟩) d es

theorem foldl_add_multiWordVerb (d : Document) (ps : List Text) :
    (ps.map .multiWordVerb).foldl Document.add d =
      { d with multiWordVerbs := d.multiWordVerbs ++ ps } := by
  rw [foldl_add_map _ Document.multiWordVerbs (fun d v => { d with multiWordVerbs := v })
    (fun qs p => qs ++ [p]) (fun _ _ => rfl) (fun _ _ _ => ⟨rfl, rfl, rfl⟩) d ps,
    List.foldl_append_eq_append, ← List.flatMap_def, List.flatMap_singleton']

theorem foldl_add_wordList (d : Document) (es : List (Text × List Text)) :
    (es.map fun e => .wordList e.1 e.2).foldl Document.add d =
      { d with wordLists := es.foldl (fun t e => t.append e.1 e.2) d.wordLists } :=
  foldl_add_map _ Document.wordLists (fun d v => { d with wordLists := v }) _ (fun _ _ => rfl)
    (fun _ _ _ => ⟨rfl, rfl, rfl⟩) d es

theorem foldl_add_error (d : Document) (es : List (Text × Text)) :
    (es.map fun e => .error e.1 e.2).foldl Document.add d =
      { d with errors := es.foldl (fun t e => t.put e.1 e.2) d.errors } :=
  foldl_add_map _ Document.errors (fun d v => { d with errors := v }) _ (fun _ _ => rfl)
    (fun _ _ _ => ⟨rfl, rfl, rfl⟩) d es

theorem foldl_add_rule (d : Document) (rs : List RuleSource) :
    (rs.map .rule).foldl Document.add d = { d with rules := d.rules ++ rs } := by
  rw [foldl_add_map _ Document.rules (fun d v => { d with rules := v })
    (fun qs r => qs ++ [r]) (fun _ _ => rfl) (fun _ _ _ => ⟨rfl, rfl, rfl⟩) d rs,
    List.foldl_append_eq_append, ← List.flatMap_def, List.flatMap_singleton']

/-- The directives of a document add up to it, the empty word lists excepted. -/
theorem ofDirectives_directives (d : Document) :
    Document.ofDirectives d.directives =
      { d with wordLists := d.writtenLists.foldl (fun t e => t.append e.1 e.2) ∅ } := by
  simp only [Document.ofDirectives, Document.directives, List.foldl_append, foldl_add_verb,
    foldl_add_direction, foldl_add_abbreviation, foldl_add_multiWordVerb, foldl_add_wordList,
    foldl_add_error, foldl_add_rule, Table.foldl_append_entries, Table.foldl_put_entries,
    List.nil_append]

theorem lookup_filterMap_map (list? : Text → Option (List Text)) (names : List Text) (name : Text) :
    (names.filterMap fun n => (list? n).map (n, ·)).lookup name =
      if name ∈ names then list? name else none := by
  induction names with
  | nil => rfl
  | cons n names ih =>
    cases found : list? n with
    | none =>
      rw [List.filterMap_cons_none (by simp [found]), ih]
      by_cases same : name = n
      · simp [same, found]
      · simp [same]
    | some ws =>
      rw [List.filterMap_cons_some (by simp [found]; rfl), List.lookup_cons, ih]
      by_cases same : name = n
      · simp [same, found]
      · simp [same, beq_false_of_ne same]

theorem map_fst_filterMap_map (list? : Text → Option (List Text)) (names : List Text) :
    (names.filterMap fun n => (list? n).map (n, ·)).map Prod.fst =
      names.filter fun n => (list? n).isSome := by
  induction names with
  | nil => rfl
  | cons n names ih => cases found : list? n <;> simp [found, ih]

/-- Whether the documents agree, except that an empty word list of the second may be missing. -/
structure Document.SameUpToEmptyLists (d e : Document) : Prop where
  verbs : d.verbs = e.verbs
  directions : d.directions = e.directions
  abbreviations : d.abbreviations = e.abbreviations
  multiWordVerbs : d.multiWordVerbs = e.multiWordVerbs
  wordLists : ∀ name, d.wordLists.get? name = e.wordLists.get? name ∨
    d.wordLists.get? name = none ∧ e.wordLists.get? name = some []
  errors : d.errors = e.errors
  rules : d.rules = e.rules

theorem Document.sameUpToEmptyLists_ofDirectives (d : Document) (wellFormed : d.WellFormed) :
    (ofDirectives d.directives).SameUpToEmptyLists d := by
  rw [ofDirectives_directives]
  refine ⟨rfl, rfl, rfl, rfl, fun name => ?_, rfl, rfl⟩
  have distinct : (d.writtenLists.map Prod.fst).Nodup := by
    have names : wordListNames.Nodup := by decide
    rw [writtenLists, map_fst_filterMap_map]
    exact names.filter _
  have read : Table.get? (d.writtenLists.foldl (fun t e => t.append e.1 e.2) ∅) name =
      if name ∈ wordListNames then d.writtenList? name else none := by
    rw [Table.get?, Table.entries_foldl_append d.writtenLists distinct]
    exact lookup_filterMap_map _ _ _
  rw [read]
  cases found : d.wordLists.get? name with
  | none => simp [writtenList?, found]
  | some ws =>
    -- a list that was read has one of the names that are written
    have entry := d.wordLists.mem_entries_of_get? name ws found
    have listed : name ∈ wordListNames := (wellFormed.wordLists _ entry).1
    cases ws with
    | nil => exact .inr ⟨by simp [writtenList?, found], rfl⟩
    | cons w ws => exact .inl (by simp [writtenList?, found, listed])

/-- The blanks that are dropped at the end of a text stand behind what its lines say. -/
theorem readLines_lines_text (n : Nat) (d : Document)
    (unbroken : ∀ l ∈ documentLines d, IsUnbroken l) :
    readLines n (Text.lines d.text) = readLines n (documentLines d) := by
  obtain ⟨b, blanks, split⟩ := Text.trimEnd_split (Text.join ['\n'] (documentLines d))
  have newline : ∀ c ∈ ['\n'], Text.isBlank c = true := List.forall_mem_singleton.mpr rfl
  rw [Document.text, readLines_lines_append_blanks n _ _ newline]
  by_cases empty : documentLines d = []
  · rw [empty]
    rfl
  · -- with the dropped blanks put back the text is the lines, each with a line feed behind it
    have whole : Text.trimEnd (Text.join ['\n'] (documentLines d)) ++ (b ++ ['\n']) =
        Text.unlines (documentLines d) := by
      rw [← List.append_assoc, ← split, Text.join_append_newline _ empty]
    rw [← readLines_lines_append_blanks n _ (b ++ ['\n'])
      (List.forall_mem_append.mpr ⟨blanks, newline⟩), whole, Text.lines_unlines _ unbroken]

/-- Reading what was written for a document that was read gives the document back. -/
theorem parse_text (t : Text) (d : Document) (parsed : parse t = .ok d)
    (plain : ∀ e ∈ d.verbs.entries ++ d.directions.entries, ∀ s ∈ e.2, IsPlain s) :
    ∃ d', parse d.text = .ok d' ∧ d'.SameUpToEmptyLists d := by
  have wellFormed := wellFormed_of_parse t d parsed
  have writes := writes_documentLines d wellFormed plain
  have read : readLines 1 (Text.lines d.text) = .ok d.directives :=
    (readLines_lines_text 1 d writes.unbroken).trans (writes.read 1)
  refine ⟨.ofDirectives d.directives, ?_, d.sameUpToEmptyLists_ofDirectives wellFormed⟩
  rw [parse, read]
  rfl

/-- A grammar with marks in its keys and values, a key on two lines and an empty word list. -/
def crookedGrammar : Text :=
  Text.unlines
    (["  # nothing: yet", "verb take: get  \x22pick up\x22 a:b", "verb x=y:\r", "", "verb take: grab",
      "direction n=1: \x22north east\x22", "abbrev a=b==c = d: e = f", "abbrev i==inventory",
      "multiword turn = on: now", "articles", "fillers  please   kindly",
      "error no_match=I: {word} = what?", "pattern TAKE :take/get <thing> "].map String.toList)

theorem crookedGrammar_parse_text : ∃ d, parse crookedGrammar = .ok d ∧
    (∀ e ∈ d.verbs.entries ++ d.directions.entries, ∀ s ∈ e.2, IsPlain s) ∧
    ∃ d', parse d.text = .ok d' ∧ d'.SameUpToEmptyLists d := by
  have read : (match parse crookedGrammar with
    | .ok d => decide (∀ e ∈ d.verbs.entries ++ d.directions.entries, ∀ s ∈ e.2, IsPlain s)
    | .error _ => false) = true := by decide +kernel
  split at read
  next d parsed =>
    have plain := of_decide_eq_true read
    exact ⟨d, parsed, plain, parse_text crookedGrammar d parsed plain⟩
  · cases read

end TextAdventure.Grammar
