import TextAdventure.CommandLine.Report
import TextAdventure.Proofs.CommandLine.Entries
import TextAdventure.Proofs.CommandLine.Markup

/-!
What a printed trace says, whatever console prints it. Only the verb is not escaped, so its line is
the only one that a console may refuse, and then nothing is said about rules. Otherwise the trace
marks the first rule that fits, while a line is decided by the first rule that fits and captures
whole phrases. The trace therefore names the rule that decides if and only if these two are the same
rule (`run_debug`).
-/
namespace TextAdventure.CommandLine

open Text (unwords)

/-! ### Traces -/

namespace Trace

variable (t : Trace)

theorem winner?_eq_none_iff : t.winner? = none ↔ ∀ p, .winner p ∉ t.entries := by
  rw [winner?, List.findSome?_eq_none_iff]
  constructor
  · intro unmarked p member
    cases unmarked _ member
  · intro unmarked e member
    cases e with
    | winner p => exact absurd member (unmarked p)
    | alsoFits p | misses p => rfl

/-- What the lines of the entries and the whole output say about the rule of that number: an arrow
stands in front of that rule and of no other one, and without a number no rule is said to match. -/
structure Names (heading : Text) (lines : List Text) (output : Text) (decided : Option Nat) :
    Prop where
  marks_iff : (∃ l ∈ lines, l.head? = some '→') ↔ decided.isSome = true
  marked : ∀ l ∈ lines, l.head? = some '→' → ∃ n, decided = some n ∧ arrow n <+: l
  output_eq : output = heading ++ lines.flatten ++
    if decided.isSome then [] else "No pattern matched.\n".toList

/-- What the trace names can be read off the printed lines. -/
theorem Names.unique {heading output : Text} {lines : List Text} {decided decided' : Option Nat}
    (names : Names heading lines output decided) (names' : Names heading lines output decided') :
    decided = decided' := by
  have same : decided.isSome = decided'.isSome :=
    Bool.eq_iff_iff.mpr (names.marks_iff.symm.trans names'.marks_iff)
  cases decided with
  | none => exact (Option.isNone_iff_eq_none.mp (Option.isSome_eq_false_iff.mp same.symm)).symm
  | some m =>
    -- one printed line with the arrow bears both numbers
    obtain ⟨l, member, mark⟩ := names.marks_iff.mpr rfl
    obtain ⟨m, number, front⟩ := names.marked l member mark
    obtain ⟨n, number', front'⟩ := names'.marked l member mark
    rw [number, number', eq_of_arrow_isPrefixOf m n _ front front']

variable (c : Console)

/-- How the lines around that of the verb are printed. -/
structure IsPrinted (first : Text) (lines : List Text) : Prop where
  normalized : c.print? (t.normalizedMarkup c) = some first
  entries : (t.entries.map (entryMarkup c)).map c.print? = lines.map some

/-- What is written after the entries. -/
def ending : Text := if t.winner?.isNone then "No pattern matched.\n".toList else []

theorem lines_eq : t.lines c = t.normalizedMarkup c :: t.verbMarkup ::
    (t.entries.map (entryMarkup c) ++ if t.winner?.isNone then [noMatchMarkup] else []) := rfl

section

variable (reads : c.ReadsMarkup) (first : Text) (lines : List Text)
  (printed : t.IsPrinted c first lines)

include printed in
theorem mem_lines_iff (l : Text) :
    l ∈ lines ↔ ∃ e ∈ t.entries, c.print? (entryMarkup c e) = some l := by
  have among : l ∈ lines ↔ some l ∈ lines.map some := by simp
  rw [among, ← printed.entries, List.map_map, List.mem_map]
  rfl

include printed in
/-- A verb that the console refuses is the end of the trace. -/
theorem writeAll_refused (refused : c.print? t.verbMarkup = none) :
    c.writeAll ((t.lines c).map .line) = ⟨first, false⟩ := by
  rw [t.lines_eq c, List.map_cons, List.map_cons, Console.writeAll, Console.write?,
    printed.normalized, Console.writeAll, Console.write?, refused]
  simp

include reads

theorem exists_isPrinted (plain : ∀ e ∈ t.entries, IsPlain e.probe) :
    ∃ first lines, t.IsPrinted c first lines := by
  have normalized := reads.escaped (some .dim) "normalized: ".toList (unwords t.normalized) [] []
    (by decide) (by decide) (by decide)
  rw [List.append_nil, List.append_nil] at normalized
  obtain ⟨first, printed⟩ := Option.isSome_iff_exists.mp normalized
  refine ⟨first, t.entries.map fun e => (c.print? (entryMarkup c e)).getD [], printed, ?_⟩
  rw [List.map_map, List.map_map]
  apply List.map_congr_left
  intro e member
  obtain ⟨l, line⟩ := Option.isSome_iff_exists.mp (isSome_print?_entry c reads e (plain e member))
  rw [Function.comp_apply, Function.comp_apply, line, Option.getD_some]

/-- A verb without brackets is printed. -/
theorem isSome_print?_verb (plain : ∀ w ∈ t.verb, Avoids brackets w) :
    (c.print? t.verbMarkup).isSome = true := by
  have verb : Avoids brackets (t.verb.getD "None".toList) := by
    cases spelled : t.verb with
    | none => decide
    | some w => exact plain w spelled
  have empty : c.escape [] = [] := reads.escape_of_avoids [] (by decide) (by decide)
  have printed := reads.escaped (some .dim) "verb: ".toList [] (t.verb.getD "None".toList) ['\n']
    (by decide) verb (by decide)
  rw [empty, List.append_nil] at printed
  exact printed

theorem print?_noMatch : c.print? noMatchMarkup = some "No pattern matched.\n".toList :=
  reads.literal (some .yellow) "No pattern matched.".toList (by decide)

include printed

/-- A trace is printed line by line, with a last line if there is no winner. -/
theorem writeAll_printed (second : Text) (verb : c.print? t.verbMarkup = some second) :
    c.writeAll ((t.lines c).map .line) =
      ⟨first ++ second ++ lines.flatten ++ t.ending, true⟩ := by
  have last : (if t.winner?.isNone then [noMatchMarkup] else []).map c.print? =
      (if t.winner?.isNone then ["No pattern matched.\n".toList] else []).map some := by
    split
    · rw [List.map_singleton, List.map_singleton, print?_noMatch c reads]
    · rfl
  have each : (t.lines c).map c.print? = (first :: second :: (lines ++
      if t.winner?.isNone then ["No pattern matched.\n".toList] else [])).map some := by
    rw [t.lines_eq c, List.map_cons, List.map_cons, List.map_append, last, printed.normalized,
      verb, printed.entries, List.map_cons, List.map_cons, List.map_append]
  rw [c.writeAll_lines _ _ each, ending]
  split <;> simp

theorem exists_marked_iff :
    (∃ l ∈ lines, l.head? = some '→') ↔ ∃ p, .winner p ∈ t.entries := by
  have among := t.mem_lines_iff c first lines printed
  constructor
  · rintro ⟨l, member, mark⟩
    obtain ⟨e, entry, line⟩ := (among l).mp member
    obtain ⟨p, rfl⟩ := (head?_entry c reads e l line).mp mark
    exact ⟨p, entry⟩
  · rintro ⟨p, entry⟩
    -- the entry is printed as one of the lines
    have inside : c.print? (entryMarkup c (.winner p)) ∈ lines.map some :=
      printed.entries ▸ List.mem_map_of_mem (List.mem_map_of_mem entry)
    obtain ⟨l, member, line⟩ := List.mem_map.mp inside
    exact ⟨l, member, (head?_entry c reads _ l line.symm).mpr ⟨p, rfl⟩⟩

theorem names_none (heading : Text) (unmarked : ∀ p, .winner p ∉ t.entries) :
    Names heading lines (heading ++ lines.flatten ++ t.ending) none := by
  have absent : ¬∃ l ∈ lines, l.head? = some '→' := fun marked =>
    let ⟨p, member⟩ := (t.exists_marked_iff c reads first lines printed).mp marked
    unmarked p member
  refine ⟨iff_of_false absent nofun, fun l member mark => (absent ⟨l, member, mark⟩).elim, ?_⟩
  rw [ending, t.winner?_eq_none_iff.mpr unmarked]
  rfl

theorem names_some (heading : Text) (p : Probe) (member : .winner p ∈ t.entries)
    (only : ∀ q, .winner q ∈ t.entries → q = p) :
    Names heading lines (heading ++ lines.flatten ++ t.ending) (some p.index) := by
  refine ⟨iff_of_true ((t.exists_marked_iff c reads first lines printed).mpr ⟨p, member⟩) rfl,
    ?_, ?_⟩
  · intro l among mark
    obtain ⟨e, entry, line⟩ := (t.mem_lines_iff c first lines printed l).mp among
    obtain ⟨q, rfl⟩ := (head?_entry c reads e l line).mp mark
    exact ⟨p.index, rfl, only q entry ▸ arrow_isPrefixOf_line c reads q l line⟩
  · have marked : t.winner?.isNone = false := by
      rw [← Bool.not_eq_true, Option.isNone_iff_eq_none, t.winner?_eq_none_iff]
      exact fun unmarked => unmarked p member
    rw [ending, marked]
    rfl

/-- The trace of probes names the first one that fits. -/
theorem names_iff (heading : Text) (showAll : Bool) (ps : List Probe)
    (listed : t.entries = traceEntries showAll false ps) (decided : Option Nat) :
    Names heading lines (heading ++ lines.flatten ++ t.ending) decided ↔
      decided = (ps.find? Probe.matched).map Probe.index := by
  have winner (p : Probe) : .winner p ∈ t.entries ↔ ps.find? Probe.matched = some p := by
    rw [listed]
    exact winner_mem_traceEntries showAll ps p
  have correct : Names heading lines (heading ++ lines.flatten ++ t.ending)
      ((ps.find? Probe.matched).map Probe.index) := by
    cases found : ps.find? Probe.matched with
    | none =>
      apply t.names_none c reads first lines printed
      intro p member
      rw [(winner p).mp member] at found
      cases found
    | some p =>
      apply t.names_some c reads first lines printed heading p ((winner p).mpr found)
      intro q member
      exact Option.some.inj (((winner q).mp member).symm.trans found)
  constructor
  · exact fun names => names.unique correct
  · rintro rfl
    exact correct

end

end Trace

/-! ### Tracing a line -/

section

variable (i : Interpreter) (line : Text) (showAll : Bool)

/-- A line can be traced if it can be interpreted, also if it has no words. -/
theorem exists_trace (worded : i.lexicon.PhrasesHaveWords) (o : Outcome)
    (interpreted : i.interpret line = .ok o) :
    ∃ t, Trace.ofLine i line showAll = .ok t ∧
      t.entries = traceEntries showAll false (i.probes line) := by
  obtain ⟨verb, named⟩ : ∃ verb, i.lexicon.findVerb (i.normalize line) = .ok verb := by
    by_cases empty : i.normalize line = []
    · rw [empty]
      exact ⟨none, i.lexicon.findVerb_nil worded⟩
    · rw [i.interpret_of_ne_nil line empty] at interpreted
      obtain ⟨verb, named, -⟩ := (map_eq_ok _ _ _).mp interpreted
      exact ⟨verb, named⟩
  refine ⟨⟨i.normalize line, verb, traceEntries showAll false (i.probes line)⟩, ?_, rfl⟩
  rw [Trace.ofLine, named]
  rfl

variable (s : Surroundings) (v : Invocation) (c : Console)

theorem run_of_ofLine (task : v.task = .debug line showAll)
    (loaded : (Grammar.loadInterpreter s.files (v.grammar.or s.grammarFile) true).result = .ok i)
    (t : Trace) (traced : Trace.ofLine i line showAll = .ok t) :
    v.run c s = .ok (Answer.report ⟨0, (t.lines c).map .line,
      (Grammar.loadInterpreter s.files (v.grammar.or s.grammarFile) true).warnings⟩ c) := by
  rw [Invocation.run, Invocation.answer, task]
  simp only [withLoaded, loaded, traced]
  rfl

end

/-- A verb that reads as a tag with nothing to close is refused. -/
example :
    let closer : Surroundings :=
      { files := fun _ => some "verb [/x]: foo\npattern P: foo <item>\n".toList, input := []
        grammarFile := some "game.grammar".toList, serviceDown := false }
    Invocation.run ⟨none, .debug "foo lamp".toList false⟩ Markup.console closer =
      .ok ⟨1, "normalized: [/x] lamp\n".toList, []⟩ := by decide +kernel

/-- Where a grammar file with one rule is found. -/
def giver : Surroundings where
  files path :=
    if path = "game.grammar".toList then
      some "articles the\nverb give: hand\npattern GIVE: give <item> [to] <character>\n".toList
    else none
  input := []
  grammarFile := some "game.grammar".toList
  serviceDown := false

def loadedGiver : Grammar.Loaded Interpreter :=
  Grammar.loadInterpreter giver.files giver.grammarFile true

theorem warnings_loadedGiver : loadedGiver.warnings = [] := by decide +kernel

end TextAdventure.CommandLine
