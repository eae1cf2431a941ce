import TextAdventure.CommandLine.Trace
import TextAdventure.Proofs.CommandLine.Console
import TextAdventure.Proofs.Grammar.Lexicon
import TextAdventure.Proofs.Interpreter.Probing
import TextAdventure.Proofs.Pattern.Alignment
import TextAdventure.Proofs.Pattern.RoundTrip
import TextAdventure.Proofs.Rulebook.Assembly

/-!
The entries of a trace as a console prints them. Actions are words, captures are made of names, and
patterns are escaped, so no entry of an interpreter that was loaded is refused
(`isSome_print?_entry`). Exactly the entry of a winner is printed with an arrow, and the number of
its rule can be read back from the line (`eq_of_arrow_isPrefixOf`).
-/
namespace TextAdventure.CommandLine

/-! ### What cannot be taken for markup -/

theorem avoids_word (w : Text) (word : ∀ a ∈ w, Text.isWordChar a = true) :
    Avoids ['[', ']', '\\'] w :=
  avoids_of_forall Text.isWordChar _ w word (by decide)

theorem avoids_namePhrase (u : Text) (phrase : IsNamePhrase u) : Avoids brackets u := by
  refine avoids_of_forall (fun a => isNameChar a || Text.isBlank a) _ u (fun a member => ?_)
    (by decide)
  rw [Bool.or_eq_true]
  exact phrase.chars a member

theorem avoids_slotName (n : Text) (named : Pattern.IsSlotName n) : Avoids brackets n := by
  obtain ⟨a, t, rfl, first, later⟩ := named
  refine avoids_of_forall (fun a => a.isAlphanum || a == '_') _ _ (fun b member => ?_) (by decide)
  rw [Bool.or_eq_true, beq_iff_eq]
  rcases List.mem_cons.mp member with rfl | member
  · exact first.imp_left fun alpha => by rw [Char.isAlphanum, alpha, Bool.true_or]
  · exact later b member

theorem avoids_hexDigits (width n : Nat) : Avoids brackets (Text.hexDigits width n) := by
  induction width generalizing n with
  | zero => exact List.forall_mem_nil _
  | succ width ih =>
    have digits : ∀ m < 16, Nat.digitChar m ∉ brackets := by decide
    exact (ih (n / 16)).append
      (List.forall_mem_singleton.mpr (digits _ (Nat.mod_lt n (by decide))))

theorem avoids_escapeIn (quote a : Char) (outside : a ∉ brackets) :
    Avoids brackets (Text.escapeIn quote a) := by
  have alone : Avoids brackets [a] := List.forall_mem_singleton.mpr outside
  have slash (b : Char) (b_outside : b ∉ brackets) : Avoids brackets ['\\', b] :=
    .cons (by decide) (List.forall_mem_singleton.mpr b_outside)
  have coded (b : Char) (width : Nat) (b_outside : b ∉ brackets) :
      Avoids brackets ('\\' :: b :: Text.hexDigits width a.toNat) :=
    (slash b b_outside).append (avoids_hexDigits width _)
  unfold Text.escapeIn Text.codeEscape
  split
  · exact slash a outside
  split
  · exact slash 'n' (by decide)
  split
  · exact slash 'r' (by decide)
  split
  · exact slash 't' (by decide)
  split
  · exact alone
  split
  · exact coded 'x' 2 (by decide)
  split
  · exact coded 'u' 4 (by decide)
  · exact coded 'U' 8 (by decide)

theorem avoids_quoted (t : Text) (avoids : Avoids brackets t) :
    Avoids brackets (Text.quoted t) := by
  have quote : Text.quoteFor t ∉ brackets := by
    unfold Text.quoteFor
    split <;> decide
  have inside : Avoids brackets (t.flatMap (Text.escapeIn (Text.quoteFor t))) := by
    intro a member
    obtain ⟨b, source, escaped⟩ := List.mem_flatMap.mp member
    exact avoids_escapeIn _ b (avoids b source) a escaped
  exact (Avoids.cons quote inside).append (List.forall_mem_singleton.mpr quote)

theorem avoids_join (separator : Text) (ts : List Text) (between : Avoids brackets separator)
    (each : ∀ t ∈ ts, Avoids brackets t) : Avoids brackets (Text.join separator ts) := by
  induction ts with
  | nil => exact List.forall_mem_nil _
  | cons t ts ih =>
    obtain ⟨first, rest⟩ := List.forall_mem_cons.mp each
    cases ts with
    | nil => exact first
    | cons u us => exact (first.append between).append (ih rest)

/-- Whether no part of the probe but its pattern can be taken for markup. -/
structure IsPlain (p : Probe) : Prop where
  action : ∀ a ∈ p.rule.action, Text.isWordChar a = true
  captures : ∀ r ∈ p.captures.getD [], Avoids brackets r.1 ∧ Avoids brackets r.2

theorem avoids_capturesText (captures : List (Text × Text))
    (each : ∀ r ∈ captures, Avoids brackets r.1 ∧ Avoids brackets r.2) :
    Avoids brackets (Trace.capturesText captures) := by
  have inside : Avoids brackets (Text.join [',', ' '] (captures.map fun r =>
      Text.quoted r.1 ++ ':' :: ' ' :: Text.quoted r.2)) := by
    apply avoids_join _ _ (by decide)
    intro t member
    obtain ⟨r, source, rfl⟩ := List.mem_map.mp member
    obtain ⟨name, phrase⟩ := each r source
    have colon : Avoids brackets [':', ' '] := by decide
    exact (avoids_quoted r.1 name).append (colon.append (avoids_quoted r.2 phrase))
  exact (Avoids.cons (by decide) inside).append (by decide)

theorem captures_avoid (spell : Text → Text) (r : Rule)
    (compiled : Rule.compile spell r.source = .ok r) (t : Text) :
    ∀ s ∈ (r.captures? t).getD [], Avoids brackets s.1 ∧ Avoids brackets s.2 := by
  obtain ⟨parsed, -, regex⟩ := (Rule.compile_eq_ok _ _ _).mp compiled
  cases fits : r.spans? t with
  | none =>
    rw [Rule.captures?, fits]
    exact List.forall_mem_nil _
  | some spans =>
    have aligned := Rule.areAligned_of_spans? spell r regex t spans fits
    rw [Rule.captures?, fits, Option.map_some, Option.getD_some,
      Rule.phrasesAt_of_aligned t spans aligned.aligned]
    intro s member
    obtain ⟨span, source, rfl⟩ := List.mem_map.mp member
    have slot : span.1 ∈ r.pattern.slots := aligned.names_eq ▸ List.mem_map_of_mem source
    obtain ⟨e, inPattern, named⟩ := List.mem_filterMap.mp slot
    exact ⟨avoids_slotName _ ((Pattern.isWellFormed_of_parse _ _ parsed e inPattern).name _ named),
      avoids_namePhrase _ (aligned.aligned span source).phrase⟩

/-- The probes of an interpreter that was loaded are plain. -/
theorem isPlain_of_loaded (files : Text → Option Text) (path : Option Text) (stripFillers : Bool)
    (i : Interpreter)
    (loaded : (Grammar.loadInterpreter files path stripFillers).result = .ok i) (line : Text) :
    ∀ p ∈ i.probes line, IsPlain p := by
  obtain ⟨d, sources, wellFormed, within, made⟩ := Grammar.exists_document_of_loaded _ _ _ i loaded
  have bound := Interpreter.isBound_of_ofSources _ _ _ _ i made
  obtain ⟨b, built, last⟩ := (bind_eq_ok _ _ _).mp made
  cases last
  obtain ⟨-, compiled⟩ := Rulebook.isCompiledFrom_of_build _ _ _ b built
  intro p member
  obtain ⟨r, place, shown⟩ := (b.mem_probes _ p).mp member
  have rule : r ∈ b.rules := List.mem_of_getElem? place
  have source : r.source ∈ d.rules :=
    within (compiled.map_source ▸ List.mem_map_of_mem rule)
  rw [shown]
  exact ⟨(wellFormed.rules _ source).1.2, captures_avoid _ r (bound.compiled r rule) _⟩

/-! ### The columns of a winner -/

/-- The columns that come first in the line of a winner. -/
def arrow (n : Nat) : Text := "→ #".toList ++ Text.padEnd 3 (toString n).toList ++ [' ']

theorem isDigit_of_mem_toString (n : Nat) : ∀ c ∈ (toString n).toList, c.isDigit = true := by
  rw [Nat.toString_eq_ofList_toDigits, String.toList_ofList]
  exact fun c member => Nat.isDigit_of_mem_toDigits (by decide) (by decide) member

theorem isLiteral_digits (n : Nat) : IsLiteral (toString n).toList := by
  refine ⟨avoids_of_forall Char.isDigit _ _ (isDigit_of_mem_toString n) (by decide),
    fun a member => ?_⟩
  have digit := isDigit_of_mem_toString n a member
  rw [Char.isDigit, Bool.and_eq_true, decide_eq_true_eq, decide_eq_true_eq] at digit
  obtain ⟨low, -⟩ : 48 ≤ a.toNat ∧ a.toNat ≤ 57 := digit
  exact Nat.le_trans (by decide) low

theorem IsLiteral.append {u v : Text} (front : IsLiteral u) (behind : IsLiteral v) :
    IsLiteral (u ++ v) :=
  ⟨front.avoids.append behind.avoids, List.forall_mem_append.mpr ⟨front.visible, behind.visible⟩⟩

theorem isLiteral_blanks (n : Nat) : IsLiteral (List.replicate n ' ') := by
  refine ⟨avoids_replicate n (by decide), fun a member => ?_⟩
  rw [List.eq_of_mem_replicate member]
  decide

theorem isLiteral_arrow (n : Nat) : IsLiteral (arrow n) := by
  have sign : IsLiteral "→ #".toList := by decide
  have blank : IsLiteral [' '] := by decide
  exact (sign.append ((isLiteral_digits n).append (isLiteral_blanks _))).append blank

/-- The number of a rule can be read back from the line of the winner. -/
theorem eq_of_arrow_isPrefixOf (m n : Nat) (t : Text) (front : arrow m <+: t)
    (front' : arrow n <+: t) : m = n := by
  have number (k : Nat) (front : arrow k <+: t) :
      (t.drop 3).takeWhile Char.isDigit = Nat.toDigits 10 k := by
    obtain ⟨rest, rfl⟩ := front
    have columns : (arrow k ++ rest).drop 3 = (toString k).toList ++
        (List.replicate (3 - (toString k).toList.length) ' ' ++ ' ' :: rest) := by
      simp [arrow, Text.padEnd]
    -- a blank ends the digits, be it of the padding or behind it
    rw [columns, List.takeWhile_append_of_pos (isDigit_of_mem_toString k)]
    cases 3 - (toString k).toList.length <;> simp [List.replicate_succ]
  calc m = Nat.ofDigitChars 10 (Nat.toDigits 10 m) 0 := Nat.ofDigitChars_ten_toDigits.symm
    _ = Nat.ofDigitChars 10 (Nat.toDigits 10 n) 0 := by rw [← number m front, number n front']
    _ = n := Nat.ofDigitChars_ten_toDigits

/-! ### Entries -/

/-- The probe that an entry is about. -/
def TraceEntry.probe : TraceEntry → Probe
  | winner p => p
  | alsoFits p => p
  | misses p => p

section

variable (c : Console) (reads : c.ReadsMarkup)

/-- The columns of a rule in front of its pattern. -/
def ruleHead (p : Probe) : Text :=
  '#' :: Text.padEnd 3 (toString p.index).toList ++ ' ' :: Text.padEnd 16 p.rule.action ++ [' ']

theorem ruleColumns_eq (p : Probe) :
    Trace.ruleColumns c p = ruleHead p ++ c.escape p.rule.pattern := by
  simp [Trace.ruleColumns, ruleHead]

theorem avoids_ruleHead (p : Probe) (plain : IsPlain p) : Avoids ['[', ']', '\\'] (ruleHead p) := by
  have blanks (n : Nat) : Avoids ['[', ']', '\\'] (List.replicate n ' ') :=
    avoids_replicate n (by decide)
  have number : Avoids ['[', ']', '\\'] ('#' :: Text.padEnd 3 (toString p.index).toList) :=
    .cons (by decide) (((isLiteral_digits p.index).avoids.mono (by decide)).append (blanks _))
  have action : Avoids ['[', ']', '\\'] (' ' :: Text.padEnd 16 p.rule.action) :=
    .cons (by decide) ((avoids_word _ plain.action).append (blanks _))
  exact (number.append action).append (by decide)

include reads

/-- A line that is made of plain columns, an escaped pattern and the captures is not refused. -/
theorem isSome_print?_columns (style : Option Style) (u x : Text) (p : Probe) (plain : IsPlain p)
    (indent : Avoids ['[', ']', '\\'] u) (behind : Avoids brackets x) :
    (c.print? (inStyle style (u ++ Trace.ruleColumns c p ++ x))).isSome = true := by
  have printed := reads.escaped style (u ++ ruleHead p) p.rule.pattern x []
    (indent.append (avoids_ruleHead p plain)) behind (by decide)
  rw [List.append_nil, List.append_assoc u, ← ruleColumns_eq] at printed
  exact printed

theorem isSome_print?_captured (style : Option Style) (u : Text) (p : Probe) (plain : IsPlain p)
    (indent : Avoids ['[', ']', '\\'] u) :
    (c.print? (inStyle style (u ++ Trace.capturedColumns c p))).isSome = true := by
  have captures := avoids_capturesText _ plain.captures
  have same : c.escape (Trace.capturesText (p.captures.getD [])) =
      Trace.capturesText (p.captures.getD []) := by
    apply reads.escape_of_avoids _ captures
    rw [Trace.capturesText, List.getLast?_append]
    intro slash
    cases slash
  have blanks : Avoids brackets "  ".toList := by decide
  have printed := isSome_print?_columns c reads style u _ p plain indent (blanks.append captures)
  rw [Trace.capturedColumns, same, List.append_assoc, ← List.append_assoc u]
  exact printed

/-- No entry of plain probes is refused. -/
theorem isSome_print?_entry (e : TraceEntry) (plain : IsPlain e.probe) :
    (c.print? (Trace.entryMarkup c e)).isSome = true := by
  cases e with
  | winner p => exact isSome_print?_captured c reads (some .green) _ p plain (by decide)
  | alsoFits p => exact isSome_print?_captured c reads none _ p plain (by decide)
  | misses p =>
    have printed := isSome_print?_columns c reads (some .dim) "  ".toList [] p plain (by decide)
      (by decide)
    rwa [List.append_nil] at printed

theorem arrow_isPrefixOf_line (p : Probe) (line : Text)
    (printed : c.print? (Trace.entryMarkup c (.winner p)) = some line) : arrow p.index <+: line := by
  have columns : "→ ".toList ++ Trace.capturedColumns c p = arrow p.index ++
      (Text.padEnd 16 p.rule.action ++ ' ' :: c.escape p.rule.pattern ++ "  ".toList ++
        c.escape (Trace.capturesText (p.captures.getD []))) := by
    simp [Trace.capturedColumns, Trace.ruleColumns, arrow]
  apply reads.front (some .green) (arrow p.index) _ line (isLiteral_arrow p.index)
  rw [← columns]
  exact printed

/-- Only the line of a winner begins with the arrow. -/
theorem head?_entry (e : TraceEntry) (line : Text)
    (printed : c.print? (Trace.entryMarkup c e) = some line) :
    line.head? = some '→' ↔ ∃ p, e = .winner p := by
  -- the other lines are indented
  have indented (style : Option Style) (x : Text)
      (printed : c.print? (inStyle style ("  ".toList ++ x)) = some line) :
      line.head? ≠ some '→' := by
    obtain ⟨rest, rfl⟩ := reads.front style "  ".toList x line (by decide) printed
    intro mark
    cases mark
  cases e with
  | winner p =>
    obtain ⟨rest, rfl⟩ := arrow_isPrefixOf_line c reads p line printed
    exact ⟨fun _ => ⟨p, rfl⟩, fun _ => rfl⟩
  | alsoFits p => exact iff_of_false (indented none _ printed) nofun
  | misses p => exact iff_of_false (indented (some .dim) _ printed) nofun

end

/-- The entries are about the probes that they are made of. -/
theorem probe_mem_of_mem_traceEntries (showAll won : Bool) (ps : List Probe) :
    ∀ e ∈ traceEntries showAll won ps, e.probe ∈ ps := by
  induction ps generalizing won with
  | nil => exact List.forall_mem_nil _
  | cons q ps ih =>
    have later (won : Bool) : ∀ e ∈ traceEntries showAll won ps, e.probe ∈ q :: ps :=
      fun e member => List.mem_cons_of_mem q (ih won e member)
    unfold traceEntries
    split
    · refine List.forall_mem_cons.mpr ⟨?_, later true⟩
      cases won <;> exact List.mem_cons_self
    · split
      · exact List.forall_mem_cons.mpr ⟨List.mem_cons_self, later won⟩
      · exact later won

theorem winner_notMem_traceEntries (showAll : Bool) (ps : List Probe) (p : Probe) :
    .winner p ∉ traceEntries showAll true ps := by
  induction ps with
  | nil => exact List.not_mem_nil
  | cons q ps ih =>
    unfold traceEntries
    split
    · -- a later rule that fits is only listed
      simpa using ih
    · split
      · simpa using ih
      · exact ih

/-- The winner is the first rule that fits. -/
theorem winner_mem_traceEntries (showAll : Bool) (ps : List Probe) (p : Probe) :
    .winner p ∈ traceEntries showAll false ps ↔ ps.find? Probe.matched = some p := by
  induction ps with
  | nil => simp [traceEntries]
  | cons q ps ih =>
    unfold traceEntries
    split
    next fits =>
      rw [List.find?_cons_of_pos fits]
      simp [winner_notMem_traceEntries, eq_comm]
    next misses =>
      rw [List.find?_cons_of_neg misses]
      split
      · simpa using ih
      · exact ih

end TextAdventure.CommandLine
