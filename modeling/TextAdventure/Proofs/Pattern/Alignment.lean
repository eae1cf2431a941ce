import TextAdventure.Proofs.Regex.Moves
import TextAdventure.Proofs.Pattern.Expression
import TextAdventure.Proofs.Rulebook.Binding
import TextAdventure.Proofs.Text.Trim

/-!
Where captures stand in a text, whatever its blanks are and however the words of the pattern are
spelled. The layout of a pattern puts blanks around each capture, so a captured phrase begins where
the text or a word begins, ends where a word ends, and is separated from the next one
(`Rule.spans?_aligned`). A captured phrase begins and ends with characters of names, which is why
trimming it changes nothing.

The search may leave out blanks, take several or go back over them. The argument therefore follows
moves between cursors: one lemma for what an element records, one for the layout behind the first
required element and one for the layout in front of it.
-/
namespace TextAdventure

open Text Regex Cursor

/-! ### Phrases of names -/

/-- Whether the text is made of names with blanks between them. -/
structure IsNamePhrase (u : Text) : Prop where
  first : ∃ e ∈ u.head?, isNameChar e = true
  last : ∃ e ∈ u.getLast?, isNameChar e = true
  chars : ∀ e ∈ u, isNameChar e = true ∨ isBlank e = true

theorem isBlank_of_isNameChar (c : Char) (inName : isNameChar c = true) : isBlank c = false := by
  simp only [isNameChar, Bool.or_eq_true, beq_iff_eq] at inName
  rcases inName with (inWord | rfl) | rfl
  · exact isBlank_of_isWordChar c inWord
  · decide
  · decide

theorem isNamePhrase_of_stretch (u : Text) (name : IsStretch isNameChar u) : IsNamePhrase u := by
  obtain ⟨nonempty, all⟩ := name
  refine ⟨?_, ?_, fun e member => .inl (all e member)⟩
  · exact ⟨u.head nonempty, List.head?_eq_some_head nonempty, all _ (List.head_mem nonempty)⟩
  · exact ⟨u.getLast nonempty, List.getLast?_eq_some_getLast nonempty,
      all _ (List.getLast_mem nonempty)⟩

theorem IsNamePhrase.append {u b v : Text} (front : IsNamePhrase u) (blanks : IsStretch isBlank b)
    (behind : IsNamePhrase v) : IsNamePhrase (u ++ b ++ v) := by
  obtain ⟨first, opens, named⟩ := front.first
  obtain ⟨last, closes, named'⟩ := behind.last
  refine ⟨⟨first, ?_, named⟩, ⟨last, ?_, named'⟩, ?_⟩
  · rw [List.append_assoc, List.head?_append, Option.mem_def.mp opens]
    rfl
  · rw [List.getLast?_append, Option.mem_def.mp closes]
    rfl
  · intro e member
    rcases List.mem_append.mp member with earlier | later
    · rcases List.mem_append.mp earlier with inFront | between
      · exact front.chars e inFront
      · exact .inr (blanks.2 e between)
    · exact behind.chars e later

theorem IsNamePhrase.isTrimmed {u : Text} (phrase : IsNamePhrase u) : IsTrimmed u := by
  obtain ⟨first, opens, named⟩ := phrase.first
  obtain ⟨last, closes, named'⟩ := phrase.last
  obtain ⟨v, start⟩ := List.head?_eq_some_iff.mp opens
  obtain ⟨v', stop⟩ := List.getLast?_eq_some_iff.mp closes
  exact ⟨⟨first, v, start, isBlank_of_isNameChar first named⟩,
    ⟨v', last, stop, isBlank_of_isNameChar last named'⟩⟩

namespace Regex

theorem reads_of_moves_nameExcept (excluded : List Text) (c d : Cursor)
    (moves : Moves (nameExcept excluded) c d) : Reads (IsStretch isNameChar) c d := by
  unfold nameExcept at moves
  split at moves
  · exact moves
  · obtain ⟨e, ⟨-, rfl⟩, reads⟩ := moves
    exact reads

/-- A name and repeated further ones read a phrase. -/
theorem reads_of_moves_names (excluded : List Text) (c d : Cursor)
    (moves : Moves (cat (nameExcept excluded) (lazyMany (cat blanks (nameExcept excluded)))) c d) :
    Reads IsNamePhrase c d := by
  obtain ⟨e, first, further⟩ := moves
  induction further with
  | refl => exact (reads_of_moves_nameExcept excluded c e first).mono isNamePhrase_of_stretch
  | tail _ step before =>
    obtain ⟨u, phrase, passes, same⟩ := before
    obtain ⟨m, ⟨b, gap, passes', same'⟩, name⟩ := step
    obtain ⟨v, stretch, passes'', same''⟩ := reads_of_moves_nameExcept excluded _ _ name
    refine ⟨u ++ b ++ v, ?_, (passes.trans passes').trans passes'', ?_⟩
    · exact phrase.append gap (isNamePhrase_of_stretch v stretch)
    · rw [same'', same', same]

end Regex

/-! ### Spans of a text -/

/-- Where a search of a text begins. -/
def Cursor.start (t : Text) : Cursor := ⟨t, 0, []⟩

theorem Cursor.Passes.slices {t b u : Text} {c d : Cursor} (front : Passes b (start t) c)
    (read : Passes u c d) :
    t.take c.position = b ∧ Span.slice ⟨c.position, d.position⟩ t = u ∧
      t.drop d.position = d.rest := by
  have whole : t = b ++ (u ++ d.rest) := by rw [← read.rest_eq, ← front.rest_eq]; rfl
  have opens : c.position = b.length := by rw [front.position_eq]; exact Nat.zero_add _
  have closes : d.position = b.length + u.length := by rw [read.position_eq, opens]
  rw [Span.slice, opens, closes, whole]
  refine ⟨List.take_left, ?_, ?_⟩
  · rw [List.drop_left, Nat.add_sub_cancel_left, List.take_left]
  · rw [← List.append_assoc, ← List.length_append, List.drop_left]

/-- Whether the span takes a phrase of names with nothing but blanks, or nothing at all, right
before it and right behind it. -/
structure Span.IsAligned (t : Text) (s : Span) : Prop where
  start_lt_stop : s.start < s.stop
  stop_le_length : s.stop ≤ t.length
  opens : ∀ e ∈ (t.take s.start).getLast?, isBlank e = true
  closes : ∀ e ∈ (t.drop s.stop).head?, isBlank e = true
  phrase : IsNamePhrase (s.slice t)

theorem Cursor.Passes.isAligned {t b u : Text} {c d : Cursor} (front : Passes b (start t) c)
    (read : Passes u c d) (phrase : IsNamePhrase u)
    (opens : ∀ e ∈ b.getLast?, isBlank e = true) (closes : ∀ e ∈ d.rest.head?, isBlank e = true) :
    Span.IsAligned t ⟨c.position, d.position⟩ := by
  obtain ⟨before, taken, behind⟩ := front.slices read
  have nonempty : 0 < u.length := List.length_pos_iff.mpr phrase.isTrimmed.ne_nil
  have length : t.length = (b ++ u ++ d.rest).length :=
    congrArg List.length (front.trans read).rest_eq
  have opened := front.position_eq
  have closed := read.position_eq
  simp only [start, List.length_append] at opened length
  constructor
  · show c.position < d.position
    omega
  · show d.position ≤ t.length
    omega
  · rw [before]
    exact opens
  · rw [behind]
    exact closes
  · rw [taken]
    exact phrase

/-- Aligned spans from an offset on, with something between any two. -/
def IsSpanRow (t : Text) : Nat → List Span → Prop
  | _, [] => True
  | n, s :: spans => n ≤ s.start ∧ s.IsAligned t ∧ IsSpanRow t (s.stop + 1) spans

theorem IsSpanRow.mono {t : Text} {spans : List Span} {m n : Nat} (row : IsSpanRow t n spans)
    (le : m ≤ n) : IsSpanRow t m spans := by
  cases spans with
  | nil => trivial
  | cons s spans =>
    obtain ⟨starts, rest⟩ := row
    exact ⟨Nat.le_trans le starts, rest⟩

theorem IsSpanRow.forall_mem {t : Text} {spans : List Span} {n : Nat} (row : IsSpanRow t n spans) :
    ∀ s ∈ spans, n ≤ s.start ∧ s.IsAligned t := by
  induction spans generalizing n with
  | nil => exact List.forall_mem_nil _
  | cons s spans ih =>
    obtain ⟨starts, aligned, rest⟩ := row
    have further := starts.trans aligned.start_lt_stop.le
    exact List.forall_mem_cons.mpr ⟨⟨starts, aligned⟩, ih (rest.mono (by omega))⟩

theorem IsSpanRow.pairwise {t : Text} {spans : List Span} {n : Nat} (row : IsSpanRow t n spans) :
    spans.Pairwise fun s s' => s.stop < s'.start := by
  induction spans generalizing n with
  | nil => exact .nil
  | cons s spans ih =>
    obtain ⟨-, -, rest⟩ := row
    exact .cons (fun s' member => (rest.forall_mem s' member).1) (ih rest)

/-! ### What elements record -/

/-- Whether what is captured between two cursors is a row of one span for each slot. -/
def Records (t : Text) (es : List Element) (n : Nat) (c d : Cursor) : Prop :=
  ∃ spans, IsSpanRow t n spans ∧ spans.length = (slotNames es).length ∧
    d.captured = spans.reverse ++ c.captured

section

variable {t b : Text} {e : Element} {es : List Element} {n : Nat} {c m d : Cursor}

theorem records_nil (t : Text) (n : Nat) (c : Cursor) : Records t [] n c c :=
  ⟨[], trivial, rfl, rfl⟩

/-- What is read before the first capture may be more than was asked for. -/
theorem Records.mono {m n : Nat} {k : Cursor} (records : Records t es n k d) (le : m ≤ n)
    (same : k.captured = c.captured) : Records t es m c d := by
  obtain ⟨spans, row, length, captured⟩ := records
  exact ⟨spans, row.mono le, length, by rw [captured, same]⟩

theorem Records.cons_free (records : Records t es n c d) (free : slotNames [e] = []) :
    Records t (e :: es) n c d := by
  obtain ⟨spans, row, length, captured⟩ := records
  exact ⟨spans, row, by rw [length, slotNames_cons, free, List.nil_append], captured⟩

theorem slotNames_of_free (e : Element) (free : e.isRequired = false) : slotNames [e] = [] := by
  cases e with
  | capture name => cases free
  | choice | optional | wildcard => rfl

variable (spell : Text → Text) (before : List Element)

/-- An element with blanks around it adds its own span to those of the elements behind it. -/
theorem Records.cons (stands : Passes b (start t) c)
    (opens : ∀ x ∈ b.getLast?, isBlank x = true) (closes : ∀ x ∈ m.rest.head?, isBlank x = true)
    (moves : Moves (e.regex spell before) c m) (records : Records t es (m.position + 1) m d) :
    Records t (e :: es) c.position c d := by
  -- an element without a slot records nothing, so those behind it record all
  have plain (free : slotNames [e] = []) : Records t (e :: es) c.position c d := by
    have groups : (e.regex spell before).groups = 0 := by rw [e.groups_regex, free]; rfl
    obtain ⟨u, read⟩ := exists_passes_of_moves _ c m moves
    have le : c.position ≤ m.position + 1 := by rw [read.position_eq]; omega
    exact (records.mono le (captured_of_moves _ groups c m moves)).cons_free free
  cases e with
  | choice | optional | wildcard => exact plain rfl
  | capture name =>
    obtain ⟨spans, row, length, captured⟩ := records
    obtain ⟨k, inside, rfl⟩ := moves
    obtain ⟨u, phrase, read, same⟩ := reads_of_moves_names _ c k inside
    have aligned := stands.isAligned read phrase opens closes
    refine ⟨⟨c.position, k.position⟩ :: spans, ⟨le_rfl, aligned, row⟩, ?_, ?_⟩
    · rw [slotNames_cons, List.length_append, ← length]
      exact Nat.add_comm ..
    · rw [captured, same, List.reverse_cons, List.append_assoc]
      rfl

/-- The same with the blanks that stand in front of an element behind a word. -/
theorem Records.cons_behind (stands : Passes b (start t) c)
    (moves : Moves (cat blanks (e.regex spell before)) c m)
    (closes : ∀ x ∈ m.rest.head?, isBlank x = true) (records : Records t es (m.position + 1) m d) :
    (∀ x ∈ c.rest.head?, isBlank x = true) ∧ Records t (e :: es) (c.position + 1) c d := by
  obtain ⟨k, ⟨u, ⟨nonempty, blank⟩, gap, same⟩, body⟩ := moves
  have opens : ∀ x ∈ (b ++ u).getLast?, isBlank x = true := by
    rw [List.getLast?_append_of_ne_nil b nonempty]
    exact fun x last => blank x (List.mem_of_getLast? last)
  have length : 0 < u.length := List.length_pos_iff.mpr nonempty
  have le : c.position + 1 ≤ k.position := by rw [gap.position_eq]; omega
  constructor
  · rw [gap.rest_eq, List.head?_append_of_ne_nil u nonempty]
    exact fun x first => blank x (List.mem_of_head? first)
  · exact (Records.cons spell before (stands.trans gap) opens closes body records).mono le same

/-! ### Layouts -/

/-- Behind the first required element the layout goes on at a blank or at the end of the text. -/
theorem records_behind (begun : before.any Element.isRequired = true)
    (stands : Passes b (start t) c) (moves : Moves (layout spell before es) c d)
    (finished : d.rest = []) :
    (∀ x ∈ c.rest.head?, isBlank x = true) ∧ Records t es (c.position + 1) c d := by
  -- the blanks in front of the elements to come are what closes the span before them
  induction es generalizing before b c with
  | nil =>
    obtain rfl := moves
    exact ⟨by simp [finished], records_nil t _ d⟩
  | cons e es ih =>
    rw [layout_behind spell before e es begun] at moves
    obtain ⟨m, piece, further⟩ := moves
    obtain ⟨u, read⟩ := exists_passes_of_moves _ c m piece
    obtain ⟨closes, records⟩ := ih (e :: before) (by simp [begun]) (stands.trans read) further
    split at piece
    · exact records.cons_behind spell before stands piece closes
    next free =>
      rcases piece with led | rfl
      · exact records.cons_behind spell before stands led closes
      · exact ⟨closes, records.cons_free (slotNames_of_free e (eq_false_of_ne_true free))⟩

/-- Up to the first required element the layout goes on where a word may begin. -/
theorem records_ahead (fresh : before.any Element.isRequired = false)
    (stands : Passes b (start t) c) (opens : ∀ x ∈ b.getLast?, isBlank x = true)
    (moves : Moves (layout spell before es) c d) (finished : d.rest = []) :
    Records t es c.position c d := by
  induction es generalizing before b c with
  | nil =>
    obtain rfl := moves
    exact records_nil t _ d
  | cons e es ih =>
    rw [layout_ahead spell before e es fresh] at moves
    obtain ⟨m, piece, further⟩ := moves
    cases head : e.isRequired with
    | true =>
      rw [head, if_pos rfl] at piece
      -- the first required element has no blanks of its own
      obtain ⟨u, read⟩ := exists_passes_of_moves _ c m piece
      obtain ⟨closes, records⟩ :=
        records_behind spell (e :: before) (by simp [head]) (stands.trans read) further finished
      exact records.cons spell before stands opens closes piece
    | false =>
      have free := slotNames_of_free e head
      have fresh' : (e :: before).any Element.isRequired = false := by simp [head, fresh]
      rw [head, if_neg (by decide)] at piece
      rcases piece with ⟨k, body, v, ⟨nonempty, blank⟩, gap, same⟩ | rfl
      · -- optional text was taken with the blanks behind it, so a word may begin again
        obtain ⟨u, read⟩ := exists_passes_of_moves _ c k body
        have groups : (e.regex spell before).groups = 0 := by rw [e.groups_regex, free]; rfl
        have captured := captured_of_moves _ groups c k body
        have opens' : ∀ x ∈ (b ++ u ++ v).getLast?, isBlank x = true := by
          rw [List.getLast?_append_of_ne_nil _ nonempty]
          exact fun x last => blank x (List.mem_of_getLast? last)
        have records := ih (e :: before) fresh' ((stands.trans read).trans gap) opens' further
        have le : c.position ≤ m.position := by rw [gap.position_eq, read.position_eq]; omega
        exact (records.mono le (same.trans captured)).cons_free free
      · exact (ih (e :: before) fresh' stands opens further).cons_free free

end

/-! ### Rules -/

/-- Whether the spans stand under the names of slots, each aligned and each ending before the next
one starts. -/
structure AreAligned (slots : List Text) (t : Text) (spans : List (Text × Span)) : Prop where
  names_eq : spans.map Prod.fst = slots
  aligned : ∀ s ∈ spans, s.2.IsAligned t
  apart : (spans.map Prod.snd).Pairwise fun s s' => s.stop < s'.start

namespace Rule

/-- The text of each span as it stands, untrimmed. -/
def slicesAt (t : Text) (spans : List (Text × Span)) : List (Text × Text) :=
  spans.map fun s => (s.1, s.2.slice t)

theorem phrasesAt_of_aligned (t : Text) (spans : List (Text × Span))
    (aligned : ∀ s ∈ spans, s.2.IsAligned t) : phrasesAt t spans = slicesAt t spans := by
  apply List.map_congr_left
  intro s member
  rw [(aligned s member).phrase.isTrimmed.trim_eq]

/-- A search of the whole text finds a row of spans, one for each slot. -/
theorem areAligned_of_spans? (spell : Text → Text) (r : Rule)
    (bound : r.regex = r.pattern.regex spell) (t : Text) (spans : List (Text × Span))
    (fits : r.spans? t = some spans) : AreAligned r.pattern.slots t spans := by
  obtain ⟨found, matched, rfl⟩ := Option.map_eq_some_iff.mp fits
  obtain ⟨answer, searched, rfl⟩ := Option.map_eq_some_iff.mp matched
  obtain ⟨d, moves, ends⟩ := exists_moves_of_run _ _ _ answer searched
  have finished : d.rest = [] ∧ d = answer := by simpa [atEnd] using ends
  obtain ⟨finished, rfl⟩ := finished
  rw [bound] at moves
  have stands : Passes [] (start t) (start t) := ⟨rfl, rfl⟩
  obtain ⟨row, aligned, length, captured⟩ := records_ahead spell [] rfl stands
    (by simp) moves finished
  have found : d.captured.reverse = row := by
    rw [captured, List.reverse_append, List.reverse_reverse]
    rfl
  -- the row is as long as the list of slots, so zipping leaves out neither spans nor names
  have counted : row.length = r.pattern.slots.length := length
  rw [found]
  constructor
  · exact List.map_fst_zip counted.ge
  · exact fun s member => (aligned.forall_mem s.2 (List.of_mem_zip member).2).2
  · rw [List.map_snd_zip counted.le]
    exact aligned.pairwise

/-- What a rule takes from any text stands free in it, slot by slot. The phrases of the rule, alone
or in a rulebook, are therefore the spans as they stand. -/
theorem spans?_aligned (spell : Text → Text) (source : RuleSource) (r : Rule)
    (compiled : Rule.compile spell source = .ok r) (t : Text) (spans : List (Text × Span))
    (fits : r.spans? t = some spans) :
    AreAligned r.pattern.slots t spans ∧ r.captures? t = some (slicesAt t spans) ∧
      ∀ (b : Rulebook) (accept : Found → Bool) (f : Found), b.find? t accept = some f →
        f.rule = r → f.spans = spans ∧ f.captures = slicesAt t spans := by
  obtain ⟨-, -, bound⟩ := (Rule.compile_eq_ok spell source r).mp compiled
  have aligned := areAligned_of_spans? spell r bound t spans fits
  have raw := phrasesAt_of_aligned t spans aligned.aligned
  refine ⟨aligned, ?_, ?_⟩
  · rw [captures?, fits, Option.map_some, raw]
  · rintro b accept f found rfl
    obtain ⟨-, taken, captures, -⟩ := b.find?_spec t accept f found
    obtain rfl : f.spans = spans := Option.some.inj (taken.symm.trans fits)
    exact ⟨rfl, captures.trans raw⟩

end Rule

/-- A spelling with brackets and a blank in one of its words. -/
def bracketed (w : Text) : Text := if w = "into".toList then "(in to)".toList else w

/-- Line feeds and runs of blanks stay inside the captures and are left out around them. -/
theorem stow_aligned :
    ∃ r, Rule.compile bracketed ⟨"* put <item> into/in <place>".toList, "STOW".toList⟩ = .ok r ∧
      r.spans? "Now\tput  the\n lamp   (IN TO) the\u00a0box".toList =
        some [("item".toList, ⟨9, 18⟩), ("place".toList, ⟨29, 36⟩)] ∧
      AreAligned r.pattern.slots "Now\tput  the\n lamp   (IN TO) the\u00a0box".toList
        [("item".toList, ⟨9, 18⟩), ("place".toList, ⟨29, 36⟩)] ∧
      r.captures? "Now\tput  the\n lamp   (IN TO) the\u00a0box".toList =
        some [("item".toList, "the\n lamp".toList), ("place".toList, "the\u00a0box".toList)] := by
  have compiled : (Rule.compile bracketed ⟨"* put <item> into/in <place>".toList,
      "STOW".toList⟩).map (fun r => r.spans? "Now\tput  the\n lamp   (IN TO) the\u00a0box".toList) =
        .ok (some [("item".toList, ⟨9, 18⟩), ("place".toList, ⟨29, 36⟩)]) := by decide +kernel
  obtain ⟨r, read, fits⟩ := (map_eq_ok _ _ _).mp compiled
  obtain ⟨aligned, captures, -⟩ := r.spans?_aligned _ _ read _ _ fits
  exact ⟨r, read, fits, aligned, captures.trans (by decide +kernel)⟩

end TextAdventure
