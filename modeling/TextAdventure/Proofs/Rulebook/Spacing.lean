import TextAdventure.Proofs.Regex.Spacing

/-!
Matching does not depend on spacing. The layout of a pattern without wildcards is searched in
lockstep in a text and in the squeezed text: everything between the blanks of the layout is made of
words and names, and behind blanks there is always a word to come. So a rule fits a text just when
it fits the words of the text, joined by single spaces, and takes the same phrases up to spacing
(`Rule.captures?_unwords_words`). A wildcard would read blanks one by one and may stop among them.
-/
namespace TextAdventure

open Text Regex

section

variable {t : Text} (spell : Text → Text)

/-! ### Elements -/

theorem isSteady_choice (c : Choice) (words : ∀ w ∈ c.words, IsWord (spell w)) :
    IsSteady t (c.regex spell) := by
  have proper : ∀ w ∈ (c.words.map spell).eraseDups, IsWord w := by
    intro w member
    obtain ⟨v, named, rfl⟩ := List.mem_map.mp (List.mem_eraseDups.mp member)
    exact words v named
  unfold Choice.regex
  split
  next w single =>
    rw [single] at proper
    exact isSteady_literal w (proper w (List.mem_singleton_self w))
  · exact isSteady_oneOf _ proper

theorem isSteady_element (before : List Element) (e : Element)
    (words : ∀ w ∈ e.words, IsWord (spell w))
    (excluded : ∀ w ∈ excludedWords before, IsWord (spell w)) (tame : e ≠ .wildcard) :
    IsSteady t (e.regex spell before) := by
  cases e with
  | choice c => exact isSteady_choice spell c words
  | optional c cs =>
    refine isSteady_spaced _ (List.cons_ne_nil _ _) fun r member => ?_
    obtain ⟨d, inPhrase, rfl⟩ := List.mem_map.mp member
    exact isSteady_choice spell d fun w named =>
      words w (List.mem_flatMap.mpr ⟨d, inPhrase, named⟩)
  | capture name =>
    refine isSteady_phrase _ fun w member => ?_
    obtain ⟨v, listed, rfl⟩ := List.mem_map.mp member
    exact excluded v listed
  | wildcard => exact absurd rfl tame

/-! ### Layouts -/

theorem isBlind_layout (before es : List Element) (begun : before.any Element.isRequired = true)
    (spelledBefore : SpelledAsWords spell before) (spelled : SpelledAsWords spell es)
    (tame : ∀ e ∈ es, e ≠ .wildcard) : IsBlind t 0 (layout spell before es) := by
  induction es generalizing before with
  | nil => exact isBlind_empty
  | cons e es ih =>
    obtain ⟨words, spelled⟩ := List.forall_mem_cons.mp spelled
    obtain ⟨different, tame⟩ := List.forall_mem_cons.mp tame
    have body := isSteady_element (t := t) spell before e words spelledBefore.excluded
      different
    have rest := ih (e :: before) (by simp [begun]) (.cons words spelledBefore) spelled tame
    -- the element brings the blanks in front of it, which are left out together with it
    have taken := (body.blind.blanks_cat body.solid).cat rest
    rw [layout_behind spell before e es begun]
    split
    · exact taken.mono (Nat.zero_le _)
    · exact (taken.mono (Nat.zero_le _)).opt_cat rest

/-- Up to the first required element a word is to come. -/
theorem isSteady_layout (before es : List Element) (fresh : before.any Element.isRequired = false)
    (required : es.any Element.isRequired = true) (spelledBefore : SpelledAsWords spell before)
    (spelled : SpelledAsWords spell es) (tame : ∀ e ∈ es, e ≠ .wildcard) :
    IsSteady t (layout spell before es) := by
  induction es generalizing before with
  | nil => cases required
  | cons e es ih =>
    obtain ⟨words, spelled⟩ := List.forall_mem_cons.mp spelled
    obtain ⟨different, tame⟩ := List.forall_mem_cons.mp tame
    have body := isSteady_element (t := t) spell before e words spelledBefore.excluded
      different
    rw [layout_ahead spell before e es fresh]
    split
    next head =>
      have rest := isBlind_layout (t := t) spell (e :: before) es (by simp [head])
        (.cons words spelledBefore) spelled tame
      exact ⟨body.blind.cat rest, body.solid.cat⟩
    next free =>
      -- the element brings the blanks behind it, and the word that must come follows them
      have rest := ih (e :: before) (by simp [free, fresh]) (by simpa [free] using required)
        (.cons words spelledBefore) spelled tame
      have taken := (body.blind.cat (rest.blind.blanks_cat rest.solid)).cat_assoc
      exact ⟨(taken.mono (Nat.zero_le _)).opt_cat rest.blind,
        body.solid.cat.cat.opt_cat rest.solid⟩

/-! ### Spans -/

theorem Span.slice_append_drop (t : Text) (s : Span) (le : s.start ≤ s.stop) :
    s.slice t ++ t.drop s.stop = t.drop s.start := by
  have behind : t.drop s.stop = (t.drop s.start).drop (s.stop - s.start) := by
    rw [List.drop_drop, Nat.add_sub_cancel' le]
  rw [behind, Span.slice, List.take_append_drop]

/-- Corresponding spans of names take the same text up to spacing. -/
theorem Span.Corresponds.slice_eq {s s' : Span} (alike : s.Corresponds t s')
    (aligned : s.IsAligned t) (aligned' : s'.IsAligned (squeeze t)) :
    s'.slice (squeeze t) = squeeze (s.slice t) := by
  obtain ⟨v, c, stop, solid⟩ := aligned.phrase.isTrimmed.last
  refine (List.append_left_inj ((squeeze t).drop s'.stop)).mp ?_
  calc s'.slice (squeeze t) ++ (squeeze t).drop s'.stop
      = squeeze (t.drop s.start) := by
        rw [slice_append_drop _ s' aligned'.start_lt_stop.le, alike.start_eq]
    _ = squeeze (s.slice t ++ t.drop s.stop) := by
        rw [slice_append_drop t s aligned.start_lt_stop.le]
    _ = squeeze (s.slice t) ++ (squeeze t).drop s'.stop := by
        rw [stop, squeeze_append v _ c solid, alike.stop_eq]

end

/-! ### Rules -/

namespace Rule

theorem slicesAt_squeeze (t : Text) (slots : List Text) (spans spans' : List Span)
    (alike : List.Forall₂ (Span.Corresponds t) spans spans')
    (aligned : ∀ s ∈ slots.zip spans, s.2.IsAligned t)
    (aligned' : ∀ s ∈ slots.zip spans', s.2.IsAligned (squeeze t)) :
    slicesAt (squeeze t) (slots.zip spans') =
      (slicesAt t (slots.zip spans)).map fun c => (c.1, squeeze c.2) := by
  induction alike generalizing slots with
  | nil => cases slots <;> rfl
  | cons first _ ih =>
    cases slots with
    | nil => rfl
    | cons name slots =>
      obtain ⟨head, later⟩ := List.forall_mem_cons.mp aligned
      obtain ⟨head', later'⟩ := List.forall_mem_cons.mp aligned'
      exact congrArg₂ List.cons (congrArg (Prod.mk name) (first.slice_eq head head'))
        (ih slots later later')

/-- The search of the squeezed text ends where that of the text does. -/
theorem endsAlike_run_regex (spell : Text → Text) (r : Rule)
    (bound : r.regex = r.pattern.regex spell) (spelled : SpelledAsWords spell r.pattern.elements)
    (tame : ∀ e ∈ r.pattern.elements, e ≠ .wildcard) (t : Text) :
    EndsAlike t (run r.regex (.start t) atEnd) (run r.regex (.start (squeeze t)) atEnd) := by
  rw [bound]
  have steady := isSteady_layout (t := t) spell [] r.pattern.elements rfl r.pattern.has_required
    (List.forall_mem_nil _) spelled tame
  refine steady.blind _ _ _ _ ⟨rfl, rfl, rfl, .nil⟩ fun c d alike _ _ => ?_
  have ends : d.rest.isEmpty = c.rest.isEmpty := by
    rw [← alike.squeezed, Bool.eq_iff_iff, List.isEmpty_iff, List.isEmpty_iff, squeeze_eq_nil_iff]
  rw [atEnd, atEnd, ends]
  split
  · exact .some alike
  · exact .none

/-- A rule takes from the squeezed text what it takes from the text. -/
theorem captures?_squeeze (spell : Text → Text) (r : Rule) (bound : r.regex = r.pattern.regex spell)
    (spelled : SpelledAsWords spell r.pattern.elements)
    (tame : ∀ e ∈ r.pattern.elements, e ≠ .wildcard) (t : Text) :
    r.captures? (squeeze t) = (r.captures? t).map (List.map fun c => (c.1, squeeze c.2)) := by
  have ends := r.endsAlike_run_regex spell bound spelled tame t
  have spans (u : Text) : r.spans? u = (run r.regex (.start u) atEnd).map fun c =>
      r.pattern.slots.zip c.captured.reverse := Option.map_map ..
  have fits := spans t
  have fits' := spans (squeeze t)
  generalize run r.regex (.start t) atEnd = a at ends fits
  generalize run r.regex (.start (squeeze t)) atEnd = b at ends fits'
  cases ends with
  | none => rw [captures?, captures?, fits, fits']; rfl
  | @some c d alike =>
    rw [Option.map_some] at fits fits'
    -- phrases of names are not trimmed any further, in neither text
    have aligned := (areAligned_of_spans? spell r bound t _ fits).aligned
    have aligned' := (areAligned_of_spans? spell r bound _ _ fits').aligned
    rw [captures?, captures?, fits, fits', Option.map_some, Option.map_some, Option.map_some,
      phrasesAt_of_aligned _ _ aligned, phrasesAt_of_aligned _ _ aligned']
    exact congrArg some (slicesAt_squeeze t _ _ _ (List.forall₂_reverse_iff.mpr alike.captured)
      aligned aligned')

/-- A rule without wildcards fits a text just when it fits the words of the text, joined by single
spaces, and then it takes the same phrases up to spacing. -/
theorem captures?_unwords_words (spell : Text → Text) (source : RuleSource) (r : Rule)
    (compiled : Rule.compile spell source = .ok r)
    (spelled : SpelledAsWords spell r.pattern.elements) (tame : .wildcard ∉ r.pattern.elements)
    (t : Text) (trimmed : trim t = t) :
    r.captures? (unwords (words t)) =
      (r.captures? t).map (List.map fun c => (c.1, squeeze c.2)) := by
  obtain ⟨-, -, bound⟩ := (Rule.compile_eq_ok spell source r).mp compiled
  rw [← squeeze_eq_unwords t trimmed]
  exact r.captures?_squeeze spell bound spelled (fun e member same => tame (same ▸ member)) t

end Rule

/-- Wide spaces, tabs and line feeds, also inside a capture and around optional text left out. -/
theorem drop_spaced :
    ∃ r, Rule.compile id ⟨"[please] drop <item> [right] into/in [the] <place>".toList,
        "DROP".toList⟩ = .ok r ∧
      r.captures? "drop\u2003the \n\t old\u00a0lamp  in\u3000 \x1cthe\tbox".toList =
        some [("item".toList, "the \n\t old\u00a0lamp".toList), ("place".toList, "box".toList)] ∧
      r.captures? "drop the old lamp in the box".toList =
        some [("item".toList, "the old lamp".toList), ("place".toList, "box".toList)] := by
  have compiled : (Rule.compile id ⟨"[please] drop <item> [right] into/in [the] <place>".toList,
      "DROP".toList⟩).map (fun r => (r.pattern.elements,
        r.captures? "drop\u2003the \n\t old\u00a0lamp  in\u3000 \x1cthe\tbox".toList)) =
      .ok ([.optional ⟨"please".toList, []⟩ [], .choice ⟨"drop".toList, []⟩,
        .capture "item".toList, .optional ⟨"right".toList, []⟩ [],
        .choice ⟨"into".toList, ["in".toList]⟩, .optional ⟨"the".toList, []⟩ [],
        .capture "place".toList],
        some [("item".toList, "the \n\t old\u00a0lamp".toList),
          ("place".toList, "box".toList)]) := by decide +kernel
  obtain ⟨r, read, both⟩ := (map_eq_ok _ _ _).mp compiled
  obtain ⟨shape, captured⟩ := Prod.mk.inj both
  have spelled : SpelledAsWords id r.pattern.elements := by
    rw [shape]
    decide +kernel
  refine ⟨r, read, captured, ?_⟩
  have same := r.captures?_unwords_words id _ read spelled (by rw [shape]; decide)
    "drop\u2003the \n\t old\u00a0lamp  in\u3000 \x1cthe\tbox".toList (by decide +kernel)
  rw [captured] at same
  exact Eq.trans (congrArg r.captures? (by decide +kernel)) (same.trans (by decide +kernel))

end TextAdventure
