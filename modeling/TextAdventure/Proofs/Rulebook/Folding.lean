import TextAdventure.Proofs.Pattern.Spelling
import TextAdventure.Proofs.Rulebook.Phrases
import TextAdventure.Proofs.Text.SingleFolding

/-!
Matching a text and matching it folded. A pattern asks two things of a word: whether it is made of
the characters of names, and whether it equals one of the pattern's own words. Words that are
changed without changing either answer are shared out as before (`readings_map`), so a rule captures
from the folded text what it captures from the text, folded (`Rule.captures?_casefold`). Folding
keeps both answers wherever every character folds to a single one, the combining iota apart. Where
a character folds to several, or the iota to a letter, a phrase may be lost or change hands.
-/
namespace TextAdventure

open Text (IsWord unwords casefold)

/-- Whether the elements answer alike about two words. -/
structure TakenAlike (spell : Text → Text) (es : List Element) (u v : Text) : Prop where
  names : (∀ d ∈ v, isNameChar d = true) ↔ ∀ d ∈ u, isNameChar d = true
  words : ∀ e ∈ es, ∀ w ∈ e.words, Text.sameLetters (spell w) v = Text.sameLetters (spell w) u

instance (spell : Text → Text) (es : List Element) (u v : Text) :
    Decidable (TakenAlike spell es u v) :=
  decidable_of_iff
    ((v.all isNameChar = true ↔ u.all isNameChar = true) ∧
      (es.all fun e => e.words.all fun w =>
        Text.sameLetters (spell w) v == Text.sameLetters (spell w) u) = true)
    (by
      simp only [List.all_eq_true, beq_iff_eq]
      exact ⟨fun both => ⟨both.1, both.2⟩, fun alike => ⟨alike.names, alike.words⟩⟩)

theorem TakenAlike.mono {spell : Text → Text} {es es' : List Element} {u v : Text}
    (alike : TakenAlike spell es u v) (subset : es' ⊆ es) : TakenAlike spell es' u v :=
  ⟨alike.names, fun e member => alike.words e (subset member)⟩

/-! ### Changing words -/

theorem takeWhile_congr {α : Type} (p q : α → Bool) (xs : List α)
    (same : ∀ x ∈ xs, p x = q x) : xs.takeWhile p = xs.takeWhile q := by
  induction xs with
  | nil => rfl
  | cons x xs ih =>
    obtain ⟨first, later⟩ := List.forall_mem_cons.mp same
    rw [List.takeWhile_cons, List.takeWhile_cons, first, ih later]

section

variable (spell f : Text → Text)

theorem Choice.accepts_congr (c : Choice) (u v : Text)
    (same : ∀ w ∈ c.words, Text.sameLetters (spell w) v = Text.sameLetters (spell w) u) :
    c.accepts spell v = c.accepts spell u := by
  rw [Bool.eq_iff_iff, accepts_iff, accepts_iff]
  exact exists_congr fun w => and_congr_right fun named => by rw [same w named]

theorem acceptsAll_map (cs : List Choice) (us : List Text)
    (same : ∀ c ∈ cs, ∀ u ∈ us, c.accepts spell (f u) = c.accepts spell u) :
    acceptsAll spell cs (us.map f) = acceptsAll spell cs us := by
  induction cs generalizing us with
  | nil => rfl
  | cons c cs ih =>
    cases us with
    | nil => rfl
    | cons u us =>
      have first := same c List.mem_cons_self u List.mem_cons_self
      have later := ih us fun d member v inside =>
        same d (List.mem_cons_of_mem c member) v (List.mem_cons_of_mem u inside)
      rw [List.map_cons, acceptsAll, acceptsAll, first, later]

theorem admits_congr (before : List Element) (u v : Text) (alike : TakenAlike spell before u v) :
    Regex.admits ((excludedWords before).map spell) v =
      Regex.admits ((excludedWords before).map spell) u := by
  rw [Bool.eq_iff_iff, admits_iff, admits_iff, alike.names]
  refine and_congr_right fun _ => forall₂_congr fun w excluded => ?_
  obtain ⟨e, member, named⟩ := mem_excludedWords before w excluded
  rw [alike.words e member w named]

theorem Element.takes_map (before : List Element) (e : Element) (us : List Text)
    (alike : ∀ u ∈ us, TakenAlike spell (e :: before) u (f u)) :
    e.takes spell before (us.map f) = e.takes spell before us := by
  cases e with
  | choice c =>
    cases us with
    | nil => rfl
    | cons u us =>
      have own := (alike u List.mem_cons_self).words _ List.mem_cons_self
      rw [List.map_cons, takes, takes, c.accepts_congr spell u (f u) own]
  | optional c cs =>
    have same : ∀ d ∈ c :: cs, ∀ u ∈ us, d.accepts spell (f u) = d.accepts spell u := by
      intro d member u inside
      refine d.accepts_congr spell u (f u) fun w named => ?_
      exact (alike u inside).words _ List.mem_cons_self w
        (List.mem_flatMap.mpr ⟨d, member, named⟩)
    rw [takes, takes, acceptsAll_map spell f _ us same]
  | capture name =>
    have same : ∀ u ∈ us, Regex.admits ((excludedWords before).map spell) (f u) =
        Regex.admits ((excludedWords before).map spell) u := fun u inside =>
      admits_congr spell before u (f u) ((alike u inside).mono (List.subset_cons_self _ _))
    simp only [takes, List.takeWhile_map, List.length_map, Function.comp_def]
    rw [takeWhile_congr _ _ us same]
  | wildcard => rw [takes, takes, List.length_map]

/-- The words keep their places when they are changed into words that are taken alike. -/
theorem readings_map (before es : List Element) (us : List Text)
    (alike : ∀ u ∈ us, TakenAlike spell (before ++ es) u (f u)) :
    readings spell before es (us.map f) =
      (readings spell before es us).map (List.map (List.map f)) := by
  induction es generalizing before us with
  | nil => cases us <;> rfl
  | cons e es ih =>
    have sizes : e.sizes spell before (us.map f) = e.sizes spell before us := by
      have near : ∀ u ∈ us, TakenAlike spell (e :: before) u (f u) := fun u inside =>
        (alike u inside).mono (by simp)
      rw [Element.sizes, Element.sizes, e.takes_map spell f before us near]
    rw [readings, readings, sizes, List.map_flatMap]
    refine List.flatMap_congr fun m _ => ?_
    have rest := ih (e :: before) (us.drop m) fun u inside =>
      (alike u (List.mem_of_mem_drop inside)).mono (by simp)
    rw [← List.map_drop, rest, ← List.map_take, List.map_map, List.map_map]
    rfl

end

/-! ### Folding -/

/-- What the captures take of changed words is changed alike. -/
theorem capturedPhrases_casefold (es : List Element) (shares : List (List Text)) :
    capturedPhrases es (shares.map (List.map casefold)) =
      (capturedPhrases es shares).map (Prod.map id casefold) := by
  unfold capturedPhrases
  rw [List.zip_map_right, List.filterMap_map, List.map_filterMap]
  refine List.filterMap_congr fun x _ => ?_
  rw [Option.map_map, Function.comp_apply]
  refine congrArg (Option.map · _) (funext fun name => ?_)
  exact congrArg (Prod.mk name) (Text.casefold_unwords x.2).symm

/-- Single characters are taken alike by every element, but for the combining iota. -/
theorem takenAlike_casefold (es : List Element) (u : Text)
    (single : ∀ c ∈ u, (Text.foldChar c).length = 1 ∧ c ≠ '\u0345') :
    TakenAlike id es u (casefold u) where
  names := Text.forall_isNameChar_casefold u single
  words e _ w _ := by
    have keys := Text.map_caseKey_casefold u fun c member => (single c member).1
    rw [Text.sameLetters, Text.sameLetters, keys]

/-- From folded text a rule captures what it captures from the text, folded, if every word of the
text is taken alike when it is folded; and so is every word whose characters fold to single ones,
the combining iota apart. -/
theorem Rule.captures?_casefold (source : RuleSource) (r : Rule)
    (compiled : Rule.compile id source = .ok r) :
    (∀ ws, (∀ w ∈ ws, IsWord w) →
      (∀ w ∈ ws, TakenAlike id r.pattern.elements w (casefold w)) →
        r.captures? (casefold (unwords ws)) =
          (r.captures? (unwords ws)).map (List.map (Prod.map id casefold))) ∧
    ∀ u, (∀ c ∈ u, (Text.foldChar c).length = 1 ∧ c ≠ '\u0345') →
      TakenAlike id r.pattern.elements u (casefold u) := by
  obtain ⟨parsed, -, bound⟩ := (Rule.compile_eq_ok id source r).mp compiled
  have spelled : SpelledAsWords id r.pattern.elements := Pattern.isWord_of_parse _ _ parsed
  refine ⟨fun ws proper alike => ?_, takenAlike_casefold _⟩
  have proper' : ∀ w ∈ ws.map casefold, IsWord w :=
    List.forall_mem_map.mpr fun w member => Text.isWord_casefold w (proper w member)
  rw [Text.casefold_unwords, r.captures?_eq_readings id bound spelled _ proper',
    r.captures?_eq_readings id bound spelled ws proper, readings_map id casefold [] _ ws alike,
    List.head?_map, Option.map_map, Option.map_map]
  exact congrArg (Option.map · _) (funext (capturedPhrases_casefold _))

/-- A phrase with capitals beyond the first 128 code points, a final sigma and a sharp s, which folds
to two letters but to no word of the pattern. -/
theorem fetch_casefold :
    ∃ r, Rule.compile id ⟨"fetch/get [the] <item> in <place>".toList, "FETCH".toList⟩ = .ok r ∧
      TakenAlike id r.pattern.elements "ΚΎΒΟΣ".toList "κύβοσ".toList ∧
      r.captures? (unwords (["GET", "Großer", "ΚΎΒΟΣ", "In", "Box"].map String.toList)) =
        some [("item".toList, "Großer ΚΎΒΟΣ".toList), ("place".toList, "Box".toList)] ∧
      r.captures? (unwords (["get", "grosser", "κύβοσ", "in", "box"].map String.toList)) =
        some [("item".toList, "grosser κύβοσ".toList), ("place".toList, "box".toList)] := by
  let text := ["GET", "Großer", "ΚΎΒΟΣ", "In", "Box"].map String.toList
  have compiled : (Rule.compile id
      ⟨"fetch/get [the] <item> in <place>".toList, "FETCH".toList⟩).map
        (fun r => (r.pattern.elements, r.captures? (unwords text))) =
      .ok ([.choice ⟨"fetch".toList, ["get".toList]⟩, .optional ⟨"the".toList, []⟩ [],
          .capture "item".toList, .choice ⟨"in".toList, []⟩, .capture "place".toList],
        some [("item".toList, "Großer ΚΎΒΟΣ".toList), ("place".toList, "Box".toList)]) := by
    decide +kernel
  obtain ⟨r, read, both⟩ := (map_eq_ok _ _ _).mp compiled
  obtain ⟨shape, captured⟩ := Prod.mk.inj both
  obtain ⟨folded, single⟩ := Rule.captures?_casefold _ r read
  have alike : ∀ w ∈ text, TakenAlike id r.pattern.elements w (casefold w) := by
    rw [shape]
    decide +kernel
  have words : text.map casefold =
      ["get", "grosser", "κύβοσ", "in", "box"].map String.toList := by decide +kernel
  have phrases : [("item".toList, "Großer ΚΎΒΟΣ".toList), ("place".toList, "Box".toList)].map
      (Prod.map id casefold) =
        [("item".toList, "grosser κύβοσ".toList), ("place".toList, "box".toList)] := by
    decide +kernel
  have whole := folded text (by decide +kernel) alike
  rw [captured, Text.casefold_unwords, words, Option.map_some, phrases] at whole
  have word : casefold "ΚΎΒΟΣ".toList = "κύβοσ".toList := by decide +kernel
  have plain : ("ΚΎΒΟΣ".toList.all fun c => (Text.foldChar c).length == 1 && c != '\u0345') =
      true := by decide +kernel
  have alone := single "ΚΎΒΟΣ".toList fun c member => by
    simpa using List.all_eq_true.mp plain c member
  rw [word] at alone
  exact ⟨r, read, alone, captured, whole⟩

/-- Folding the capital dotted i gives a combining mark, which no phrase may contain; folding the
sharp s gives a word of the pattern; and folding the combining iota gives a letter, with which a
phrase may begin. -/
theorem folded_phrases_differ :
    (∃ r, Rule.compile id ⟨"take <item>".toList, "TAKE".toList⟩ = .ok r ∧
      (∀ w ∈ ["take".toList, "İksir".toList], IsWord w) ∧
      r.captures? (unwords ["take".toList, "İksir".toList]) =
        some [("item".toList, "İksir".toList)] ∧
      r.captures? (casefold (unwords ["take".toList, "İksir".toList])) = none) ∧
    (∃ r, Rule.compile id ⟨"take [ss] <item>".toList, "TAKE".toList⟩ = .ok r ∧
      r.captures? "take ß lamp".toList = some [("item".toList, "ß lamp".toList)] ∧
      r.captures? (casefold "take ß lamp".toList) = some [("item".toList, "lamp".toList)]) ∧
    ∃ r, Rule.compile id ⟨"<whole> * <part>".toList, "SPLIT".toList⟩ = .ok r ∧
      r.captures? "x w \u0345 z".toList =
        some [("whole".toList, "x".toList), ("part".toList, "z".toList)] ∧
      r.captures? (casefold "x w \u0345 z".toList) =
        some [("whole".toList, "x".toList), ("part".toList, "ι z".toList)] := by
  have dotted : (Rule.compile id ⟨"take <item>".toList, "TAKE".toList⟩).map
      (fun r => [r.captures? (unwords ["take".toList, "İksir".toList]),
        r.captures? (casefold (unwords ["take".toList, "İksir".toList]))]) =
      .ok [some [("item".toList, "İksir".toList)], none] := by decide +kernel
  have sharp : (Rule.compile id ⟨"take [ss] <item>".toList, "TAKE".toList⟩).map
      (fun r => [r.captures? "take ß lamp".toList, r.captures? (casefold "take ß lamp".toList)]) =
      .ok [some [("item".toList, "ß lamp".toList)], some [("item".toList, "lamp".toList)]] := by
    decide +kernel
  have iota : (Rule.compile id ⟨"<whole> * <part>".toList, "SPLIT".toList⟩).map
      (fun r => [r.captures? "x w \u0345 z".toList,
        r.captures? (casefold "x w \u0345 z".toList)]) =
      .ok [some [("whole".toList, "x".toList), ("part".toList, "z".toList)],
        some [("whole".toList, "x".toList), ("part".toList, "ι z".toList)]] := by decide +kernel
  obtain ⟨r, read, both⟩ := (map_eq_ok _ _ _).mp dotted
  obtain ⟨q, read', both'⟩ := (map_eq_ok _ _ _).mp sharp
  obtain ⟨p, read'', both''⟩ := (map_eq_ok _ _ _).mp iota
  simp only [List.cons.injEq, and_true] at both both' both''
  exact ⟨⟨r, read, by decide +kernel, both⟩, ⟨q, read', both'⟩, ⟨p, read'', both''⟩⟩

end TextAdventure
