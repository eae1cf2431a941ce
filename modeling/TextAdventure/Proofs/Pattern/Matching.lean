import TextAdventure.Proofs.Pattern.Reading
import TextAdventure.Rulebook.Basic

/-!
Matching a single-spaced text is reading its words. The layout of a pattern is taken apart element by
element: each element hands on to the rest of the layout at the end of a word, in the order in which
`Element.sizes` lists the sizes of its shares, so the whole search finds the head of `readings`
(`run_layout_start`). The main result is `Rule.spans?_unwords`: the search over characters succeeds
if and only if the words have a reading, and then it yields the spans of the first one.
-/
namespace TextAdventure

open Text Regex

/-- The span that a captured share leaves behind. -/
def Element.mark (start stop : Nat) : Element → List Span
  | capture _ => [⟨start, stop⟩]
  | _ => []

theorem Element.mark_of_free (e : Element) (free : e.isRequired = false) (start stop : Nat) :
    e.mark start stop = [] := by
  cases e with
  | capture name => cases free
  | _ => rfl

theorem run_opt (r : Regex) (c : Cursor) (k : Cursor → Option Cursor) :
    run (opt r) c k = (run r c k).or (k c) := Option.orElse_eq_or ..

/-! ### Bodies of elements -/

section Bodies

variable (spell : Text → Text) (k : Cursor → Option Cursor)

theorem run_choice_word (refuses : Refuses isSolid k) (c : Choice)
    (spelled : ∀ w ∈ c.words, IsWord (spell w)) (u : Text) (ws : List Text) (n : Nat)
    (caps : List Span) (inside : ∀ d ∈ u, isSolid d = true) :
    run (c.regex spell) ⟨u ++ afterWord ws, n, caps⟩ k =
      if c.accepts spell u then k ⟨afterWord ws, n + u.length, caps⟩ else none := by
  have solid : ∀ v ∈ (c.words.map spell).eraseDups, ∀ d ∈ v, isBlank d = false := by
    intro v hv
    obtain ⟨w, hw, rfl⟩ := List.mem_map.mp (List.mem_eraseDups.mp hv)
    exact (spelled w hw).2
  have same : (c.words.map spell).eraseDups.any (sameLetters · u) = c.accepts spell u := by
    rw [Bool.eq_iff_iff]
    simp only [Choice.accepts, List.any_eq_true, List.mem_eraseDups, List.mem_map]
    constructor
    · rintro ⟨v, ⟨w, hw, rfl⟩, equal⟩
      exact ⟨w, hw, equal⟩
    · rintro ⟨w, hw, equal⟩
      exact ⟨spell w, ⟨w, hw, rfl⟩, equal⟩
  unfold Choice.regex
  -- one spelling makes a literal, several make an alternation
  split
  next v single =>
    rw [single] at solid same
    have literal := runWord_word isSolid k refuses v u ws n caps (solid v (by simp))
      inside
    rw [← same, List.any_cons, List.any_nil, Bool.or_false]
    exact literal
  · rw [run_oneOf_word isSolid k refuses _ u ws n caps solid inside, same]

theorem run_choice_nil (refuses : Refuses isSolid k) (c : Choice)
    (spelled : ∀ w ∈ c.words, IsWord (spell w)) (n : Nat) (caps : List Span) :
    run (c.regex spell) ⟨[], n, caps⟩ k = none := by
  have rejected : c.accepts spell [] = false := by
    rw [Choice.accepts, List.any_eq_false]
    intro w hw same
    have empty : spell w = [] := by simpa [sameLetters] using same
    exact (spelled w hw).1 empty
  have searched := run_choice_word spell k refuses c spelled [] [] n caps (by simp)
  rw [rejected] at searched
  exact searched

/-- Optional text in front of words: one word for each of its choices. -/
theorem run_spaced (refuses : Refuses isSolid k) (c : Choice) (cs : List Choice)
    (spelled : ∀ d ∈ c :: cs, ∀ w ∈ d.words, IsWord (spell w)) (us : List Text)
    (proper : ∀ u ∈ us, IsWord u) (n : Nat) (caps : List Span) :
    run (spaced ((c :: cs).map (Choice.regex spell))) ⟨unwords us, n, caps⟩ k =
      if acceptsAll spell (c :: cs) us then
        k ⟨afterWord (us.drop (cs.length + 1)), n + (unwords (us.take (cs.length + 1))).length,
          caps⟩
      else none := by
  induction cs generalizing c us n with
  | nil =>
    have head := spelled c List.mem_cons_self
    cases us with
    | nil => exact run_choice_nil spell k refuses c head n caps
    | cons u us =>
      have inside := all_isSolid u (proper u List.mem_cons_self)
      have searched := run_choice_word spell k refuses c head u us n caps inside
      rw [unwords_cons]
      simp only [acceptsAll, Bool.and_true, List.length_nil, Nat.zero_add, List.drop_succ_cons,
        List.drop_zero, List.take_succ_cons, List.take_zero, length_unwords_cons, afterWord_nil,
        Nat.add_zero]
      exact searched
  | cons d ds ih =>
    have head := spelled c List.mem_cons_self
    have opened (x : Cursor) : run (spaced ((c :: d :: ds).map (Choice.regex spell))) x k =
        run (c.regex spell) x fun y =>
          run (cat blanks (spaced ((d :: ds).map (Choice.regex spell)))) y k := rfl
    have stops := refuses_run_cat_blanks (spaced ((d :: ds).map (Choice.regex spell))) k
    rw [opened]
    cases us with
    | nil => exact run_choice_nil spell _ stops c head n caps
    | cons u us =>
      have inside := all_isSolid u (proper u List.mem_cons_self)
      rw [unwords_cons, run_choice_word spell _ stops c head u us n caps inside, run_cat,
        acceptsAll]
      cases us with
      | nil => simp [acceptsAll, run_blanks_nil]
      | cons v vs =>
        have proper' : ∀ w ∈ v :: vs, IsWord w := fun w hw => proper w (List.mem_cons_of_mem u hw)
        have tail := ih d (fun e he => spelled e (List.mem_cons_of_mem c he)) (v :: vs) proper'
          (n + u.length + 1)
        have position : n + u.length + 1 + (unwords ((v :: vs).take (ds.length + 1))).length =
            n + (unwords ((u :: v :: vs).take (ds.length + 1 + 1))).length := by
          simp only [List.take_succ_cons, length_unwords_cons, afterWord_cons, List.length_cons,
            List.length_append]
          omega
        rw [run_blanks_afterWord _ v vs _ caps (proper' v List.mem_cons_self), ← unwords_cons, tail,
          position]
        by_cases accepted : c.accepts spell u = true <;> simp [accepted]

/-- The body of an element in front of words hands on at the end of each of its shares. -/
theorem Element.run_regex (refuses : Refuses isSolid k) (before : List Element) (e : Element)
    (spelled : ∀ w ∈ e.words, IsWord (spell w))
    (excluded : ∀ w ∈ excludedWords before, IsWord (spell w)) (us : List Text)
    (proper : ∀ u ∈ us, IsWord u) (n : Nat) (caps : List Span) :
    run (e.regex spell before) ⟨unwords us, n, caps⟩ k =
      (e.takes spell before us).findSome? fun m =>
        k ⟨afterWord (us.drop m), n + (unwords (us.take m)).length,
          e.mark n (n + (unwords (us.take m)).length) ++ caps⟩ := by
  cases e with
  | choice c =>
    cases us with
    | nil => exact run_choice_nil spell k refuses c spelled n caps
    | cons u us =>
      have inside := all_isSolid u (proper u List.mem_cons_self)
      have searched := run_choice_word spell k refuses c spelled u us n caps inside
      rw [unwords_cons, Element.regex, searched, takes]
      by_cases accepted : c.accepts spell u = true
      · simp [accepted, mark, length_unwords_cons]
      · simp [accepted]
  | optional c cs =>
    have each : ∀ d ∈ c :: cs, ∀ w ∈ d.words, IsWord (spell w) := fun d hd w hw =>
      spelled w (List.mem_flatMap.mpr ⟨d, hd, hw⟩)
    rw [Element.regex, run_spaced spell k refuses c cs each us proper n caps, takes]
    by_cases accepted : acceptsAll spell (c :: cs) us = true
    · simp [accepted, mark]
    · simp [accepted]
  | capture name =>
    have solid : ∀ v ∈ (excludedWords before).map spell, ∀ d ∈ v, isBlank d = false := by
      intro v hv
      obtain ⟨w, hw, rfl⟩ := List.mem_map.mp hv
      exact (excluded w hw).2
    exact run_phrase _ k refuses solid us proper n caps
  | wildcard => exact run_anything k refuses us proper n caps

theorem Element.takes_nil (before : List Element) (e : Element) :
    e.takes spell before [] = [] := by
  cases e <;> rfl

theorem Element.take_ne_nil (before : List Element) (e : Element) (us : List Text) (m : Nat)
    (member : m ∈ e.takes spell before us) : us.take m ≠ [] := by
  rw [ne_eq, List.take_eq_nil_iff]
  rintro (zero | rfl)
  · exact e.ne_zero_of_mem_takes spell before us m member zero
  · rw [e.takes_nil] at member
    cases member

/-- Behind a word: the same with the blanks in front. -/
theorem Element.run_blanks_regex (refuses : Refuses isSolid k) (before : List Element)
    (e : Element) (spelled : ∀ w ∈ e.words, IsWord (spell w))
    (excluded : ∀ w ∈ excludedWords before, IsWord (spell w)) (us : List Text)
    (proper : ∀ u ∈ us, IsWord u) (n : Nat) (caps : List Span) :
    run (cat blanks (e.regex spell before)) ⟨afterWord us, n, caps⟩ k =
      (e.takes spell before us).findSome? fun m =>
        k ⟨afterWord (us.drop m), n + (afterWord (us.take m)).length,
          e.mark (n + 1) (n + 1 + (unwords (us.take m)).length) ++ caps⟩ := by
  rw [run_cat]
  cases us with
  | nil => rw [e.takes_nil]; rfl
  | cons u us =>
    rw [run_blanks_afterWord _ u us n caps (proper u List.mem_cons_self), ← unwords_cons,
      e.run_regex spell k refuses before spelled excluded (u :: us) proper (n + 1) caps]
    apply findSome?_congr
    intro m member
    rw [← length_unwords_succ _ (e.take_ne_nil spell before (u :: us) m member), Nat.add_assoc n 1,
      Nat.add_comm 1]

/-- An element behind a word hands on at the end of each of its shares, an empty one last. -/
theorem Element.run_behind (refuses : Refuses isSolid k) (before : List Element)
    (e : Element) (spelled : ∀ w ∈ e.words, IsWord (spell w))
    (excluded : ∀ w ∈ excludedWords before, IsWord (spell w)) (us : List Text)
    (proper : ∀ u ∈ us, IsWord u) (n : Nat) (caps : List Span) :
    run (if e.isRequired then cat blanks (e.regex spell before)
        else opt (cat blanks (e.regex spell before))) ⟨afterWord us, n, caps⟩ k =
      (e.sizes spell before us).findSome? fun m =>
        k ⟨afterWord (us.drop m), n + (afterWord (us.take m)).length,
          e.mark (n + 1) (n + 1 + (unwords (us.take m)).length) ++ caps⟩ := by
  have led := e.run_blanks_regex spell k refuses before spelled excluded us proper n caps
  unfold sizes
  cases required : e.isRequired with
  | true => simpa using led
  | false =>
    simp only [Bool.false_eq_true, if_false, e.mark_of_free required] at led ⊢
    rw [run_opt, led, List.findSome?_append, List.findSome?_singleton]
    rfl

/-- Optional text in front of words, with its blanks behind it: it hands on in front of each rest of
the words. The rest of the search must fail where no word is left. -/
theorem Element.run_ahead (hungry : ∀ n caps, k ⟨[], n, caps⟩ = none)
    (before : List Element) (e : Element) (free : e.isRequired = false)
    (spelled : ∀ w ∈ e.words, IsWord (spell w))
    (excluded : ∀ w ∈ excludedWords before, IsWord (spell w)) (us : List Text)
    (proper : ∀ u ∈ us, IsWord u) (n : Nat) (caps : List Span) :
    run (opt (cat (e.regex spell before) blanks)) ⟨unwords us, n, caps⟩ k =
      (e.sizes spell before us).findSome? fun m =>
        k ⟨unwords (us.drop m), n + (afterWord (us.take m)).length, caps⟩ := by
  have taken : run (cat (e.regex spell before) blanks) ⟨unwords us, n, caps⟩ k =
      (e.takes spell before us).findSome? fun m =>
        k ⟨unwords (us.drop m), n + (afterWord (us.take m)).length, caps⟩ := by
    rw [run_cat, e.run_regex spell _ (refuses_run_blanks k) before spelled excluded us proper n caps]
    apply findSome?_congr
    intro m member
    rw [e.mark_of_free free, List.nil_append,
      ← length_unwords_succ _ (e.take_ne_nil spell before us m member)]
    -- at the end of the text the blanks fail, and so does the rest of the search
    cases rest : us.drop m with
    | nil => rw [unwords_nil, hungry]; rfl
    | cons v vs =>
      have word : IsWord v := proper v (List.mem_of_mem_drop (rest ▸ List.mem_cons_self))
      rw [run_blanks_afterWord k v vs _ caps word, unwords_cons, Nat.add_assoc]
  rw [run_opt, taken, sizes, free, List.findSome?_append]
  simp only [Bool.false_eq_true, if_false, List.findSome?_singleton]
  rfl

end Bodies

/-! ### The layout -/

theorem layout_behind (spell : Text → Text) (before : List Element) (e : Element)
    (es : List Element) (begun : before.any Element.isRequired = true) :
    layout spell before (e :: es) =
      cat (if e.isRequired then cat blanks (e.regex spell before)
        else opt (cat blanks (e.regex spell before))) (layout spell (e :: before) es) := by
  cases required : e.isRequired <;> simp [layout, begun, required]

theorem layout_ahead (spell : Text → Text) (before : List Element) (e : Element)
    (es : List Element) (fresh : before.any Element.isRequired = false) :
    layout spell before (e :: es) =
      cat (if e.isRequired then e.regex spell before
        else opt (cat (e.regex spell before) blanks)) (layout spell (e :: before) es) := by
  cases required : e.isRequired <;> simp [layout, fresh, required]

/-- Behind the first required element the layout goes on at the end of a word only. -/
theorem refuses_layout (spell : Text → Text) (before es : List Element)
    (begun : before.any Element.isRequired = true) :
    Refuses isSolid fun c => run (layout spell before es) c atEnd := by
  induction es generalizing before with
  | nil => exact refuses_atEnd isSolid
  | cons e es ih =>
    have further := ih (e :: before) (by simp [begun])
    intro d t n caps solid
    have led : run (cat blanks (e.regex spell before)) ⟨d :: t, n, caps⟩
        (fun c => run (layout spell (e :: before) es) c atEnd) = none :=
      refuses_run_cat_blanks _ _ d t n caps solid
    simp only [layout_behind spell before e es begun, run_cat (ite _ _ _)]
    split
    · exact led
    · -- leaving the element out does not help: what follows needs blanks as well
      rw [run_opt, led, Option.none_or]
      exact further d t n caps solid

theorem captureSpans_cons (start : Nat) (e : Element) (es : List Element) (share : List Text)
    (shares : List (List Text)) :
    (captureSpans start (e :: es) (share :: shares)).map Prod.snd =
      e.mark start (start + (unwords share).length) ++
        (captureSpans (start + (afterWord share).length) es shares).map Prod.snd := by
  cases e <;> rfl

theorem mem_excludedWords (before : List Element) (w : Text) (member : w ∈ excludedWords before) :
    ∃ e ∈ before, w ∈ e.words := by
  unfold excludedWords at member
  split at member
  · obtain ⟨e, taken, named⟩ := List.mem_flatMap.mp member
    exact ⟨e, (List.takeWhile_sublist _).mem taken, named⟩
  · cases member

/-- Every word of the elements is spelled as a word. -/
def SpelledAsWords (spell : Text → Text) (es : List Element) : Prop :=
  ∀ e ∈ es, ∀ w ∈ e.words, IsWord (spell w)

instance (spell : Text → Text) (es : List Element) : Decidable (SpelledAsWords spell es) :=
  inferInstanceAs (Decidable (∀ e ∈ es, ∀ w ∈ e.words, IsWord (spell w)))

theorem SpelledAsWords.excluded {spell : Text → Text} {before : List Element}
    (spelled : SpelledAsWords spell before) :
    ∀ w ∈ excludedWords before, IsWord (spell w) := by
  intro w member
  obtain ⟨e, he, hw⟩ := mem_excludedWords before w member
  exact spelled e he w hw

theorem SpelledAsWords.cons {spell : Text → Text} {e : Element} {es : List Element}
    (head : ∀ w ∈ e.words, IsWord (spell w)) (tail : SpelledAsWords spell es) :
    SpelledAsWords spell (e :: es) := by
  intro f hf
  rcases List.mem_cons.mp hf with rfl | later
  · exact head
  · exact tail f later

/-- The spans of the first reading, latest first, in front of those captured so far. -/
def firstCaptures (spell : Text → Text) (before es : List Element) (us : List Text) (start : Nat)
    (caps : List Span) : Option (List Span) :=
  (readings spell before es us).head?.map fun shares =>
    ((captureSpans start es shares).map Prod.snd).reverse ++ caps

theorem firstCaptures_cons (spell : Text → Text) (before : List Element) (e : Element)
    (es : List Element) (us : List Text) (start : Nat) (caps : List Span) :
    firstCaptures spell before (e :: es) us start caps =
      (e.sizes spell before us).findSome? fun m =>
        firstCaptures spell (e :: before) es (us.drop m)
          (start + (afterWord (us.take m)).length)
          (e.mark start (start + (unwords (us.take m)).length) ++ caps) := by
  rw [firstCaptures, readings, List.head?_flatMap, List.map_findSome?]
  apply findSome?_congr
  intro m _
  have single : (e.mark start (start + (unwords (us.take m)).length)).reverse =
      e.mark start (start + (unwords (us.take m)).length) := by cases e <;> rfl
  simp only [Function.comp_apply, List.head?_map, Option.map_map, firstCaptures, Function.comp_def,
    captureSpans_cons, List.reverse_append, single, List.append_assoc]

/-- The layout behind a word finds the first reading of the words that are left. -/
theorem run_layout_behind (spell : Text → Text) (before es : List Element)
    (begun : before.any Element.isRequired = true) (spelledBefore : SpelledAsWords spell before)
    (spelled : SpelledAsWords spell es) (us : List Text) (proper : ∀ u ∈ us, IsWord u) (n : Nat)
    (caps : List Span) :
    (run (layout spell before es) ⟨afterWord us, n, caps⟩ atEnd).map Cursor.captured =
      firstCaptures spell before es us (n + 1) caps := by
  induction es generalizing before us n caps with
  | nil => cases us <;> rfl
  | cons e es ih =>
    have words : ∀ w ∈ e.words, IsWord (spell w) := spelled e List.mem_cons_self
    have stops := refuses_layout spell (e :: before) es (by simp [begun])
    rw [layout_behind spell before e es begun, run_cat,
      e.run_behind spell _ stops before words spelledBefore.excluded us proper n caps,
      List.map_findSome?, firstCaptures_cons]
    apply findSome?_congr
    intro m _
    rw [Nat.add_right_comm n 1 (afterWord (us.take m)).length]
    exact ih (e :: before) (by simp [begun]) (.cons words spelledBefore)
      (fun f hf => spelled f (List.mem_cons_of_mem e hf)) (us.drop m)
      (fun u hu => proper u (List.mem_of_mem_drop hu)) _ _

theorem readings_nil (spell : Text → Text) (before es : List Element)
    (required : es.any Element.isRequired = true) : readings spell before es [] = [] := by
  induction es generalizing before with
  | nil => cases required
  | cons e es ih =>
    cases head : e.isRequired with
    | true => simp [readings, Element.sizes, e.takes_nil, head]
    | false =>
      have later : es.any Element.isRequired = true := by simpa [head] using required
      simp [readings, Element.sizes, e.takes_nil, head, ih (e :: before) later]

/-- The layout at the start of a text finds the first reading of its words. -/
theorem run_layout_start (spell : Text → Text) (before es : List Element)
    (fresh : before.any Element.isRequired = false) (required : es.any Element.isRequired = true)
    (spelledBefore : SpelledAsWords spell before) (spelled : SpelledAsWords spell es)
    (us : List Text) (proper : ∀ u ∈ us, IsWord u) (n : Nat) (caps : List Span) :
    (run (layout spell before es) ⟨unwords us, n, caps⟩ atEnd).map Cursor.captured =
      firstCaptures spell before es us n caps := by
  induction es generalizing before us n caps with
  | nil => cases required
  | cons e es ih =>
    have words : ∀ w ∈ e.words, IsWord (spell w) := spelled e List.mem_cons_self
    have tail : SpelledAsWords spell es := fun f hf => spelled f (List.mem_cons_of_mem e hf)
    have rest (m : Nat) : ∀ u ∈ us.drop m, IsWord u := fun u hu =>
      proper u (List.mem_of_mem_drop hu)
    rw [layout_ahead spell before e es fresh, run_cat, firstCaptures_cons]
    cases head : e.isRequired with
    | true =>
      -- the first required element: from here on the layout stands behind a word
      have begun : (e :: before).any Element.isRequired = true := by simp [head]
      have stops := refuses_layout spell (e :: before) es begun
      rw [if_pos rfl, e.run_regex spell _ stops before words spelledBefore.excluded us proper n caps,
        List.map_findSome?, Element.sizes, head, if_pos rfl, List.append_nil]
      apply findSome?_congr
      intro m member
      rw [← length_unwords_succ _ (e.take_ne_nil spell before us m member)]
      exact run_layout_behind spell (e :: before) es begun (.cons words spelledBefore) tail
        (us.drop m) (rest m) _ _
    | false =>
      -- something required is still to come, so the rest fails where no word is left
      have fresh' : (e :: before).any Element.isRequired = false := by simp [head, fresh]
      have later : es.any Element.isRequired = true := by simpa [head] using required
      have further := ih (e :: before) fresh' later (.cons words spelledBefore) tail
      have hungry (m : Nat) (held : List Span) :
          run (layout spell (e :: before) es) ⟨[], m, held⟩ atEnd = none := by
        have nothing := further [] (by simp) m held
        rw [firstCaptures, readings_nil spell (e :: before) es later] at nothing
        exact Option.map_eq_none_iff.mp nothing
      rw [if_neg (by simp), e.run_ahead spell _ hungry before head words spelledBefore.excluded us
        proper n caps, List.map_findSome?]
      apply findSome?_congr
      intro m _
      rw [e.mark_of_free head, List.nil_append]
      exact further (us.drop m) (rest m) _ caps

theorem map_fst_captureSpans (start : Nat) (es : List Element) (shares : List (List Text))
    (length : shares.length = es.length) :
    (captureSpans start es shares).map Prod.fst = slotNames es := by
  induction es generalizing start shares with
  | nil => cases shares <;> rfl
  | cons e es ih =>
    cases shares with
    | nil => cases length
    | cons share shares =>
      have tail := fun next => ih next shares (Nat.succ.inj length)
      cases e <;> simp [captureSpans, slotNames, Element.slot?] <;> exact tail _

theorem Rule.compile_eq_ok (spell : Text → Text) (s : RuleSource) (r : Rule) :
    Rule.compile spell s = .ok r ↔
      Pattern.parse s.pattern = .ok r.pattern ∧ r.source = s ∧ r.regex = r.pattern.regex spell := by
  unfold Rule.compile
  obtain ⟨source, pattern, regex⟩ := r
  cases Pattern.parse s.pattern with
  | error m => simp
  | ok p =>
    simp only [Except.ok.injEq, Rule.mk.injEq]
    constructor
    · rintro ⟨rfl, rfl, rfl⟩
      exact ⟨rfl, rfl, rfl⟩
    · rintro ⟨rfl, rfl, rfl⟩
      exact ⟨rfl, rfl, rfl⟩

/-- The spans of a rule in the spelling of `spell` are those of the first listed reading. -/
theorem Rule.spans?_eq_readings (spell : Text → Text) (r : Rule)
    (bound : r.regex = r.pattern.regex spell)
    (spelled : SpelledAsWords spell r.pattern.elements) (ws : List Text)
    (proper : ∀ w ∈ ws, IsWord w) :
    r.spans? (unwords ws) =
      (readings spell [] r.pattern.elements ws).head?.map
        (captureSpans 0 r.pattern.elements) := by
  have searched := run_layout_start spell [] r.pattern.elements rfl r.pattern.has_required
    (fun _ he => absurd he List.not_mem_nil) spelled ws proper 0 []
  -- the search records the latest span first
  have spans : r.regex.matchWhole? (unwords ws) =
      (readings spell [] r.pattern.elements ws).head?.map fun shares =>
        (captureSpans 0 r.pattern.elements shares).map Prod.snd := by
    have reversed : r.regex.matchWhole? (unwords ws) =
        ((run r.regex ⟨unwords ws, 0, []⟩ atEnd).map Cursor.captured).map List.reverse := by
      rw [Option.map_map]
      rfl
    rw [reversed, bound, Pattern.regex, searched, firstCaptures, Option.map_map]
    simp only [Function.comp_def, List.append_nil, List.reverse_reverse]
  rw [Rule.spans?, spans, Option.map_map]
  cases listed : (readings spell [] r.pattern.elements ws).head? with
  | none => rfl
  | some shares =>
    have reading := ((r.pattern.head?_readings spell ws shares).mp listed).isReading
    have names := map_fst_captureSpans 0 r.pattern.elements shares reading.length_eq
    exact congrArg some (List.zip_of_prod names rfl).symm

/-- A compiled rule fits a single-spaced text if and only if the words of the text have a reading by
its pattern, and its slots take the spans of the first reading. -/
theorem Rule.spans?_unwords (spell : Text → Text) (source : RuleSource) (r : Rule)
    (compiled : Rule.compile spell source = .ok r)
    (spelled : SpelledAsWords spell r.pattern.elements) (ws : List Text)
    (proper : ∀ w ∈ ws, IsWord w) :
    ((r.spans? (unwords ws)).isSome = true ↔ ∃ shares, r.pattern.IsReading spell ws shares) ∧
      ∀ spans, r.spans? (unwords ws) = some spans ↔
        ∃ shares, r.pattern.IsFirstReading spell ws shares ∧
          spans = captureSpans 0 r.pattern.elements shares := by
  obtain ⟨-, -, bound⟩ := (Rule.compile_eq_ok spell source r).mp compiled
  rw [Rule.spans?_eq_readings spell r bound spelled ws proper]
  constructor
  · rw [Option.isSome_map, List.isSome_head?]
    simp only [← r.pattern.mem_readings]
    constructor
    · exact fun nonempty => List.exists_mem_of_ne_nil _ (by simpa using nonempty)
    · rintro ⟨shares, member⟩
      simpa using List.ne_nil_of_mem member
  · intro spans
    simp only [Option.map_eq_some_iff, r.pattern.head?_readings, eq_comm (a := spans)]

/-- A rule with optional text on both sides of its captures and a wildcard at its end. -/
def giveRule : Rule :=
  let pattern : Pattern :=
    ⟨[.optional ⟨"now".toList, []⟩ [], .choice ⟨"give".toList, ["hand".toList]⟩,
      .optional ⟨"the".toList, []⟩ [], .capture "item".toList, .optional ⟨"to".toList, []⟩ [],
      .capture "character".toList, .wildcard], by decide, by decide⟩
  ⟨⟨"[now] give/hand [the] <item> [to] <character> *".toList, "GIVE".toList⟩, pattern,
    pattern.regex id⟩

theorem compile_giveRule : Rule.compile id giveRule.source = .ok giveRule := by decide +kernel

/-- The article is taken as optional text, the item stops after one word although the preposition is
still to come, and the wildcard takes the rest. -/
theorem giveRule_spans :
    Rule.compile id giveRule.source = .ok giveRule ∧
      SpelledAsWords id giveRule.pattern.elements ∧
      (∀ w ∈ ["now", "GIVE", "the", "rusty", "sword", "to", "king's"].map String.toList,
        IsWord w) ∧
      giveRule.spans? (unwords
        (["now", "GIVE", "the", "rusty", "sword", "to", "king's"].map String.toList)) =
          some [("item".toList, ⟨13, 18⟩), ("character".toList, ⟨19, 24⟩)] := by
  have spelled : SpelledAsWords id giveRule.pattern.elements := by decide
  have proper : ∀ w ∈ ["now", "GIVE", "the", "rusty", "sword", "to", "king's"].map String.toList,
      IsWord w := by decide
  have listed : (readings id [] giveRule.pattern.elements
      (["now", "GIVE", "the", "rusty", "sword", "to", "king's"].map String.toList)).head? =
        some ([["now"], ["GIVE"], ["the"], ["rusty"], [], ["sword"], ["to", "king's"]].map
          (List.map String.toList)) := by decide +kernel
  refine ⟨compile_giveRule, spelled, proper, ?_⟩
  exact ((Rule.spans?_unwords id _ _ compile_giveRule spelled _ proper).2 _).mpr
    ⟨_, (Pattern.head?_readings _ _ _ _).mp listed, by decide⟩

end TextAdventure
