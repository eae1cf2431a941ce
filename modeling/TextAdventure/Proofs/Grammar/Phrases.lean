import TextAdventure.Grammar.Phrases
import TextAdventure.Proofs.Pattern.Scanning
import TextAdventure.Proofs.Text.Words

/-!
Lists of phrases, written down and read again. `Cuts` is what splitting a text into phrases comes to.
No phrase of a text runs into those behind it when they are written apart (`PhraseRow`): one with a
quote in it is a bare word, and where it is written it opens no quotes either. So each phrase is read
again by itself, as it is if it has a space and else as its words (`splitPhrases_phrasesText`). A
list comes back exactly if each phrase with a blank in it has a space
(`splitPhrases_phrasesText_eq_iff`), and not every list does (`tabbedPhrases_broken`).
-/
namespace TextAdventure.Grammar

open Text (IsWord afterWord)

/-! ### Phrases in quotes -/

theorem quotedPhrase?_eq_some_iff (c : Char) (t p : Text) :
    quotedPhrase? c t = some p ↔
      c = '\x22' ∧ p ≠ [] ∧ '\x22' ∉ p ∧ ∃ s, t = p ++ '\x22' :: s := by
  constructor
  · intro quoted
    simp only [quotedPhrase?] at quoted
    split at quoted
    next opens =>
      split at quoted
      next closed =>
        cases quoted
        simp only [Bool.and_eq_true, Bool.not_eq_true', List.isEmpty_eq_false_iff, beq_iff_eq,
          getElem?_length_takeWhile] at closed
        obtain ⟨nonempty, stop⟩ := closed
        obtain ⟨s, behind⟩ := List.head?_eq_some_iff.mp stop
        refine ⟨opens, nonempty, fun member => ?_, s, ?_⟩
        · simpa using List.all_eq_true.mp List.all_takeWhile _ member
        · rw [← behind, List.takeWhile_append_dropWhile]
      · cases quoted
    · cases quoted
  · rintro ⟨rfl, nonempty, quoteless, s, rfl⟩
    -- the quote behind the phrase is the first one
    have inner : (p ++ '\x22' :: s).takeWhile (· != '\x22') = p := by
      refine takeWhile_of_stop _ p _ (fun c member => ?_) fun c first => ?_
      · have other : c ≠ '\x22' := fun same => quoteless (same ▸ member)
        simpa using other
      · obtain rfl := Option.some.inj first
        rfl
    simp [quotedPhrase?, inner, nonempty]

/-- A quote opens nothing if another one follows at once or none at all. -/
theorem quotedPhrase?_eq_none_iff (c : Char) (t : Text) :
    quotedPhrase? c t = none ↔ (c = '\x22' → '\x22' ∈ t → t.head? = some '\x22') := by
  constructor
  · intro bare opens member
    obtain ⟨p, s, split, quoteless⟩ := List.eq_append_cons_of_mem member
    cases p with
    | nil => exact split ▸ rfl
    | cons d p =>
      have quoted := (quotedPhrase?_eq_some_iff c t (d :: p)).mpr
        ⟨opens, List.cons_ne_nil d p, quoteless, s, split⟩
      rw [bare] at quoted
      cases quoted
  · intro follows
    cases quoted : quotedPhrase? c t with
    | none => rfl
    | some p =>
      obtain ⟨opens, nonempty, quoteless, s, rfl⟩ := (quotedPhrase?_eq_some_iff c t p).mp quoted
      obtain ⟨d, p, rfl⟩ := List.exists_cons_of_ne_nil nonempty
      have first := follows opens (List.mem_append_right _ List.mem_cons_self)
      exact absurd (Option.some.inj first ▸ List.mem_cons_self) quoteless

/-! ### Cutting -/

/-- Whether nothing in front of the text is continued by it. -/
def StandsApart (t : Text) : Prop := ∀ c ∈ t.head?, Text.isBlank c = true

theorem StandsApart.append (t u : Text) (front : StandsApart t) (behind : StandsApart u) :
    StandsApart (t ++ u) := by
  cases t with
  | nil => exact behind
  | cons c t => exact fun d first => front d first

/-- The phrases that a text is cut into. -/
inductive Cuts : Text → List Text → Prop
  | nil : Cuts [] []
  | quoted (p t : Text) (ps : List Text) : p ≠ [] → '\x22' ∉ p → Cuts t ps →
    Cuts ('\x22' :: (p ++ '\x22' :: t)) (p :: ps)
  | blank (c : Char) (t : Text) (ps : List Text) : Text.isBlank c = true → Cuts t ps →
    Cuts (c :: t) ps
  | word (c : Char) (w t : Text) (ps : List Text) : IsWord (c :: w) →
    quotedPhrase? c (w ++ t) = none → StandsApart t → Cuts t ps →
    Cuts (c :: (w ++ t)) ((c :: w) :: ps)

theorem splitPhrases_quoted (p t : Text) (nonempty : p ≠ []) (quoteless : '\x22' ∉ p) :
    splitPhrases ('\x22' :: (p ++ '\x22' :: t)) = p :: splitPhrases t := by
  have quoted : quotedPhrase? '\x22' (p ++ '\x22' :: t) = some p :=
    (quotedPhrase?_eq_some_iff _ _ p).mpr ⟨rfl, nonempty, quoteless, t, rfl⟩
  have rest : (p ++ '\x22' :: t).drop (p.length + 1) = t := by simp
  rw [splitPhrases, quoted]
  simp only [rest]

theorem splitPhrases_blank (c : Char) (t : Text) (blank : Text.isBlank c = true) :
    splitPhrases (c :: t) = splitPhrases t := by
  have bare : quotedPhrase? c t = none := by
    refine (quotedPhrase?_eq_none_iff c t).mpr fun opens => ?_
    rw [opens] at blank
    cases blank
  rw [splitPhrases, bare]
  exact if_pos blank

/-- A word that opens no quotes is one phrase. -/
theorem splitPhrases_word (c : Char) (w t : Text) (word : IsWord (c :: w))
    (bare : quotedPhrase? c (w ++ t) = none) (apart : StandsApart t) :
    splitPhrases (c :: (w ++ t)) = (c :: w) :: splitPhrases t := by
  obtain ⟨first, later⟩ := List.forall_mem_cons.mp word.2
  have run : (w ++ t).takeWhile (fun d => !Text.isBlank d) = w := by
    refine takeWhile_of_stop _ w t (fun d member => ?_) fun d start => ?_
    · simpa using later d member
    · simpa using apart d start
  rw [splitPhrases, bare]
  simp only [first, Bool.false_eq_true, if_false, run, List.drop_left]

theorem cuts_splitPhrases (t : Text) : Cuts t (splitPhrases t) := by
  fun_induction splitPhrases t with
  | case1 => exact .nil
  | case2 c t p quoted ih =>
    obtain ⟨rfl, nonempty, quoteless, s, rfl⟩ := (quotedPhrase?_eq_some_iff c t p).mp quoted
    have rest : (p ++ '\x22' :: s).drop (p.length + 1) = s := by simp
    rw [rest] at ih ⊢
    exact .quoted p s _ nonempty quoteless ih
  | case3 c t _ blank ih => exact .blank c t _ blank ih
  | case4 c t bare solid w ih =>
    have whole : w ++ t.dropWhile (fun d => !Text.isBlank d) = t := List.takeWhile_append_dropWhile
    have behind : t.drop w.length = t.dropWhile fun d => !Text.isBlank d := by
      have dropped : w ++ t.drop w.length = t :=
        List.prefix_iff_eq_append.mp (List.takeWhile_prefix _)
      exact List.append_cancel_left (dropped.trans whole.symm)
    obtain ⟨inside, -⟩ := cons_takeWhile (fun d => !Text.isBlank d) c t (by simp [solid])
    rw [behind] at ih ⊢
    have cut := Cuts.word c w _ _ ⟨List.cons_ne_nil c w, by simpa using inside⟩
      (whole.symm ▸ bare)
      (by simpa [StandsApart] using head?_dropWhile (fun d => !Text.isBlank d) t) ih
    rwa [whole] at cut

/-- A text without quotes is cut into its words, whatever stands apart from it. -/
theorem splitPhrases_append (p t : Text) (quoteless : '\x22' ∉ p) (apart : StandsApart t) :
    splitPhrases (p ++ t) = Text.words p ++ splitPhrases t := by
  have cut := cuts_splitPhrases p
  generalize splitPhrases p = ps at cut
  induction cut with
  | nil => rfl
  | quoted => exact absurd List.mem_cons_self quoteless
  | blank c p _ blank _ ih =>
    rw [List.cons_append, splitPhrases_blank c _ blank, Text.words_cons_blank p c blank]
    exact ih fun member => quoteless (List.mem_cons_of_mem c member)
  | word c w p _ word _ stops _ ih =>
    have bare : quotedPhrase? c (w ++ (p ++ t)) = none :=
      (quotedPhrase?_eq_none_iff c _).mpr fun opens => absurd (opens ▸ List.mem_cons_self) quoteless
    have later : '\x22' ∉ p := fun member =>
      quoteless (List.mem_cons_of_mem c (List.mem_append_right w member))
    have words : Text.words (c :: (w ++ p)) = (c :: w) :: Text.words p :=
      Text.words_append_of_isWord (c :: w) p word stops
    rw [List.cons_append, List.append_assoc,
      splitPhrases_word c w (p ++ t) word bare (stops.append p t apart), ih later, words]
    rfl

theorem ne_nil_of_mem_splitPhrases (t p : Text) (member : p ∈ splitPhrases t) : p ≠ [] := by
  have cut := cuts_splitPhrases t
  generalize splitPhrases t = ps at cut member
  induction cut with
  | nil => cases member
  | quoted q t ps nonempty _ _ ih =>
    rcases List.mem_cons.mp member with rfl | later
    · exact nonempty
    · exact ih later
  | blank c t ps _ _ ih => exact ih member
  | word c w t ps word _ _ _ ih =>
    rcases List.mem_cons.mp member with rfl | later
    · exact word.1
    · exact ih later

/-! ### Writing phrases and reading them again -/

/-- What is read where the phrase was written: the phrase if it stands in quotes there, and else its
words. -/
def reread (p : Text) : List Text := if p.contains ' ' then [p] else Text.words p

theorem contains_space_of_isWord (w : Text) (word : IsWord w) : w.contains ' ' = false := by
  rw [← Bool.not_eq_true]
  intro space
  exact absurd (word.2 ' ' (List.contains_iff_mem.mp space)) (by decide)

theorem reread_of_isWord (w : Text) (word : IsWord w) : reread w = [w] := by
  rw [reread, contains_space_of_isWord w word, Text.words_of_isWord w word]
  rfl

theorem phraseText_of_isWord (w : Text) (word : IsWord w) : phraseText w = w := by
  rw [phraseText, contains_space_of_isWord w word]
  rfl

/-- Phrases each of which can be written in front of the others: one with a quote in it is a word
and opens no quotes there. -/
inductive PhraseRow : List Text → Prop
  | nil : PhraseRow []
  | quoteless (p : Text) (ps : List Text) : '\x22' ∉ p → PhraseRow ps → PhraseRow (p :: ps)
  | word (c : Char) (w : Text) (ps : List Text) : IsWord (c :: w) →
    quotedPhrase? c (w ++ afterWord (ps.map phraseText)) = none → PhraseRow ps →
    PhraseRow ((c :: w) :: ps)

theorem Cuts.quoteless_written (t : Text) (ps : List Text) (cut : Cuts t ps)
    (quoteless : '\x22' ∉ t) : '\x22' ∉ afterWord (ps.map phraseText) := by
  induction cut with
  | nil => exact List.not_mem_nil
  | quoted => exact absurd List.mem_cons_self quoteless
  | blank c t ps _ _ ih => exact ih fun member => quoteless (List.mem_cons_of_mem c member)
  | word c w t ps word _ _ _ ih =>
    rw [← List.cons_append, List.mem_append, not_or] at quoteless
    obtain ⟨front, behind⟩ := quoteless
    have later := ih behind
    rw [List.map_cons, phraseText_of_isWord _ word, Text.afterWord_cons, List.mem_cons,
      List.mem_append]
    rintro (space | inside | inside)
    · cases space
    · exact front inside
    · exact later inside

theorem phraseRow_of_quoteless (ps : List Text) (quoteless : ∀ p ∈ ps, '\x22' ∉ p) :
    PhraseRow ps := by
  induction ps with
  | nil => exact .nil
  | cons p ps ih =>
    obtain ⟨first, later⟩ := List.forall_mem_cons.mp quoteless
    exact .quoteless p ps first (ih later)

/-- The phrases of a text can be written apart. -/
theorem Cuts.phraseRow (t : Text) (ps : List Text) (cut : Cuts t ps) : PhraseRow ps := by
  induction cut with
  | nil => exact .nil
  | quoted p t ps _ quoteless _ ih => exact .quoteless p ps quoteless ih
  | blank c t ps _ _ ih => exact ih
  | word c w t ps word bare apart cut ih =>
    refine .word c w ps word ((quotedPhrase?_eq_none_iff c _).mpr fun opens member => ?_) ih
    by_cases closes : '\x22' ∈ w ++ t
    · -- the quote that follows at once is in the word, which ends in front of a blank
      have follows := (quotedPhrase?_eq_none_iff c _).mp bare opens closes
      cases w with
      | nil => exact absurd (apart '\x22' follows) (by decide)
      | cons d w => exact follows
    · -- no quote follows, and none is written for words
      rw [List.mem_append, not_or] at closes
      rcases List.mem_append.mp member with inside | inside
      · exact absurd inside closes.1
      · exact absurd inside (cut.quoteless_written t ps closes.2)

/-- A phrase without quotes is read again by itself. -/
theorem splitPhrases_phraseText (p t : Text) (quoteless : '\x22' ∉ p) (apart : StandsApart t) :
    splitPhrases (phraseText p ++ t) = reread p ++ splitPhrases t := by
  unfold phraseText reread
  split
  next space =>
    have nonempty : p ≠ [] := List.ne_nil_of_mem (List.contains_iff_mem.mp space)
    have written : '\x22' :: p ++ ['\x22'] ++ t = '\x22' :: (p ++ '\x22' :: t) := by simp
    rw [written, splitPhrases_quoted p t nonempty quoteless]
    rfl
  · exact splitPhrases_append p t quoteless apart

theorem splitPhrases_afterWord (ps : List Text) (row : PhraseRow ps) :
    splitPhrases (afterWord (ps.map phraseText)) = ps.flatMap reread := by
  induction row with
  | nil => rw [List.map_nil, Text.afterWord_nil, splitPhrases, List.flatMap_nil]
  | quoteless p ps quoteless _ ih =>
    rw [List.map_cons, Text.afterWord_cons, splitPhrases_blank _ _ Text.isBlank_space,
      splitPhrases_phraseText p _ quoteless (Text.isBlank_head_afterWord _), ih, List.flatMap_cons]
  | word c w ps word bare _ ih =>
    rw [List.map_cons, phraseText_of_isWord _ word, Text.afterWord_cons,
      splitPhrases_blank _ _ Text.isBlank_space, List.cons_append,
      splitPhrases_word c w _ word bare (Text.isBlank_head_afterWord _), ih, List.flatMap_cons,
      reread_of_isWord _ word]
    rfl

/-- Each phrase is read again by itself. -/
theorem splitPhrases_phrasesText (ps : List Text) (row : PhraseRow ps) :
    splitPhrases (phrasesText ps) = ps.flatMap reread := by
  rw [← splitPhrases_afterWord ps row]
  cases ps with
  | nil => rfl
  | cons p ps =>
    have behind := Text.space_cons_unwords ((p :: ps).map phraseText) (List.cons_ne_nil _ _)
    rw [← behind, splitPhrases_blank _ _ Text.isBlank_space]
    rfl

/-! ### What comes back -/

theorem reread_eq_singleton_iff (p : Text) (nonempty : p ≠ []) :
    reread p = [p] ↔ ((∃ c ∈ p, Text.isBlank c = true) → ' ' ∈ p) := by
  constructor
  · rintro same ⟨c, member, blank⟩
    unfold reread at same
    split at same
    next space => exact List.contains_iff_mem.mp space
    · have word : IsWord p := Text.isWord_of_mem_words p p (same ▸ List.mem_singleton_self p)
      rw [word.2 c member] at blank
      cases blank
  · intro spaced
    unfold reread
    split
    · rfl
    next spaceless =>
      refine Text.words_of_isWord p ⟨nonempty, fun c member => ?_⟩
      rw [← Bool.not_eq_true]
      exact fun blank => spaceless (List.contains_iff_mem.mpr (spaced ⟨c, member, blank⟩))

/-- What was read again is read the same once more. -/
theorem reread_of_mem_reread (p q : Text) (member : p ∈ reread q) : reread p = [p] := by
  unfold reread at member
  split at member
  next space =>
    obtain rfl := List.mem_singleton.mp member
    exact if_pos space
  · exact reread_of_isWord p (Text.isWord_of_mem_words q p member)

theorem flatMap_reread_eq_iff (ps : List Text) :
    ps.flatMap reread = ps ↔ ∀ p ∈ ps, reread p = [p] := by
  constructor
  · intro same p member
    obtain ⟨q, -, inside⟩ := List.mem_flatMap.mp (same.symm ▸ member)
    exact reread_of_mem_reread p q inside
  · intro each
    rw [List.flatMap_def, List.map_congr_left each, ← List.flatMap_def, List.flatMap_singleton']

/-- The phrases of a text are the same when they are written down and read again, exactly if each
that has a blank in it has a space. -/
theorem splitPhrases_phrasesText_eq_iff (t : Text) :
    splitPhrases (phrasesText (splitPhrases t)) = splitPhrases t ↔
      ∀ p ∈ splitPhrases t, (∃ c ∈ p, Text.isBlank c = true) → ' ' ∈ p := by
  rw [splitPhrases_phrasesText _ ((cuts_splitPhrases t).phraseRow t _), flatMap_reread_eq_iff]
  exact forall₂_congr fun p member =>
    reread_eq_singleton_iff p (ne_nil_of_mem_splitPhrases t p member)

/-- A phrase with a tab between its words, in quotes. -/
def tabbedPhrases : Text := "get \x22pick\tup\x22".toList

/-- The tab is written without quotes, so that the phrase falls apart. -/
theorem tabbedPhrases_broken :
    splitPhrases tabbedPhrases = ["get".toList, "pick\tup".toList] ∧
      splitPhrases (phrasesText (splitPhrases tabbedPhrases)) =
        ["get".toList, "pick".toList, "up".toList] ∧
      splitPhrases (phrasesText (splitPhrases tabbedPhrases)) ≠ splitPhrases tabbedPhrases := by
  decide +kernel

end TextAdventure.Grammar
