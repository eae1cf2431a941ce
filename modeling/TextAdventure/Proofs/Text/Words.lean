import TextAdventure.Text.Blank

/-!
Words and single-spaced text. A text is cut into words at its blanks, and words are joined by single
spaces; the first undoes the second (`words_unwords`). The text behind a word is either empty or
begins with a space, and `afterWord` names it: a reader that stops at the end of a word stands in
front of such a text.
-/
namespace TextAdventure.Text

/-- A text that is not empty and has no blank in it. -/
def IsWord (w : Text) : Prop := w ≠ [] ∧ ∀ c ∈ w, isBlank c = false

instance (w : Text) : Decidable (IsWord w) :=
  decidable_of_iff (w ≠ [] ∧ (w.all fun c => !isBlank c) = true) (by simp [IsWord])

/-- The words with a space in front of each. -/
def afterWord (ws : List Text) : Text := ws.flatMap (' ' :: ·)

@[simp] theorem afterWord_nil : afterWord [] = [] := rfl

@[simp] theorem afterWord_cons (w : Text) (ws : List Text) :
    afterWord (w :: ws) = ' ' :: (w ++ afterWord ws) := rfl

theorem afterWord_append (us ws : List Text) :
    afterWord (us ++ ws) = afterWord us ++ afterWord ws := List.flatMap_append

@[simp] theorem unwords_nil : unwords [] = [] := rfl

theorem unwords_cons (w : Text) (ws : List Text) : unwords (w :: ws) = w ++ afterWord ws := by
  induction ws generalizing w with
  | nil => exact (List.append_nil w).symm
  | cons u us ih =>
    have step : unwords (w :: u :: us) = w ++ [' '] ++ unwords (u :: us) := rfl
    rw [step, ih u, afterWord_cons, List.append_assoc, List.singleton_append]

/-- What stands behind a word does not continue it. -/
theorem isBlank_head_afterWord (ws : List Text) :
    ∀ c ∈ (afterWord ws).head?, isBlank c = true := by
  intro c first
  cases ws with
  | nil => cases first
  | cons w ws =>
    obtain rfl := Option.some.inj first
    rfl

theorem space_cons_unwords (ws : List Text) (nonempty : ws ≠ []) :
    ' ' :: unwords ws = afterWord ws := by
  cases ws with
  | nil => exact absurd rfl nonempty
  | cons w ws => rw [unwords_cons, afterWord_cons]

theorem length_unwords_succ (ws : List Text) (nonempty : ws ≠ []) :
    (unwords ws).length + 1 = (afterWord ws).length := by
  rw [← space_cons_unwords ws nonempty, List.length_cons]

/-- The words with a space behind each. -/
def beforeWord (ws : List Text) : Text := ws.flatMap (· ++ [' '])

theorem beforeWord_cons (w : Text) (ws : List Text) :
    beforeWord (w :: ws) = w ++ ' ' :: beforeWord ws := by
  rw [beforeWord, List.flatMap_cons, List.append_assoc]
  rfl

theorem beforeWord_append (us ws : List Text) :
    beforeWord (us ++ ws) = beforeWord us ++ beforeWord ws := List.flatMap_append

theorem length_beforeWord (ws : List Text) :
    (beforeWord ws).length = (afterWord ws).length := by
  induction ws with
  | nil => rfl
  | cons w ws ih =>
    rw [beforeWord_cons, afterWord_cons, List.length_append, List.length_cons, List.length_cons,
      List.length_append, ih]
    omega

theorem unwords_append (us ws : List Text) (nonempty : ws ≠ []) :
    unwords (us ++ ws) = beforeWord us ++ unwords ws := by
  induction us with
  | nil => rfl
  | cons u us ih =>
    have behind := space_cons_unwords (us ++ ws) (List.append_ne_nil_of_right_ne_nil us nonempty)
    rw [List.cons_append, unwords_cons, ← behind, ih, beforeWord_cons, List.append_assoc,
      List.cons_append]

theorem unwords_append_afterWord (us ws : List Text) (nonempty : us ≠ []) :
    unwords (us ++ ws) = unwords us ++ afterWord ws := by
  cases us with
  | nil => exact absurd rfl nonempty
  | cons u us =>
    rw [List.cons_append, unwords_cons, unwords_cons, afterWord_append, List.append_assoc]

/-- Phrases joined by spaces are their words joined by spaces. -/
theorem afterWord_map_unwords (phrases : List (List Text)) (nonempty : ∀ ws ∈ phrases, ws ≠ []) :
    afterWord (phrases.map unwords) = afterWord phrases.flatten := by
  induction phrases with
  | nil => rfl
  | cons ws phrases ih =>
    obtain ⟨first, later⟩ := List.forall_mem_cons.mp nonempty
    rw [List.map_cons, afterWord_cons, ih later, List.flatten_cons, afterWord_append,
      ← space_cons_unwords ws first, List.cons_append]

/-! ### Counting words by their spaces -/

theorem count_space_of_isWord (w : Text) (word : IsWord w) : w.count ' ' = 0 := by
  refine List.count_eq_zero.mpr fun member => ?_
  have solid := word.2 ' ' member
  have blank : isBlank ' ' = true := by decide
  rw [blank] at solid
  cases solid

theorem count_space_beforeWord (ws : List Text) (proper : ∀ w ∈ ws, IsWord w) :
    (beforeWord ws).count ' ' = ws.length := by
  induction ws with
  | nil => rfl
  | cons w ws ih =>
    obtain ⟨word, later⟩ := List.forall_mem_cons.mp proper
    rw [beforeWord_cons, List.count_append, List.count_cons_self, count_space_of_isWord w word,
      ih later, Nat.zero_add, List.length_cons]

theorem count_space_unwords (ws : List Text) (nonempty : ws ≠ []) (proper : ∀ w ∈ ws, IsWord w) :
    (unwords ws).count ' ' + 1 = ws.length := by
  -- every word but the last has a space behind it
  obtain ⟨us, w, rfl⟩ := (List.eq_nil_or_concat ws).resolve_left nonempty
  rw [List.concat_eq_append] at proper ⊢
  obtain ⟨properInit, last⟩ := List.forall_mem_append.mp proper
  have word : IsWord w := last w (List.mem_singleton_self w)
  have single : unwords [w] = w := rfl
  rw [unwords_append us [w] (List.cons_ne_nil w []), single, List.count_append,
    count_space_beforeWord us properInit, count_space_of_isWord w word, List.length_append]
  rfl

/-! ### Cutting a single-spaced text -/

theorem splitWords_append (w t : Text) (solid : ∀ c ∈ w, isBlank c = false) :
    splitWords (w ++ t) = (w ++ (splitWords t).1, (splitWords t).2) := by
  induction w with
  | nil => rfl
  | cons c w ih =>
    have tail := ih fun d hd => solid d (List.mem_cons_of_mem c hd)
    have head : isBlank c = false := solid c List.mem_cons_self
    simp only [List.cons_append, splitWords, tail, head, Bool.false_eq_true, if_false]

theorem splitWords_afterWord (ws : List Text) (proper : ∀ w ∈ ws, IsWord w) :
    splitWords (afterWord ws) = ([], ws) := by
  induction ws with
  | nil => rfl
  | cons w ws ih =>
    have word : IsWord w := proper w List.mem_cons_self
    have tail := ih fun u hu => proper u (List.mem_cons_of_mem w hu)
    have split : splitWords (w ++ afterWord ws) = (w, ws) := by
      rw [splitWords_append w _ word.2, tail, List.append_nil]
    have blank : isBlank ' ' = true := by decide
    have kept : w.isEmpty = false := by simpa using word.1
    simp only [afterWord_cons, splitWords, split, blank, if_true, consWord, kept,
      Bool.false_eq_true, if_false]

/-- Cutting undoes joining. -/
theorem words_unwords (ws : List Text) (proper : ∀ w ∈ ws, IsWord w) :
    words (unwords ws) = ws := by
  cases ws with
  | nil => rfl
  | cons w ws =>
    have word : IsWord w := proper w List.mem_cons_self
    have tail := splitWords_afterWord ws fun u hu => proper u (List.mem_cons_of_mem w hu)
    have kept : w.isEmpty = false := by simpa using word.1
    simp only [words, unwords_cons, splitWords_append w _ word.2, tail, List.append_nil, consWord,
      kept, Bool.false_eq_true, if_false]

theorem words_of_isWord (w : Text) (word : IsWord w) : words w = [w] :=
  words_unwords [w] fun _ hu => List.mem_singleton.mp hu ▸ word

/-! ### Cutting at a blank -/

theorem isBlank_space : isBlank ' ' = true := by decide

theorem consWord_append (w : Text) (ws vs : List Text) :
    consWord w (ws ++ vs) = consWord w ws ++ vs := by cases w <;> rfl

theorem splitWords_append_blank (t u : Text) (c : Char) (blank : isBlank c = true) :
    splitWords (t ++ c :: u) = ((splitWords t).1, (splitWords t).2 ++ words u) := by
  induction t with
  | nil => simp [splitWords, blank, words]
  | cons d t ih => cases front : isBlank d <;> simp [splitWords, ih, front, consWord_append]

/-- A blank ends whatever word stands before it. -/
theorem words_append_blank (t u : Text) (c : Char) (blank : isBlank c = true) :
    words (t ++ c :: u) = words t ++ words u := by
  calc words (t ++ c :: u)
      = consWord (splitWords t).1 ((splitWords t).2 ++ words u) := by
        rw [words, splitWords_append_blank t u c blank]
    _ = words t ++ words u := consWord_append _ _ _

theorem words_cons_blank (t : Text) (c : Char) (blank : isBlank c = true) :
    words (c :: t) = words t := words_append_blank [] t c blank

/-- A word is cut off whatever does not continue it. -/
theorem words_append_of_isWord (w t : Text) (word : IsWord w)
    (apart : ∀ c ∈ t.head?, isBlank c = true) : words (w ++ t) = w :: words t := by
  cases t with
  | nil =>
    rw [List.append_nil, words_of_isWord w word]
    rfl
  | cons c t =>
    have blank : isBlank c = true := apart c rfl
    rw [words_append_blank w t c blank, words_of_isWord w word, words_cons_blank t c blank]
    rfl

/-- What stands between two spaces keeps its words. -/
theorem words_infix (p t : Text) (occurs : ' ' :: p ++ [' '] <:+: t) : words p <:+: words t := by
  obtain ⟨front, behind, rfl⟩ := occurs
  refine ⟨words front, words behind, ?_⟩
  calc words front ++ words p ++ words behind
      = words front ++ words (p ++ ' ' :: behind) := by
        rw [words_append_blank p behind ' ' isBlank_space, List.append_assoc]
    _ = words (front ++ ' ' :: (p ++ ' ' :: behind)) :=
        (words_append_blank front _ ' ' isBlank_space).symm
    _ = words (front ++ (' ' :: p ++ [' ']) ++ behind) := by simp

/-! ### The pieces are words -/

theorem mem_consWord (w u : Text) (ws : List Text) (member : u ∈ consWord w ws) :
    (u = w ∧ w ≠ []) ∨ u ∈ ws := by
  cases w with
  | nil => exact Or.inr member
  | cons c w =>
    rcases List.mem_cons.mp member with rfl | tail
    · exact Or.inl ⟨rfl, List.cons_ne_nil c w⟩
    · exact Or.inr tail

theorem splitWords_pieces (t : Text) :
    (∀ c ∈ (splitWords t).1, isBlank c = false) ∧ ∀ w ∈ (splitWords t).2, IsWord w := by
  induction t with
  | nil => simp [splitWords]
  | cons c t ih =>
    obtain ⟨solid, proper⟩ := ih
    cases blank : isBlank c with
    | true =>
      simp only [splitWords, blank, if_true, List.not_mem_nil, false_implies, implies_true,
        true_and]
      intro w member
      rcases mem_consWord _ w _ member with ⟨rfl, nonempty⟩ | tail
      · exact ⟨nonempty, solid⟩
      · exact proper w tail
    | false =>
      simp only [splitWords, blank, Bool.false_eq_true, if_false]
      refine ⟨fun d hd => ?_, proper⟩
      rcases List.mem_cons.mp hd with rfl | tail
      · exact blank
      · exact solid d tail

theorem isWord_of_mem_words (t w : Text) (member : w ∈ words t) : IsWord w := by
  obtain ⟨solid, proper⟩ := splitWords_pieces t
  rcases mem_consWord _ w _ member with ⟨rfl, nonempty⟩ | tail
  · exact ⟨nonempty, solid⟩
  · exact proper w tail

theorem isBlank_of_words_eq_nil (t : Text) (empty : words t = []) : ∀ c ∈ t, isBlank c = true := by
  induction t with
  | nil => simp
  | cons c t ih =>
    cases blank : isBlank c with
    | true =>
      have same : words (c :: t) = words t := by simp [words, splitWords, blank, consWord]
      exact List.forall_mem_cons.mpr ⟨blank, ih (same ▸ empty)⟩
    | false => simp [words, splitWords, blank, consWord] at empty

end TextAdventure.Text
