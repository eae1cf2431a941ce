import TextAdventure.Proofs.Text.Words

/-!
Trimming: what is dropped at either end is blank, a text without blanks comes back from any blanks
put around it, and nothing is dropped from a text that begins and ends with something solid
(`IsTrimmed`), such as words joined by spaces.
-/
namespace TextAdventure.Text

theorem trimEnd_split (t : Text) : ∃ b, (∀ c ∈ b, isBlank c = true) ∧ t = trimEnd t ++ b := by
  induction t with
  | nil => exact ⟨[], List.forall_mem_nil _, rfl⟩
  | cons c t ih =>
    obtain ⟨b, blanks, split⟩ := ih
    unfold trimEnd
    split
    next empty =>
      rw [empty, List.nil_append] at split
      split
      next blank =>
        refine ⟨c :: b, fun d member => ?_, by rw [split, List.nil_append]⟩
        rcases List.mem_cons.1 member with rfl | later
        · exact blank
        · exact blanks d later
      · exact ⟨b, blanks, by rw [split]; rfl⟩
    · exact ⟨b, blanks, by rw [List.cons_append, ← split]⟩

theorem trim_split (t : Text) :
    ∃ b b', (∀ c ∈ b, isBlank c = true) ∧ (∀ c ∈ b', isBlank c = true) ∧ t = b ++ trim t ++ b' := by
  obtain ⟨b', blanks, split⟩ := trimEnd_split (trimStart t)
  refine ⟨t.takeWhile isBlank, b', List.all_eq_true.1 List.all_takeWhile, blanks, ?_⟩
  unfold trim
  rw [List.append_assoc, ← split]
  exact List.takeWhile_append_dropWhile.symm

theorem trimEnd_blanks (b : Text) (blanks : ∀ c ∈ b, isBlank c = true) : trimEnd b = [] := by
  induction b with
  | nil => rfl
  | cons c b ih =>
    obtain ⟨blank, later⟩ := List.forall_mem_cons.1 blanks
    rw [trimEnd, ih later]
    exact if_pos blank

theorem trimEnd_append_blanks (w b : Text) (solid : ∀ c ∈ w, isBlank c = false)
    (blanks : ∀ c ∈ b, isBlank c = true) : trimEnd (w ++ b) = w := by
  induction w with
  | nil => exact trimEnd_blanks b blanks
  | cons c w ih =>
    obtain ⟨head, later⟩ := List.forall_mem_cons.1 solid
    rw [List.cons_append, trimEnd, ih later]
    cases w with
    | nil => exact if_neg (by simp [head])
    | cons => rfl

theorem trim_blanks_append (b w b' : Text) (front : ∀ c ∈ b, isBlank c = true)
    (solid : ∀ c ∈ w, isBlank c = false) (blanks : ∀ c ∈ b', isBlank c = true) (nonempty : w ≠ []) :
    trim (b ++ w ++ b') = w := by
  obtain ⟨c, w, rfl⟩ := List.exists_cons_of_ne_nil nonempty
  have start : trimStart (b ++ (c :: w) ++ b') = c :: w ++ b' := by
    unfold trimStart
    rw [List.append_assoc, List.dropWhile_append_of_pos front, List.cons_append]
    exact List.dropWhile_cons_of_neg (by simp [solid c List.mem_cons_self])
  unfold trim
  rw [start, trimEnd_append_blanks _ b' solid blanks]

/-! ### Trimmed texts -/

theorem trimStart_cons (t : Text) (c : Char) (solid : isBlank c = false) :
    trimStart (c :: t) = c :: t :=
  List.dropWhile_cons_of_neg (by simp [solid])

theorem trimEnd_cons (t : Text) (c : Char) (kept : trimEnd t ≠ [] ∨ isBlank c = false) :
    trimEnd (c :: t) = c :: trimEnd t := by
  rw [trimEnd]
  split
  next empty =>
    have solid : isBlank c = false := kept.resolve_left (absurd empty)
    rw [empty, if_neg (by simp [solid])]
  · rfl

/-- Only what stands behind the last solid character can be dropped. -/
theorem trimEnd_append_solid (t u : Text) (c : Char) (solid : isBlank c = false) :
    trimEnd (t ++ c :: u) = t ++ c :: trimEnd u := by
  induction t with
  | nil => exact trimEnd_cons u c (.inr solid)
  | cons d t ih =>
    rw [List.cons_append, trimEnd_cons _ d (.inl (by simp [ih])), ih, List.cons_append]

theorem trimEnd_last (t : Text) (nonempty : trimEnd t ≠ []) :
    ∃ u c, trimEnd t = u ++ [c] ∧ isBlank c = false := by
  induction t with
  | nil => exact absurd rfl nonempty
  | cons c t ih =>
    by_cases rest : trimEnd t = []
    · cases blank : isBlank c with
      | true => exact absurd (by simp [trimEnd, rest, blank]) nonempty
      | false => exact ⟨[], c, by simp [trimEnd, rest, blank], blank⟩
    · obtain ⟨v, d, stop, solid⟩ := ih rest
      exact ⟨c :: v, d, by rw [trimEnd_cons t c (.inl rest), stop, List.cons_append], solid⟩

theorem trimEnd_trimEnd (t : Text) : trimEnd (trimEnd t) = trimEnd t := by
  by_cases nonempty : trimEnd t = []
  · rw [nonempty]
    rfl
  · obtain ⟨u, c, stop, solid⟩ := trimEnd_last t nonempty
    rw [stop]
    exact trimEnd_append_solid u [] c solid

/-- It does not matter at which end blanks are dropped first. -/
theorem trimStart_trimEnd (t : Text) : trimStart (trimEnd t) = trim t := by
  induction t with
  | nil => rfl
  | cons c t ih =>
    cases blank : isBlank c with
    | true =>
      have start (u : Text) : trimStart (c :: u) = trimStart u := List.dropWhile_cons_of_pos blank
      rw [trim, start, ← trim, ← ih]
      by_cases rest : trimEnd t = []
      · simp [trimEnd, rest, blank]
      · rw [trimEnd_cons t c (.inl rest), start]
    | false =>
      rw [trim, trimStart_cons t c blank, trimEnd_cons t c (.inr blank), trimStart_cons _ c blank]

theorem trim_trimEnd (t : Text) : trim (trimEnd t) = trim t := by
  rw [← trimStart_trimEnd, trimEnd_trimEnd, trimStart_trimEnd]

/-- Whether the text begins and ends with characters that are not blank. -/
structure IsTrimmed (t : Text) : Prop where
  head : ∃ c u, t = c :: u ∧ isBlank c = false
  last : ∃ u c, t = u ++ [c] ∧ isBlank c = false

theorem IsTrimmed.ne_nil (t : Text) (trimmed : IsTrimmed t) : t ≠ [] := by
  obtain ⟨c, u, rfl, -⟩ := trimmed.head
  exact List.cons_ne_nil c u

/-- Behind a trimmed text blanks are dropped at the end only. -/
theorem IsTrimmed.trim_append (t u : Text) (trimmed : IsTrimmed t) :
    trim (t ++ u) = t ++ trimEnd u := by
  obtain ⟨⟨c, v, start, solid⟩, v', c', stop, solid'⟩ := trimmed
  have whole := trimEnd_append_solid v' u c' solid'
  rw [trim, start, List.cons_append, trimStart_cons _ c solid, ← List.cons_append, ← start, stop,
    List.append_assoc, List.singleton_append, whole, List.append_assoc, List.singleton_append]

theorem IsTrimmed.trim_eq (t : Text) (trimmed : IsTrimmed t) : trim t = t := by
  have whole := trimmed.trim_append t []
  rwa [trimEnd, List.append_nil] at whole

theorem IsTrimmed.append (t m u : Text) (front : IsTrimmed t) (behind : IsTrimmed u) :
    IsTrimmed (t ++ m ++ u) := by
  obtain ⟨c, v, rfl, solid⟩ := front.head
  obtain ⟨v', c', rfl, solid'⟩ := behind.last
  exact ⟨⟨c, v ++ m ++ (v' ++ [c']), by simp, solid⟩, ⟨c :: v ++ m ++ v', c', by simp, solid'⟩⟩

theorem isTrimmed_of_solid (t : Text) (nonempty : t ≠ []) (solid : ∀ c ∈ t, isBlank c = false) :
    IsTrimmed t := by
  constructor
  · obtain ⟨c, u, rfl⟩ := List.exists_cons_of_ne_nil nonempty
    exact ⟨c, u, rfl, solid c List.mem_cons_self⟩
  · obtain ⟨u, c, rfl⟩ := (List.eq_nil_or_concat t).resolve_left nonempty
    exact ⟨u, c, List.concat_eq_append, solid c (by simp)⟩

theorem isTrimmed_unwords (ws : List Text) (nonempty : ws ≠ []) (trimmed : ∀ w ∈ ws, IsTrimmed w) :
    IsTrimmed (unwords ws) := by
  induction ws with
  | nil => exact absurd rfl nonempty
  | cons w ws ih =>
    obtain ⟨first, later⟩ := List.forall_mem_cons.mp trimmed
    cases ws with
    | nil => exact first
    | cons v ws => exact first.append w [' '] _ (ih (List.cons_ne_nil v ws) later)

theorem isTrimmed_trim (t : Text) (nonempty : trim t ≠ []) : IsTrimmed (trim t) := by
  refine ⟨?_, trimEnd_last _ nonempty⟩
  rw [← trimStart_trimEnd] at nonempty ⊢
  obtain ⟨c, u, start⟩ := List.exists_cons_of_ne_nil nonempty
  have stops := List.head?_dropWhile_not isBlank (trimEnd t)
  rw [← trimStart, start] at stops
  exact ⟨c, u, start, stops⟩

theorem mem_of_mem_trimEnd (t : Text) (c : Char) (member : c ∈ trimEnd t) : c ∈ t := by
  obtain ⟨b, -, split⟩ := trimEnd_split t
  rw [split]
  exact List.mem_append_left b member

theorem mem_of_mem_trim (t : Text) (c : Char) (member : c ∈ trim t) : c ∈ t := by
  obtain ⟨b, b', -, -, split⟩ := trim_split t
  rw [split]
  exact List.mem_append_left b' (List.mem_append_right b member)

/-- Something is left of a text that ends in a solid character. -/
theorem isTrimmed_trim_of_last (t u : Text) (c : Char) (stop : t = u ++ [c])
    (solid : isBlank c = false) : IsTrimmed (trim t) := by
  refine isTrimmed_trim t fun empty => ?_
  obtain ⟨b, b', blanks, blanks', split⟩ := trim_split t
  have member : c ∈ b ++ trim t ++ b' := by rw [← split, stop]; simp
  have blank : isBlank c = true := by
    rw [empty, List.append_nil] at member
    exact (List.mem_append.mp member).elim (blanks c) (blanks' c)
  rw [blank] at solid
  cases solid

theorem trim_unwords (ws : List Text) (proper : ∀ w ∈ ws, IsWord w) :
    trim (unwords ws) = unwords ws := by
  by_cases nonempty : ws = []
  · rw [nonempty]
    rfl
  · have trimmed : ∀ w ∈ ws, IsTrimmed w := fun w member =>
      isTrimmed_of_solid w (proper w member).1 (proper w member).2
    exact (isTrimmed_unwords ws nonempty trimmed).trim_eq

end TextAdventure.Text
