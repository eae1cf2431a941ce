import TextAdventure.Proofs.Text.Trim

/-!
Lines. A text of unbroken lines, each with a line feed behind it, is cut back into those lines
(`lines_unlines`). Blanks at the end of a text make its last line longer and add lines that are
blank; they change no line otherwise (`lines_append_blanks`). Two texts with a line feed between
them have the lines of the first and then those of the second, with at most an empty one in between
(`exists_lines_append_newline`).
-/
namespace TextAdventure.Text

def IsUnbroken (t : Text) : Prop := ∀ c ∈ t, isLineBreak c = false

instance (t : Text) : Decidable (IsUnbroken t) :=
  decidable_of_iff ((t.all fun c => !isLineBreak c) = true) (by simp [IsUnbroken])

/-- The lines with a line feed behind each. -/
def unlines (ls : List Text) : Text := ls.flatMap (· ++ ['\n'])

theorem join_append_newline (ls : List Text) (nonempty : ls ≠ []) :
    join ['\n'] ls ++ ['\n'] = unlines ls := by
  induction ls with
  | nil => exact absurd rfl nonempty
  | cons l ls ih =>
    cases ls with
    | nil => simp [join, unlines]
    | cons m ls =>
      rw [join, List.append_assoc, ih (List.cons_ne_nil m ls)]
      rfl

theorem isBlank_of_isLineBreak (c : Char) (breaks : isLineBreak c = true) : isBlank c = true := by
  simp only [isLineBreak, isBlank, Bool.or_eq_true, Bool.and_eq_true, decide_eq_true_eq,
    beq_iff_eq] at *
  omega

@[simp] theorem isUnbroken_nil : IsUnbroken [] := List.forall_mem_nil _

@[simp] theorem isUnbroken_cons (c : Char) (t : Text) :
    IsUnbroken (c :: t) ↔ isLineBreak c = false ∧ IsUnbroken t := List.forall_mem_cons

@[simp] theorem isUnbroken_append (t u : Text) : IsUnbroken (t ++ u) ↔ IsUnbroken t ∧ IsUnbroken u :=
  List.forall_mem_append

theorem isUnbroken_of_solid (t : Text) (solid : ∀ c ∈ t, isBlank c = false) : IsUnbroken t := by
  intro c member
  cases breaks : isLineBreak c with
  | false => rfl
  | true =>
    have blank := isBlank_of_isLineBreak c breaks
    rw [solid c member] at blank
    cases blank

theorem isUnbroken_unwords (ws : List Text) (unbroken : ∀ w ∈ ws, IsUnbroken w) :
    IsUnbroken (unwords ws) := by
  induction ws with
  | nil => exact List.forall_mem_nil _
  | cons w ws ih =>
    obtain ⟨first, later⟩ := List.forall_mem_cons.mp unbroken
    cases ws with
    | nil => exact first
    | cons v ws =>
      have split : unwords (w :: v :: ws) = w ++ ' ' :: unwords (v :: ws) := List.append_assoc ..
      rw [split, isUnbroken_append, isUnbroken_cons]
      exact ⟨first, rfl, ih later⟩

/-! ### Cutting -/

theorem lines_cons (c : Char) (t : Text) (unbroken : isLineBreak c = false) :
    lines (c :: t) = consLine c (lines t) := by
  have alone : ∀ u, c = '\r' → t = '\n' :: u → False := by
    rintro u rfl -
    cases unbroken
  rw [lines.eq_3 c t alone, unbroken]
  rfl

theorem lines_append_newline (l t : Text) (unbroken : IsUnbroken l) :
    lines (l ++ '\n' :: t) = l :: lines t := by
  induction l with
  | nil => rfl
  | cons c l ih =>
    obtain ⟨first, later⟩ := List.forall_mem_cons.mp unbroken
    rw [List.cons_append, lines_cons c _ first, ih later, consLine]

/-- Cutting undoes putting lines together. -/
theorem lines_unlines (ls : List Text) (unbroken : ∀ l ∈ ls, IsUnbroken l) :
    lines (unlines ls) = ls := by
  induction ls with
  | nil => rfl
  | cons l ls ih =>
    obtain ⟨first, later⟩ := List.forall_mem_cons.mp unbroken
    have split : unlines (l :: ls) = l ++ '\n' :: unlines ls := by simp [unlines]
    rw [split, lines_append_newline l _ first, ih later]

theorem mem_consLine (c d : Char) (l : Text) (ls : List Text) (member : l ∈ consLine c ls)
    (inside : d ∈ l) : d = c ∨ ∃ m ∈ ls, d ∈ m := by
  cases ls with
  | nil =>
    obtain rfl := List.mem_singleton.mp member
    exact .inl (List.mem_singleton.mp inside)
  | cons m ls =>
    rcases List.mem_cons.mp member with rfl | later
    · exact (List.mem_cons.mp inside).imp id fun rest => ⟨m, List.mem_cons_self, rest⟩
    · exact .inr ⟨l, List.mem_cons_of_mem m later, inside⟩

/-- The characters of the lines are those of the text that break no line. -/
theorem mem_of_mem_lines (t l : Text) (c : Char) (member : l ∈ lines t) (inside : c ∈ l) :
    c ∈ t ∧ isLineBreak c = false := by
  fun_induction lines t generalizing l with
  | case1 => cases member
  | case2 t ih =>
    rcases List.mem_cons.mp member with rfl | later
    · cases inside
    · exact (ih l later inside).imp (fun behind => by simp [behind]) id
  | case3 d t _ _ ih =>
    rcases List.mem_cons.mp member with rfl | later
    · cases inside
    · exact (ih l later inside).imp (List.mem_cons_of_mem d) id
  | case4 d t _ unbroken ih =>
    rcases mem_consLine d c l _ member inside with rfl | ⟨m, later, rest⟩
    · exact ⟨List.mem_cons_self, by simpa using unbroken⟩
    · exact (ih m later rest).imp (List.mem_cons_of_mem d) id

theorem isUnbroken_of_mem_lines (t l : Text) (member : l ∈ lines t) : IsUnbroken l :=
  fun c inside => (mem_of_mem_lines t l c member inside).2

/-- A text without breaks is its only line. -/
theorem lines_of_isUnbroken (l : Text) (unbroken : IsUnbroken l) (nonempty : l ≠ []) :
    lines l = [l] := by
  induction l with
  | nil => exact absurd rfl nonempty
  | cons c l ih =>
    obtain ⟨first, later⟩ := List.forall_mem_cons.mp unbroken
    rw [lines_cons c l first]
    cases l with
    | nil => rfl
    | cons d l => rw [ih later (List.cons_ne_nil d l), consLine]

theorem lines_ne_nil (t : Text) (nonempty : t ≠ []) : lines t ≠ [] := by
  fun_induction lines t with
  | case1 => exact absurd rfl nonempty
  | case2 => exact List.cons_ne_nil _ _
  | case3 => exact List.cons_ne_nil _ _
  | case4 c t =>
    cases lines t with
    | nil => exact List.cons_ne_nil _ _
    | cons => exact List.cons_ne_nil _ _

/-- Between the lines of two texts with a line feed between them there may be an empty one, where
the first text is empty or ends in a break. -/
theorem exists_lines_append_newline (t u : Text) :
    ∃ k, lines (t ++ '\n' :: u) = lines t ++ List.replicate k [] ++ lines u := by
  fun_induction lines t with
  | case1 => exact ⟨1, rfl⟩
  | case2 t ih =>
    obtain ⟨k, split⟩ := ih
    exact ⟨k, congrArg ([] :: ·) split⟩
  | case3 c t alone breaks ih =>
    by_cases last : t = []
    · subst last
      -- the line feed may belong to the break in front of it
      by_cases carriage : c = '\r'
      · subst carriage
        exact ⟨0, rfl⟩
      · have apart : ∀ v, c = '\r' → '\n' :: u = '\n' :: v → False := fun _ same _ => carriage same
        refine ⟨1, ?_⟩
        rw [List.cons_append, List.nil_append, lines.eq_3 c _ apart, breaks]
        rfl
    · obtain ⟨d, t, rfl⟩ := List.exists_cons_of_ne_nil last
      obtain ⟨k, split⟩ := ih
      have apart : ∀ v, c = '\r' → d :: t ++ '\n' :: u = '\n' :: v → False :=
        fun _ carriage feed => alone t carriage (congrArg (· :: t) (List.cons.inj feed).1)
      refine ⟨k, ?_⟩
      rw [List.cons_append, lines.eq_3 c _ apart, breaks, if_pos rfl, split]
      rfl
  | case4 c t _ unbroken ih =>
    have solid : isLineBreak c = false := by simpa using unbroken
    by_cases last : t = []
    · subst last
      exact ⟨0, lines_append_newline [c] u (List.forall_mem_singleton.mpr solid)⟩
    · obtain ⟨l, ls, cut⟩ := List.exists_cons_of_ne_nil (lines_ne_nil t last)
      obtain ⟨k, split⟩ := ih
      refine ⟨k, ?_⟩
      rw [List.cons_append, lines_cons c _ solid, split, cut]
      rfl

/-! ### Blanks at the end -/

/-- Whether the lines `ms` are the lines `ls` with blanks behind them and blank lines after them. -/
def SameUpToBlanks (ls ms : List Text) : Prop :=
  ∃ k, ms.map trimEnd = ls.map trimEnd ++ List.replicate k []

theorem sameUpToBlanks_lines (b : Text) (blanks : ∀ c ∈ b, isBlank c = true) :
    SameUpToBlanks [] (lines b) := by
  refine ⟨(lines b).length, List.eq_replicate_iff.mpr ⟨by simp, fun u member => ?_⟩⟩
  obtain ⟨l, inside, rfl⟩ := List.mem_map.mp member
  exact trimEnd_blanks l fun c hc => blanks c (mem_of_mem_lines b l c inside hc).1

theorem SameUpToBlanks.cons (l : Text) (ls ms : List Text) (same : SameUpToBlanks ls ms) :
    SameUpToBlanks (l :: ls) (l :: ms) := by
  obtain ⟨k, equal⟩ := same
  exact ⟨k, by rw [List.map_cons, List.map_cons, equal, List.cons_append]⟩

theorem SameUpToBlanks.consLine (c : Char) (ls ms : List Text) (same : SameUpToBlanks ls ms) :
    SameUpToBlanks (consLine c ls) (consLine c ms) := by
  obtain ⟨k, equal⟩ := same
  have longer (l m : Text) (rest : trimEnd m = trimEnd l) : trimEnd (c :: m) = trimEnd (c :: l) := by
    rw [trimEnd, trimEnd, rest]
  -- the character joins the first line on either side, or makes it if there is none
  cases ls with
  | nil =>
    cases ms with
    | nil => exact ⟨0, rfl⟩
    | cons m ms =>
      cases k with
      | zero => cases equal
      | succ k =>
        obtain ⟨first, later⟩ := List.cons.inj equal
        exact ⟨k, by simp only [Text.consLine, List.map_cons, longer [] m first, later]; rfl⟩
  | cons l ls =>
    cases ms with
    | nil => cases equal
    | cons m ms =>
      obtain ⟨first, later⟩ := List.cons.inj equal
      exact ⟨k, by simp only [Text.consLine, List.map_cons, longer l m first, later]; rfl⟩

theorem lines_append_blanks (t b : Text) (blanks : ∀ c ∈ b, isBlank c = true) :
    SameUpToBlanks (lines t) (lines (t ++ b)) := by
  fun_induction lines t with
  | case1 => exact sameUpToBlanks_lines b blanks
  | case2 t ih => exact ih.cons []
  | case3 c t alone breaks ih =>
    -- the blanks may begin with the line feed of a carriage return
    by_cases fed : ∃ u, c = '\r' ∧ t ++ b = '\n' :: u
    · obtain ⟨u, rfl, split⟩ := fed
      cases t with
      | nil =>
        obtain rfl : b = '\n' :: u := split
        exact (sameUpToBlanks_lines u fun d hd => blanks d (List.mem_cons_of_mem _ hd)).cons []
      | cons d t =>
        obtain ⟨rfl, -⟩ := List.cons.inj split
        exact (alone t rfl rfl).elim
    · have still : ∀ u, c = '\r' → t ++ b = '\n' :: u → False :=
        fun u carriage split => fed ⟨u, carriage, split⟩
      rw [List.cons_append, lines.eq_3 c (t ++ b) still, breaks]
      exact ih.cons []
  | case4 c t _ unbroken ih =>
    rw [List.cons_append, lines_cons c _ (by simpa using unbroken)]
    exact ih.consLine c

end TextAdventure.Text
