import TextAdventure.CommandLine.Markup
import TextAdventure.Proofs.CommandLine.Console

/-!
The console of a plain terminal reads markup as it should (`readsMarkup_console`). A tag is told by
its brackets, so a text without brackets has no tag in it. Escaping puts an odd number of
backslashes in front of each tag, and no other tag comes about where escaped text meets the text
behind it: the brackets there are those of the tag that closes the style of the line.
-/
namespace TextAdventure.Markup

open CommandLine

/-! ### Tags -/

theorem tagAt?_of_ne (a : Char) (t : Text) (bracket : a ≠ '[') (slash : a ≠ '\\') :
    tagAt? (a :: t) = none := by
  have none : (a :: t).takeWhile (· == '\\') = [] :=
    List.takeWhile_cons_of_neg (by simpa using slash)
  unfold tagAt?
  simp only [none]
  split
  next same =>
    injection same with same
    exact absurd same bracket
  · rfl

theorem tagAt?_slash (t : Text) :
    tagAt? ('\\' :: t) = (tagAt? t).map fun tag => (tag.1 + 1, tag.2) := by
  have one : ('\\' :: t).takeWhile (· == '\\') = '\\' :: t.takeWhile (· == '\\') :=
    List.takeWhile_cons_of_pos rfl
  unfold tagAt?
  simp only [one, List.length_cons, List.drop_succ_cons]
  split
  next u _ => cases tagBody? u <;> rfl
  · rfl

theorem tagAt?_bracket (t : Text) : tagAt? ('[' :: t) = (tagBody? t).map fun tag => (0, tag) := by
  have none : ('[' :: t).takeWhile (· == '\\') = [] := List.takeWhile_cons_of_neg (by decide)
  unfold tagAt?
  simp only [none]
  rfl

theorem tagAt?_of_avoids (t : Text) (avoids : Avoids brackets t) : tagAt? t = none := by
  induction t with
  | nil => rfl
  | cons a t ih =>
    obtain ⟨first, rest⟩ := List.forall_mem_cons.mp avoids
    by_cases slash : a = '\\'
    · rw [slash, tagAt?_slash, ih rest, Option.map_none]
    · exact tagAt?_of_ne a t (fun same => first (same ▸ List.mem_cons_self)) slash

/-- Whether the text is the body of a tag. -/
structure IsTag (tag : Text) : Prop where
  starts : tag.head?.any isTagStart = true
  avoids : Avoids brackets tag

instance (tag : Text) : Decidable (IsTag tag) :=
  decidable_of_iff (tag.head?.any isTagStart = true ∧ Avoids brackets tag)
    ⟨fun ⟨starts, avoids⟩ => ⟨starts, avoids⟩, fun ⟨starts, avoids⟩ => ⟨starts, avoids⟩⟩

theorem avoids_of_isTagStart (a : Char) (starts : isTagStart a = true) : a ∉ brackets := by
  intro bracket
  rcases List.mem_cons.mp bracket with rfl | bracket
  · cases starts
  · obtain rfl := List.mem_singleton.mp bracket
    cases starts

theorem tagBody?_eq_some_iff (t tag rest : Text) :
    tagBody? t = some (tag, rest) ↔ IsTag tag ∧ t = tag ++ ']' :: rest := by
  constructor
  · intro read
    unfold tagBody? at read
    split at read
    · cases read
    next a t =>
      simp only at read
      split at read
      next rest' behind =>
        split at read
        next starts =>
          cases read
          refine ⟨⟨starts, List.forall_mem_cons.mpr ⟨avoids_of_isTagStart a starts, ?_⟩⟩, ?_⟩
          · intro b member
            have inside := List.all_eq_true.mp List.all_takeWhile b member
            simpa using inside
          · rw [List.cons_append, ← behind]
            exact congrArg _ (List.prefix_iff_eq_append.mp (List.takeWhile_prefix _)).symm
        · cases read
      · cases read
  · rintro ⟨⟨starts, avoids⟩, rfl⟩
    cases tag with
    | nil => cases starts
    | cons a tag =>
      have first : isTagStart a = true := starts
      have inside : ∀ b ∈ tag, (b != '[' && b != ']') = true := by
        intro b member
        simpa using avoids b (List.mem_cons_of_mem a member)
      have taken : (tag ++ ']' :: rest).takeWhile (fun b => b != '[' && b != ']') = tag := by
        rw [List.takeWhile_append_of_pos inside, List.takeWhile_cons_of_neg (by decide),
          List.append_nil]
      rw [List.cons_append, tagBody?]
      simp only [taken, List.drop_left, first, if_true]

theorem isTag_of_tagAt? (t tag rest : Text) (n : Nat) (read : tagAt? t = some (n, tag, rest)) :
    IsTag tag := by
  unfold tagAt? at read
  simp only at read
  split at read
  · obtain ⟨inner, opened, same⟩ := Option.map_eq_some_iff.mp read
    cases same
    exact ((tagBody?_eq_some_iff _ tag rest).mp opened).1
  · cases read

theorem tagAt?_tag (n : Nat) (tag rest : Text) (body : IsTag tag) :
    tagAt? (List.replicate n '\\' ++ '[' :: tag ++ ']' :: rest) = some (n, tag, rest) := by
  induction n with
  | zero =>
    have opened : tagBody? (tag ++ ']' :: rest) = some (tag, rest) :=
      (tagBody?_eq_some_iff _ tag rest).mpr ⟨body, rfl⟩
    exact (tagAt?_bracket _).trans (congrArg _ opened)
  | succ n ih =>
    rw [List.replicate_succ, List.cons_append, List.cons_append, tagAt?_slash, ih, Option.map_some]

/-! ### Reading -/

section

variable (opened : List Text)

theorem render?_of_tagAt? (t tag rest : Text) (n : Nat) (read : tagAt? t = some (n, tag, rest)) :
    render? opened t =
      if n % 2 = 1 then
        (render? opened rest).map fun shown =>
          List.replicate (n / 2) '\\' ++ '[' :: tag ++ ']' :: shown
      else (openBehind? opened tag).bind fun later => (render? later rest).map fun shown =>
        List.replicate (n / 2) '\\' ++ shown := by
  cases t with
  | nil => cases read
  | cons a t =>
    rw [render?]
    split
    next read' =>
      obtain ⟨rfl, rfl, rfl⟩ : _ ∧ _ ∧ _ := by simpa using read'.symm.trans read
      rfl
    next read' =>
      rw [read'] at read
      cases read

theorem render?_of_none (a : Char) (t : Text) (read : tagAt? (a :: t) = none) :
    render? opened (a :: t) =
      if a = '\\' ∧ t.head? = some '[' then render? opened t
      else (render? opened t).map fun shown => a :: shown := by
  rw [render?]
  split
  next read' =>
    rw [read'] at read
    cases read
  · rfl

/-- Text is shown as it is up to the first bracket or backslash. -/
theorem render?_append (u t : Text) (avoids : Avoids ['[', ']', '\\'] u) :
    render? opened (u ++ t) = (render? opened t).map fun shown => u ++ shown := by
  induction u with
  | nil => exact Option.map_id'.symm
  | cons a u ih =>
    obtain ⟨first, rest⟩ := List.forall_mem_cons.mp avoids
    have bracket : a ≠ '[' := by
      rintro rfl
      exact first (by decide)
    have slash : a ≠ '\\' := by
      rintro rfl
      exact first (by decide)
    rw [List.cons_append, render?_of_none opened a _ (tagAt?_of_ne a _ bracket slash),
      if_neg fun escaped => slash escaped.1, ih rest, Option.map_map]
    rfl

/-- A character in front of a text that can be read leaves it so, unless a tag begins there. -/
theorem isSome_render?_cons (a : Char) (t : Text) (read : tagAt? (a :: t) = none)
    (later : (render? opened t).isSome = true) : (render? opened (a :: t)).isSome = true := by
  rw [render?_of_none opened a t read]
  split
  · exact later
  · rwa [Option.isSome_map]

theorem isSome_render?_of_avoids (t : Text) (avoids : Avoids brackets t) :
    (render? opened t).isSome = true := by
  induction t with
  | nil => rw [render?]; rfl
  | cons a t ih =>
    exact isSome_render?_cons opened a t (tagAt?_of_avoids _ avoids)
      (ih (List.forall_mem_cons.mp avoids).2)

end

/-! ### Escaping -/

theorem escapeTags_of_none (a : Char) (t : Text) (read : tagAt? (a :: t) = none) :
    escapeTags (a :: t) = a :: escapeTags t := by
  rw [escapeTags]
  split
  next read' =>
    rw [read'] at read
    cases read
  · rfl

theorem escapeTags_of_avoids (t : Text) (avoids : Avoids brackets t) : escapeTags t = t := by
  induction t with
  | nil => rw [escapeTags]
  | cons a t ih =>
    rw [escapeTags_of_none a t (tagAt?_of_avoids _ avoids), ih (List.forall_mem_cons.mp avoids).2]

theorem escape_cases (t : Text) : escape t = escapeTags t ∨ escape t = escapeTags t ++ ['\\'] := by
  unfold escape
  simp only
  split
  · exact .inr rfl
  · split
    · exact .inl rfl
    · exact .inr rfl
  · exact .inl rfl

theorem escape_of_avoids (t : Text) (avoids : Avoids brackets t)
    (ends : t.getLast? ≠ some '\\') : escape t = t := by
  unfold escape
  rw [← List.head?_reverse] at ends
  simp only [escapeTags_of_avoids t avoids]
  split
  next stop => exact absurd (congrArg List.head? stop) ends
  next stop => exact absurd (congrArg List.head? stop) ends
  · rfl

/-- A text in which one of two marks comes first is not one in which the other comes first. -/
theorem append_cons_ne (a b : Char) (u v p q : Text) (differ : a ≠ b) (behind : b ∉ u)
    (behind' : a ∉ v) : u ++ a :: p ≠ v ++ b :: q := by
  intro same
  rcases List.append_eq_append_iff.mp same with ⟨w, rfl, rest⟩ | ⟨w, rfl, rest⟩
  · cases w with
    | nil => exact differ (List.cons.inj rest).1
    | cons d w =>
      obtain ⟨rfl, -⟩ := List.cons.inj rest
      exact behind' (List.mem_append_right _ List.mem_cons_self)
  · cases w with
    | nil => exact differ (List.cons.inj rest).1.symm
    | cons d w =>
      obtain ⟨rfl, -⟩ := List.cons.inj rest
      exact behind (List.mem_append_right _ List.mem_cons_self)

/-- Whether the first bracket of the text, if there is one, is an opening bracket. -/
def OpensFirst (z : Text) : Prop := ∀ u rest, z = u ++ ']' :: rest → '[' ∈ u

/-- The text in front of the first closing bracket is not changed by escaping, if there is no opening
bracket in it. -/
theorem exists_of_escapeTags_append (t z u rest : Text) (behind : OpensFirst z)
    (avoids : Avoids brackets u) (same : escapeTags t ++ z = u ++ ']' :: rest) :
    ∃ rest', t = u ++ ']' :: rest' := by
  have unopened : '[' ∉ u := fun member => avoids _ member List.mem_cons_self
  fun_induction escapeTags t generalizing u with
  | case1 => exact absurd (behind u rest same) unopened
  | case2 a t n tag later read ih =>
    -- the escaped tag opens with a bracket, and there are but backslashes in front of it
    have slashes : ']' ∉ List.replicate (2 * n + 1) '\\' := by simp
    refine absurd ?_ (append_cons_ne '[' ']' _ u (tag ++ ']' :: escapeTags later ++ z) rest
      (by decide) slashes unopened)
    rw [← same]
    simp
  | case3 a t read ih =>
    cases u with
    | nil =>
      obtain ⟨rfl, -⟩ := List.cons.inj same
      exact ⟨t, rfl⟩
    | cons b u =>
      obtain ⟨rfl, later⟩ := List.cons.inj same
      obtain ⟨rest', rfl⟩ := ih u (List.forall_mem_cons.mp avoids).2 later
        (fun member => unopened (List.mem_cons_of_mem _ member))
      exact ⟨rest', rfl⟩

/-- Where no tag was, none comes about by escaping the text, but for a tag of the text behind
backslashes. -/
theorem tagAt?_escapeTags_append (t z : Text) (behind : OpensFirst z) (read : tagAt? t = none) :
    t = List.replicate t.length '\\' ∨ tagAt? (escapeTags t ++ z) = none := by
  induction t with
  | nil => exact .inl rfl
  | cons a t ih =>
    rw [escapeTags_of_none a t read, List.cons_append]
    by_cases slash : a = '\\'
    · rw [slash, tagAt?_slash, Option.map_eq_none_iff] at read ⊢
      rw [List.length_cons, List.replicate_succ, List.cons_inj_right]
      exact ih read
    by_cases bracket : a = '['
    · right
      rw [bracket, tagAt?_bracket, Option.map_eq_none_iff] at read ⊢
      cases found : tagBody? (escapeTags t ++ z) with
      | none => rfl
      | some tag =>
        obtain ⟨body, same⟩ := (tagBody?_eq_some_iff _ _ _).mp found
        obtain ⟨rest, here⟩ := exists_of_escapeTags_append t z _ _ behind body.avoids same
        rw [(tagBody?_eq_some_iff t tag.1 rest).mpr ⟨body, here⟩] at read
        cases read
    · exact .inr (tagAt?_of_ne a _ bracket slash)

theorem isSome_render?_escapeTags (opened : List Text) (t z : Text) (behind : OpensFirst z)
    (later : ∀ n, (render? opened (List.replicate n '\\' ++ z)).isSome = true) :
    (render? opened (escapeTags t ++ z)).isSome = true := by
  fun_induction escapeTags t with
  | case1 => exact later 0
  | case2 a t n tag rest read ih =>
    have tagged := tagAt?_tag (2 * n + 1) tag (escapeTags rest ++ z) (isTag_of_tagAt? _ _ _ _ read)
    rw [← List.cons_append, ← List.append_assoc] at tagged
    rw [render?_of_tagAt? opened _ _ _ _ tagged, if_pos (by omega), Option.isSome_map]
    exact ih
  | case3 a t read ih =>
    rcases tagAt?_escapeTags_append (a :: t) z behind read with slashes | untagged
    · have avoids : Avoids brackets (a :: t) := slashes ▸ avoids_replicate _ (by decide)
      rw [← escapeTags_of_none a t read, escapeTags_of_avoids _ avoids, slashes]
      exact later _
    · rw [escapeTags_of_none a t read] at untagged
      exact isSome_render?_cons opened a _ untagged ih

/-! ### Lines in a style -/

/-- The styles that are open inside a line. -/
def openedBy : Option Style → List Text
  | none => []
  | some s => [s.name]

/-- The tag behind a line. -/
def closing : Option Style → Text
  | none => []
  | some s => '[' :: '/' :: s.name ++ [']']

theorem openBehind?_name (s : Style) : openBehind? [] s.name = some [s.name] := by
  cases s <;> decide +kernel

theorem openBehind?_slash_name (s : Style) : openBehind? [s.name] ('/' :: s.name) = some [] := by
  cases s <;> decide +kernel

theorem isTag_name (s : Style) : IsTag s.name ∧ IsTag ('/' :: s.name) := by
  cases s <;> decide

variable (style : Option Style) (x y : Text)

/-- The tag in front of a line is not shown. -/
theorem render?_inStyle (m : Text) :
    render? [] (inStyle style m ++ y) = render? (openedBy style) (m ++ (closing style ++ y)) := by
  cases style with
  | none => rfl
  | some s =>
    have tagged := tagAt?_tag 0 s.name (m ++ (closing (some s) ++ y)) (isTag_name s).1
    have whole : inStyle (some s) m ++ y =
        List.replicate 0 '\\' ++ '[' :: s.name ++ ']' :: (m ++ (closing (some s) ++ y)) := by
      simp [inStyle, styled, closing]
    rw [whole, render?_of_tagAt? [] _ _ _ _ tagged, openBehind?_name]
    exact Option.map_id'

/-- Nor is the tag behind it. -/
theorem render?_closing :
    render? (openedBy style) (closing style ++ y) = render? [] y := by
  cases style with
  | none => rfl
  | some s =>
    have tagged := tagAt?_tag 0 ('/' :: s.name) y (isTag_name s).2
    have whole : closing (some s) ++ y = List.replicate 0 '\\' ++ '[' :: ('/' :: s.name) ++ ']' :: y := by
      simp [closing]
    rw [whole, render?_of_tagAt? _ _ _ _ _ tagged, openedBy, openBehind?_slash_name]
    exact Option.map_id'

variable (inFront : Avoids brackets x) (behind : Avoids brackets y)

include inFront behind

theorem opensFirst_closing : OpensFirst (x ++ (closing style ++ y)) := by
  intro u rest same
  apply Decidable.byContradiction
  intro unopened
  cases style with
  | none =>
    have inside : ']' ∈ x ++ y := same ▸ List.mem_append_right u List.mem_cons_self
    exact inFront.append behind _ inside (by decide)
  | some s =>
    have closes : ']' ∉ x := fun member => inFront _ member (by decide)
    exact append_cons_ne '[' ']' x u _ rest (by decide) closes unopened same

theorem tagAt?_closing : tagAt? (x ++ (closing style ++ y)) = none ∨
    ∃ s n, style = some s ∧ tagAt? (x ++ (closing style ++ y)) = some (n, '/' :: s.name, y) := by
  induction x with
  | nil =>
    cases style with
    | none => exact .inl (tagAt?_of_avoids y behind)
    | some s =>
      have tagged := tagAt?_tag 0 ('/' :: s.name) y (isTag_name s).2
      exact .inr ⟨s, 0, rfl, by rw [← tagged]; simp [closing]⟩
  | cons a x ih =>
    obtain ⟨first, rest⟩ := List.forall_mem_cons.mp inFront
    by_cases slash : a = '\\'
    · rw [slash, List.cons_append, tagAt?_slash]
      rcases ih rest with untagged | ⟨s, n, same, tagged⟩
      · exact .inl (by rw [untagged, Option.map_none])
      · exact .inr ⟨s, n + 1, same, by rw [tagged, Option.map_some]⟩
    · exact .inl (tagAt?_of_ne a _ (fun bracket => first (bracket ▸ List.mem_cons_self)) slash)

/-- The end of a line can be read. A backslash may turn its tag into text, which leaves the style
open. -/
theorem isSome_render?_closing :
    (render? (openedBy style) (x ++ (closing style ++ y))).isSome = true := by
  induction x with
  | nil =>
    rw [List.nil_append, render?_closing]
    exact isSome_render?_of_avoids [] y behind
  | cons a x ih =>
    rcases tagAt?_closing style (a :: x) y inFront behind with untagged | ⟨s, n, rfl, tagged⟩
    · exact isSome_render?_cons _ a _ untagged (ih (List.forall_mem_cons.mp inFront).2)
    · rw [render?_of_tagAt? _ _ _ _ _ tagged]
      split
      · rw [Option.isSome_map]
        exact isSome_render?_of_avoids _ y behind
      · rw [openedBy, openBehind?_slash_name, Option.bind_some, Option.isSome_map]
        exact isSome_render?_of_avoids [] y behind

theorem isSome_render?_escaped (u t : Text) (plain : Avoids ['[', ']', '\\'] u) :
    (render? [] (inStyle style (u ++ escape t ++ x) ++ y)).isSome = true := by
  -- escaping may add a backslash at the end, which then belongs to the text behind
  have ended (x : Text) (inFront : Avoids brackets x) :
      (render? (openedBy style) (escapeTags t ++ (x ++ (closing style ++ y)))).isSome = true := by
    apply isSome_render?_escapeTags _ t _ (opensFirst_closing style x y inFront behind)
    intro n
    rw [← List.append_assoc]
    exact isSome_render?_closing style _ y ((avoids_replicate n (by decide)).append inFront) behind
  rw [render?_inStyle, List.append_assoc, List.append_assoc, render?_append _ u _ plain,
    Option.isSome_map]
  rcases escape_cases t with same | same
  · rw [same]
    exact ended x inFront
  · rw [same, List.append_assoc]
    exact ended ('\\' :: x) (List.forall_mem_cons.mpr ⟨by decide, inFront⟩)

/-! ### Printed lines -/

omit inFront behind

theorem expandTabs_append (u t : Text) (column : Nat) (visible : ∀ a ∈ u, 32 ≤ a.toNat) :
    expandTabs column (u ++ t) = u ++ expandTabs (column + u.length) t := by
  induction u generalizing column with
  | nil => rfl
  | cons a u ih =>
    obtain ⟨first, later⟩ := List.forall_mem_cons.mp visible
    rw [List.cons_append, expandTabs, ih (column + 1) later, List.length_cons, List.cons_append,
      Nat.add_assoc, Nat.add_comm 1]
    · rintro rfl
      exact absurd first (by decide)
    · rintro rfl
      exact absurd first (by decide)

theorem filter_of_visible (u : Text) (visible : ∀ a ∈ u, 32 ≤ a.toNat) :
    u.filter (fun a => !isDropped a) = u := by
  apply List.filter_eq_self.mpr
  intro a member
  have low := visible a member
  have kept : a.toNat ∉ [7, 8, 11, 12, 13] := by
    simp
    omega
  rw [isDropped, List.contains_eq_mem, decide_eq_false kept]
  rfl

/-- Literal text at the start of what a line shows is at the start of the printed line. -/
theorem print?_inStyle (u : Text) (literal : IsLiteral u) :
    print? (inStyle style (u ++ x)) =
      (render? (openedBy style) (x ++ closing style)).map fun shown =>
        u ++ (expandTabs u.length (shown.filter fun a => !isDropped a) ++ ['\n']) := by
  have plain : Avoids ['[', ']', '\\'] u := literal.avoids.mono (by decide)
  have read := render?_inStyle style [] (u ++ x)
  rw [List.append_nil, List.append_nil, List.append_assoc, render?_append _ u _ plain] at read
  rw [print?, read, Option.map_map]
  congr 1
  funext shown
  simp only [Function.comp_apply, List.filter_append]
  rw [filter_of_visible u literal.visible, expandTabs_append u _ 0 literal.visible, Nat.zero_add,
    List.append_assoc]

theorem readsMarkup_console : console.ReadsMarkup where
  literal style u literal := by
    have printed := print?_inStyle style [] u literal
    have closed := render?_closing style []
    rw [List.append_nil] at printed closed
    rw [List.nil_append, closed, render?] at printed
    exact printed
  front style u x line literal printed := by
    obtain ⟨shown, -, rfl⟩ := Option.map_eq_some_iff.mp
      ((print?_inStyle style x u literal).symm.trans printed)
    exact List.prefix_append u _
  escaped style u t x y plain inFront behind := by
    change ((render? [] _).map _).isSome = true
    rw [Option.isSome_map]
    exact isSome_render?_escaped style x y inFront behind u t plain
  escape_of_avoids := escape_of_avoids

end TextAdventure.Markup
