import TextAdventure.CommandLine.Console

/-!
What is relied on when markup is sent to a console. `Console.ReadsMarkup` holds of every console
that reads tags in brackets, hides the tags of styles, and whose escaping keeps text from being
read as tags; it leaves open what else the console does with a line, such as refusing one that
closes a style that is not open.
-/
namespace TextAdventure.CommandLine

/-- Whether none of the marks is in the text. -/
def Avoids (marks : List Char) (u : Text) : Prop := ∀ a ∈ u, a ∉ marks

instance (marks : List Char) (u : Text) : Decidable (Avoids marks u) := List.decidableBAll _ u

/-- The characters that tags begin and end with. -/
abbrev brackets : List Char := ['[', ']']

/-- Whether the text means nothing but itself: it has no bracket, no backslash, no colon, with which
the code of a picture could begin, and no control character. -/
structure IsLiteral (u : Text) : Prop where
  avoids : Avoids ['[', ']', '\\', ':'] u
  visible : ∀ a ∈ u, 32 ≤ a.toNat

instance (u : Text) : Decidable (IsLiteral u) :=
  have : Decidable (∀ a ∈ u, 32 ≤ a.toNat) := List.decidableBAll _ u
  decidable_of_iff (Avoids ['[', ']', '\\', ':'] u ∧ ∀ a ∈ u, 32 ≤ a.toNat)
    ⟨fun ⟨avoids, visible⟩ => ⟨avoids, visible⟩, fun ⟨avoids, visible⟩ => ⟨avoids, visible⟩⟩

/-- The markup in a style, or as it is. -/
def inStyle (style : Option Style) (markup : Text) : Text :=
  match style with
  | none => markup
  | some s => styled s markup

/-- How a console without colours, wide enough for its lines, reads markup. -/
structure Console.ReadsMarkup (c : Console) : Prop where
  /-- Literal text is printed as it is, and the tags of a style around it are not shown. -/
  literal (style : Option Style) (u : Text) : IsLiteral u →
    c.print? (inStyle style u) = some (u ++ ['\n'])
  /-- So is literal text in front of other markup, if the line is printed at all. -/
  front (style : Option Style) (u x line : Text) : IsLiteral u →
    c.print? (inStyle style (u ++ x)) = some line → u <+: line
  /-- Escaped text neither opens nor closes a style. -/
  escaped (style : Option Style) (u t x y : Text) : Avoids ['[', ']', '\\'] u →
    Avoids brackets x → Avoids brackets y →
    (c.print? (inStyle style (u ++ c.escape t ++ x) ++ y)).isSome = true
  /-- There is nothing to escape in text without brackets, but for a backslash at its end. -/
  escape_of_avoids (u : Text) : Avoids brackets u → u.getLast? ≠ some '\\' → c.escape u = u

theorem Avoids.cons {marks : List Char} {a : Char} {u : Text} (first : a ∉ marks)
    (rest : Avoids marks u) : Avoids marks (a :: u) :=
  List.forall_mem_cons.mpr ⟨first, rest⟩

theorem Avoids.append {marks : List Char} {u v : Text} (front : Avoids marks u)
    (behind : Avoids marks v) : Avoids marks (u ++ v) :=
  List.forall_mem_append.mpr ⟨front, behind⟩

theorem avoids_replicate {marks : List Char} {a : Char} (n : Nat) (outside : a ∉ marks) :
    Avoids marks (List.replicate n a) := by
  intro b member
  rw [List.eq_of_mem_replicate member]
  exact outside

theorem Avoids.mono {marks marks' : List Char} {u : Text} (avoids : Avoids marks u)
    (fewer : marks' ⊆ marks) : Avoids marks' u :=
  fun a member inMarks => avoids a member (fewer inMarks)

/-- Text of one kind has none of the marks that are of another kind. -/
theorem avoids_of_forall (p : Char → Bool) (marks : List Char) (u : Text)
    (kind : ∀ a ∈ u, p a = true) (others : marks.any p = false) : Avoids marks u := by
  intro a member inMarks
  have among : marks.any p = true := List.any_eq_true.mpr ⟨a, inMarks, kind a member⟩
  rw [others] at among
  cases among

namespace Console

variable (c : Console)

/-- If no line is refused, all are written. -/
theorem writeAll_lines (markups lines : List Text)
    (printed : markups.map c.print? = lines.map some) :
    c.writeAll (markups.map .line) = ⟨lines.flatten, true⟩ := by
  induction markups generalizing lines with
  | nil =>
    obtain rfl : lines = [] := by simpa using printed.symm
    rfl
  | cons m ms ih =>
    obtain ⟨l, ls, rfl, first, rest⟩ := List.map_eq_cons_iff.mp printed.symm
    rw [List.map_cons, writeAll, write?, ← first, ih ls rest.symm, List.flatten_cons]

end Console

end TextAdventure.CommandLine
