import Mathlib.Data.List.Basic
import TextAdventure.Lexicon.Message
import TextAdventure.Proofs.Text.Replacing

/-!
Filling templates. A template is cut into its placeholders and the characters between them
(`pieces`), and filling all placeholders at once puts a value in place of each. Filling them one
after the other comes to the same if no value brings in a placeholder that is filled later
(`fill_eq_fillAtOnce`).
-/
namespace TextAdventure

open Text (occurrences)

inductive Placeholder where
  | object
  | verb
  | preposition
  deriving DecidableEq, Repr

namespace Placeholder

def text : Placeholder → Text
  | object => "\x7bobject\x7d".toList
  | verb => "\x7bverb\x7d".toList
  | preposition => "\x7bpreposition\x7d".toList

/-- The placeholder with which a text begins. -/
def starting? (t : Text) : Option Placeholder :=
  [object, verb, preposition].find? fun p => p.text.isPrefixOf t

end Placeholder

/-- A part of a template. -/
inductive Piece where
  | char (c : Char)
  | hole (p : Placeholder)
  deriving DecidableEq, Repr

namespace Template

/-- The pieces of a text of which the first `skip` characters belong to a placeholder in front of
it. -/
def piecesFrom : Nat → Text → List Piece
  | _, [] => []
  | skip + 1, _ :: t => piecesFrom skip t
  | 0, c :: t =>
    match Placeholder.starting? (c :: t) with
    | some p => .hole p :: piecesFrom (p.text.length - 1) t
    | none => .char c :: piecesFrom 0 t

/-- The placeholders of a template and the characters between them. -/
def pieces (t : Text) : List Piece := piecesFrom 0 t

end Template

/-- The piece with values for placeholders; a placeholder without a value stays. -/
def Piece.fill (values : Placeholder → Option Text) : Piece → Text
  | char c => [c]
  | hole p => (values p).getD p.text

def Detail.value? : Detail → Option Text
  | given v => some v
  | _ => none

def Details.value? (d : Details) : Placeholder → Option Text
  | .object => d.object.value?
  | .verb => d.verb.value?
  | .preposition => d.preposition.value?

/-- Fills in all placeholders of the template at once. -/
def Details.fillAtOnce (d : Details) (t : Text) : Text :=
  (Template.pieces t).flatMap (Piece.fill d.value?)

/-- Whether no value brings in a placeholder that is filled later: what has been filled in so far
has no more of them than the template. -/
structure Details.Inert (d : Details) (t : Text) : Prop where
  verb : ∀ v, d.verb = .given v →
    occurrences Placeholder.verb.text (d.object.fill Placeholder.object.text t) =
      occurrences Placeholder.verb.text t
  preposition : ∀ v, d.preposition = .given v →
    occurrences Placeholder.preposition.text
        (d.verb.fill Placeholder.verb.text (d.object.fill Placeholder.object.text t)) =
      occurrences Placeholder.preposition.text t

/-! ### Cutting templates -/

namespace Placeholder

theorem text_ne_nil (p : Placeholder) : p.text ≠ [] := by cases p <;> decide

/-- The only opening brace of a placeholder is its first character. -/
theorem exists_text_eq (p : Placeholder) :
    ∃ name, p.text = '\x7b' :: name ∧ ∀ c ∈ name, c ≠ '\x7b' := by
  have alone : '\x7b' ∉ p.text.tail := by cases p <;> decide
  exact ⟨p.text.tail, by cases p <;> rfl, fun c member same => alone (same ▸ member)⟩

/-- No placeholder is the beginning of another. -/
theorem eq_of_begins (p q : Placeholder) (begins : p.text <+: q.text) : p = q := by
  cases p <;> cases q <;> first | rfl | exact absurd begins (by decide)

theorem starting?_eq_some_iff (t : Text) (p : Placeholder) :
    starting? t = some p ↔ p.text.isPrefixOf t = true := by
  constructor
  · intro found
    exact List.find?_some (p := fun q => Placeholder.text q |>.isPrefixOf t) found
  · intro begins
    cases found : starting? t with
    | none =>
      refine absurd begins (List.find?_eq_none.mp found p ?_)
      cases p <;> decide
    | some q =>
      have other : q.text.isPrefixOf t = true :=
        List.find?_some (p := fun q => Placeholder.text q |>.isPrefixOf t) found
      rw [List.isPrefixOf_iff_prefix] at begins other
      refine congrArg some ?_
      rcases List.prefix_or_prefix_of_prefix other begins with short | short
      · exact q.eq_of_begins p short
      · exact (p.eq_of_begins q short).symm

/-- A placeholder does not begin in the name of another one. -/
theorem not_isPrefixOf_cons (p : Placeholder) (c : Char) (t : Text) (inside : c ≠ '\x7b') :
    p.text.isPrefixOf (c :: t) = false := by
  obtain ⟨name, text, -⟩ := p.exists_text_eq
  rw [text, List.isPrefixOf_cons_cons, beq_false_of_ne (Ne.symm inside), Bool.false_and]

/-- A text that begins with a placeholder. -/
theorem exists_of_starting? (c : Char) (t : Text) (p : Placeholder)
    (found : starting? (c :: t) = some p) :
    ∃ name u, p.text = c :: name ∧ t = name ++ u ∧ ∀ d ∈ name, d ≠ '\x7b' := by
  have begins := (starting?_eq_some_iff _ p).mp found
  obtain ⟨u, whole⟩ := List.isPrefixOf_iff_prefix.mp begins
  obtain ⟨name, text, solid⟩ := p.exists_text_eq
  rw [text, List.cons_append] at whole
  obtain ⟨rfl, rfl⟩ := List.cons.inj whole
  exact ⟨name, u, text, rfl, solid⟩

end Placeholder

namespace Template

theorem flatMap_piecesFrom (skip : Nat) (t : Text) :
    (piecesFrom skip t).flatMap (Piece.fill fun _ => none) = t.drop skip := by
  fun_induction piecesFrom skip t with
  | case1 skip => exact List.drop_nil.symm
  | case2 skip c t ih => rw [ih, List.drop_succ_cons]
  | case3 c t p found ih =>
    obtain ⟨name, u, text, rfl, -⟩ := Placeholder.exists_of_starting? c t p found
    rw [List.flatMap_cons, ih, Piece.fill, Option.getD_none, text, List.length_cons,
      Nat.add_sub_cancel, List.drop_left, List.drop_zero, List.cons_append]
  | case4 c t missed ih =>
    rw [List.flatMap_cons, ih]
    rfl

/-- A template is its pieces. -/
theorem flatMap_pieces (t : Text) : (pieces t).flatMap (Piece.fill fun _ => none) = t :=
  flatMap_piecesFrom 0 t

theorem occurrences_eq_countP_from (q : Placeholder) (skip : Nat) (t : Text)
    (inside : ∀ c ∈ t.take skip, c ≠ '\x7b') :
    occurrences q.text t = (piecesFrom skip t).countP (· == .hole q) := by
  fun_induction piecesFrom skip t with
  | case1 => rfl
  | case2 skip c t ih =>
    -- the rest of a placeholder has no opening brace, so that no placeholder begins in it
    obtain ⟨first, later⟩ := List.forall_mem_cons.mp (List.take_succ_cons ▸ inside)
    rw [← ih later, Text.occurrences_cons, q.not_isPrefixOf_cons c t first]
    exact Nat.zero_add _
  | case3 c t p found ih =>
    have here : q.text.isPrefixOf (c :: t) = (Piece.hole p == .hole q) := by
      rw [Bool.eq_iff_iff, ← Placeholder.starting?_eq_some_iff, found]
      simp
    obtain ⟨name, u, text, rfl, solid⟩ := Placeholder.exists_of_starting? c t p found
    rw [Text.occurrences_cons, List.countP_cons, here, ih, Nat.add_comm]
    simpa [text] using solid
  | case4 c t missed ih =>
    have here : q.text.isPrefixOf (c :: t) = false := by
      rw [← Bool.not_eq_true, ← Placeholder.starting?_eq_some_iff, missed]
      exact fun found => Option.some_ne_none q found.symm
    rw [Text.occurrences_cons, List.countP_cons, here, ih (List.forall_mem_nil _)]
    exact Nat.zero_add _

/-- A placeholder occurs in a text as often as it is one of its pieces. -/
theorem occurrences_eq_countP (q : Placeholder) (t : Text) :
    occurrences q.text t = (pieces t).countP (· == .hole q) :=
  occurrences_eq_countP_from q 0 t (List.forall_mem_nil _)

/-! ### One placeholder after the other -/

/-- One more placeholder is filled in, in all places where the template has it, if these are the
only ones where it occurs. -/
theorem fill_pieces (p : Placeholder) (detail : Detail) (t : Text)
    (before after : Placeholder → Option Text) (empty : before p = none)
    (filled : after p = detail.value?) (others : ∀ q, q ≠ p → after q = before q)
    (only : ∀ v, detail = .given v →
      occurrences p.text ((pieces t).flatMap (Piece.fill before)) = occurrences p.text t) :
    detail.fill p.text ((pieces t).flatMap (Piece.fill before)) =
      (pieces t).flatMap (Piece.fill after) := by
  have kept (none : detail.value? = none) : before = after := by
    funext q
    by_cases same : q = p
    · rw [same, empty, filled, none]
    · rw [others q same]
  cases detail with
  | missing => exact congrArg (fun values => (pieces t).flatMap (Piece.fill values)) (kept rfl)
  | withheld => exact congrArg (fun values => (pieces t).flatMap (Piece.fill values)) (kept rfl)
  | given v =>
    -- the pieces with the placeholder are those that are replaced
    have spelled : ∀ x : Piece, (x == .hole p) = true → x.fill before = p.text := by
      intro x same
      rw [beq_iff_eq.mp same, Piece.fill, empty, Option.getD_none]
    have count := (only v rfl).trans (occurrences_eq_countP p t)
    refine (Text.replaceAll_flatMap p.text v (Piece.fill before) (· == .hole p) spelled
      p.text_ne_nil (pieces t) (Nat.le_of_eq count)).trans (List.flatMap_congr fun x _ => ?_)
    cases x with
    | char c => rfl
    | hole q =>
      by_cases same : q = p
      · subst same
        simp [Piece.fill, filled, Detail.value?]
      · simp [Piece.fill, others q same, same]

end Template

namespace Details

variable (d : Details) (t : Text)

theorem fill_object : d.object.fill Placeholder.object.text t =
    (Template.pieces t).flatMap (Piece.fill ({ object := d.object } : Details).value?) := by
  have whole := Template.flatMap_pieces t
  have filled := Template.fill_pieces .object d.object t (fun _ => none)
    ({ object := d.object } : Details).value? rfl rfl
    (fun q other => by cases q <;> first | rfl | exact absurd rfl other)
    (fun _ _ => by rw [whole])
  rwa [whole] at filled

theorem fill_verb (only : ∀ v, d.verb = .given v →
      occurrences Placeholder.verb.text (d.object.fill Placeholder.object.text t) =
        occurrences Placeholder.verb.text t) :
    d.verb.fill Placeholder.verb.text (d.object.fill Placeholder.object.text t) =
      (Template.pieces t).flatMap
        (Piece.fill ({ object := d.object, verb := d.verb } : Details).value?) := by
  rw [d.fill_object t] at only ⊢
  exact Template.fill_pieces .verb d.verb t _ _ rfl rfl
    (fun q other => by cases q <;> first | rfl | exact absurd rfl other) only

/-- Filling one placeholder after the other fills them at once, if no value brings in a placeholder
that is filled later. -/
theorem fill_eq_fillAtOnce (inert : d.Inert t) : d.fill t = d.fillAtOnce t := by
  have only := inert.preposition
  change d.preposition.fill Placeholder.preposition.text
    (d.verb.fill Placeholder.verb.text (d.object.fill Placeholder.object.text t)) = _
  rw [d.fill_verb t inert.verb] at only ⊢
  exact Template.fill_pieces .preposition d.preposition t _ _ rfl rfl
    (fun q other => by cases q <;> first | rfl | exact absurd rfl other) only

/-- The verb alone brings in no placeholder that is filled later. -/
theorem inert_of_verb (verb : Detail) : ({ verb } : Details).Inert t where
  verb _ _ := rfl
  preposition _ filled := by cases filled

end Details

/-! ### Values with braces -/

/-- Whether every opening brace of the text is followed in it by a closing one. -/
def Text.IsClosed : Text → Prop
  | [] => True
  | c :: t => (c = '\x7b' → '\x7d' ∈ t) ∧ IsClosed t

instance Text.instDecidableIsClosed : (t : Text) → Decidable t.IsClosed
  | [] => inferInstanceAs (Decidable True)
  | c :: t =>
    have := instDecidableIsClosed t
    inferInstanceAs (Decidable ((c = '\x7b' → '\x7d' ∈ t) ∧ IsClosed t))

/-- A placeholder ends in its only closing brace. -/
theorem Placeholder.exists_text_eq_concat (p : Placeholder) :
    ∃ name, p.text = name ++ ['\x7d'] ∧ '\x7d' ∉ name := by
  cases p
  · exact ⟨"\x7bobject".toList, by decide⟩
  · exact ⟨"\x7bverb".toList, by decide⟩
  · exact ⟨"\x7bpreposition".toList, by decide⟩

/-- Where a closed text begins with a placeholder, it ends after the placeholder. -/
theorem Placeholder.isPrefixOf_append_of_isClosed (p : Placeholder) (c : Char) (v u : Text)
    (closed : Text.IsClosed (c :: v)) :
    p.text.isPrefixOf (c :: v ++ u) = p.text.isPrefixOf (c :: v) := by
  by_cases opening : c = '\x7b'
  · subst opening
    rw [Bool.eq_iff_iff, List.isPrefixOf_iff_prefix, List.isPrefixOf_iff_prefix]
    refine ⟨fun begins => Classical.byContradiction fun longer => ?_,
      fun begins => begins.trans (List.prefix_append _ u)⟩
    -- otherwise the closing brace of the text is in the name of the placeholder
    have nested := List.prefix_or_prefix_of_prefix begins (List.prefix_append ('\x7b' :: v) u)
    have short : '\x7b' :: v <+: p.text := nested.resolve_left longer
    obtain ⟨name, text, solid⟩ := p.exists_text_eq_concat
    rw [text] at short longer
    rcases List.prefix_concat_iff.mp short with whole | inside
    · exact longer (whole ▸ List.prefix_rfl)
    · exact solid (inside.subset (List.mem_cons_of_mem _ (closed.1 rfl)))
  · rw [List.cons_append, p.not_isPrefixOf_cons c _ opening, p.not_isPrefixOf_cons c _ opening]

/-- A placeholder that begins in a closed text occurs in it. -/
theorem Text.occurrencesBefore_of_isClosed (p : Placeholder) (v u : Text) (closed : v.IsClosed) :
    Text.occurrencesBefore p.text u v = occurrences p.text v := by
  induction v with
  | nil => rfl
  | cons c v ih =>
    rw [Text.occurrences_cons, Text.occurrencesBefore, p.isPrefixOf_append_of_isClosed c v u closed,
      ih closed.2]

/-- In a placeholder only that placeholder begins. -/
theorem Placeholder.occurrencesBefore_text (p q : Placeholder) (u : Text) :
    Text.occurrencesBefore q.text u p.text = if p = q then 1 else 0 := by
  have within (name : Text) (inside : ∀ c ∈ name, c ≠ '\x7b') :
      Text.occurrencesBefore q.text u name = 0 := by
    induction name with
    | nil => rfl
    | cons c name ih =>
      obtain ⟨first, later⟩ := List.forall_mem_cons.mp inside
      rw [Text.occurrencesBefore, List.cons_append, q.not_isPrefixOf_cons c _ first, ih later]
      rfl
  have begins : q.text.isPrefixOf (p.text ++ u) = true ↔ p = q := by
    have here : starting? (p.text ++ u) = some p :=
      (starting?_eq_some_iff _ p).mpr (List.isPrefixOf_iff_prefix.mpr (List.prefix_append _ u))
    rw [← starting?_eq_some_iff, here, Option.some.injEq]
  obtain ⟨name, text, inside⟩ := p.exists_text_eq
  rw [text] at begins ⊢
  simp only [Text.occurrencesBefore, begins, within name inside, Nat.add_zero]

/-- Closed values in which a placeholder does not occur add no occurrences of it to a template whose
opening braces are those of its placeholders. -/
theorem Template.occurrences_flatMap_of_closed (q : Placeholder) (t : Text)
    (values : Placeholder → Option Text) (plain : .char '\x7b' ∉ pieces t)
    (unfilled : values q = none)
    (harmless : ∀ p v, values p = some v → v.IsClosed ∧ occurrences q.text v = 0) :
    occurrences q.text ((pieces t).flatMap (Piece.fill values)) = occurrences q.text t := by
  rw [occurrences_eq_countP q t]
  generalize pieces t = xs at plain
  induction xs with
  | nil => rfl
  | cons x xs ih =>
    obtain ⟨first, later⟩ := not_or.mp (mt List.mem_cons.mpr plain)
    -- whatever stands behind a piece, the placeholder begins in it only if it is the piece
    have here (u : Text) : Text.occurrencesBefore q.text u (x.fill values) =
        if x == .hole q then 1 else 0 := by
      cases x with
      | char c =>
        have solid : c ≠ '\x7b' := fun same => first (congrArg Piece.char same.symm)
        rw [Piece.fill, Text.occurrencesBefore, List.singleton_append,
          q.not_isPrefixOf_cons c u solid]
        rfl
      | hole p =>
        cases value : values p with
        | none =>
          rw [Piece.fill, value, Option.getD_none, p.occurrencesBefore_text q u]
          simp
        | some v =>
          have other : p ≠ q := fun same => by simp [same, unfilled] at value
          obtain ⟨closed, absent⟩ := harmless p v value
          rw [Piece.fill, value, Option.getD_some, Text.occurrencesBefore_of_isClosed q v u closed,
            absent]
          simp [other]
    rw [List.flatMap_cons, Text.occurrences_append, here, ih later, List.countP_cons, Nat.add_comm]

/-- Closed values are inert if no placeholder that is filled later occurs in them, in a template
whose opening braces are those of its placeholders. -/
theorem Details.inert_of_isClosed (d : Details) (t : Text)
    (plain : .char '\x7b' ∉ Template.pieces t)
    (object : ∀ v, d.object = .given v → v.IsClosed ∧ occurrences Placeholder.verb.text v = 0 ∧
      occurrences Placeholder.preposition.text v = 0)
    (verb : ∀ v, d.verb = .given v → v.IsClosed ∧ occurrences Placeholder.preposition.text v = 0) :
    d.Inert t := by
  have given (detail : Detail) (v : Text) (value : detail.value? = some v) : detail = .given v := by
    cases detail <;> cases value
    rfl
  have first : ∀ v, d.verb = .given v →
      occurrences Placeholder.verb.text (d.object.fill Placeholder.object.text t) =
        occurrences Placeholder.verb.text t := by
    intro _ _
    rw [d.fill_object t]
    refine Template.occurrences_flatMap_of_closed .verb t _ plain rfl fun p v value => ?_
    cases p with
    | object => exact (object v (given _ v value)).imp_right And.left
    | verb => cases value
    | preposition => cases value
  refine ⟨first, fun _ _ => ?_⟩
  rw [d.fill_verb t first]
  refine Template.occurrences_flatMap_of_closed .preposition t _ plain rfl fun p v value => ?_
  cases p with
  | object => exact (object v (given _ v value)).imp_right And.right
  | verb => exact verb v (given _ v value)
  | preposition => cases value

end TextAdventure
