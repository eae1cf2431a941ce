import Mathlib.Logic.Relation
import TextAdventure.Proofs.Regex.WrittenForm

/-!
What a search may read. `Moves r c d` says that an expression can be read between two cursors,
whichever way of reading is preferred and whatever is to follow. Every answer of a backtracking
search passes through a cursor to which its expression moves (`exists_moves_of_run`), so a fact
about moves is a fact about searches on any text, single-spaced or not. A move reads a stretch of
the text in front of it (`exists_passes_of_moves`), and an expression without captures records
nothing (`captured_of_moves`).
-/
namespace TextAdventure

/-- Whether the text is what stands between two cursors. -/
structure Cursor.Passes (u : Text) (c d : Cursor) : Prop where
  rest_eq : c.rest = u ++ d.rest
  position_eq : d.position = c.position + u.length

/-- Whether a text of a kind is read between two cursors, and nothing is captured. -/
def Cursor.Reads (P : Text → Prop) (c d : Cursor) : Prop :=
  ∃ u, P u ∧ Passes u c d ∧ d.captured = c.captured

/-- One or more characters of a class. -/
def IsStretch (p : Char → Bool) (u : Text) : Prop := u ≠ [] ∧ ∀ e ∈ u, p e = true

instance (p : Char → Bool) (u : Text) : Decidable (IsStretch p u) :=
  decidable_of_iff (u ≠ [] ∧ u.all p = true) (by simp [IsStretch])

namespace Cursor

theorem Passes.trans {u v : Text} {c d e : Cursor} (first : Passes u c d) (second : Passes v d e) :
    Passes (u ++ v) c e := by
  constructor
  · rw [first.rest_eq, second.rest_eq, List.append_assoc]
  · rw [second.position_eq, first.position_eq, List.length_append, Nat.add_assoc]

theorem Reads.mono {P Q : Text → Prop} {c d : Cursor} (reads : Reads P c d)
    (weaker : ∀ u, P u → Q u) : Reads Q c d := by
  obtain ⟨u, kind, passes, captured⟩ := reads
  exact ⟨u, weaker u kind, passes, captured⟩

theorem reads_nil {P : Text → Prop} (c : Cursor) (kind : P []) : Reads P c c :=
  ⟨[], kind, ⟨rfl, rfl⟩, rfl⟩

/-- A character in front of others of its class. -/
theorem reads_cons {p : Char → Bool} {e : Char} {t : Text} {n : Nat} {captured : List Span}
    {d : Cursor} (inside : p e = true)
    (reads : Reads (fun u => ∀ x ∈ u, p x = true) ⟨t, n + 1, captured⟩ d) :
    Reads (IsStretch p) ⟨e :: t, n, captured⟩ d := by
  obtain ⟨u, all, ⟨rest, position⟩, same⟩ := reads
  refine ⟨e :: u, ⟨List.cons_ne_nil e u, List.forall_mem_cons.mpr ⟨inside, all⟩⟩, ⟨?_, ?_⟩, same⟩
  · exact congrArg (e :: ·) rest
  · change d.position = n + 1 + u.length at position
    change d.position = n + (u.length + 1)
    omega

end Cursor

namespace Regex

open Cursor

/-- Whether the expression can be read between two cursors. -/
def Moves : Regex → Cursor → Cursor → Prop
  | empty, c, d => d = c
  | literal w, c, d => Reads (fun u => Text.sameLetters w u = true) c d
  | oneOf ws, c, d => ∃ w ∈ ws, Reads (fun u => Text.sameLetters w u = true) c d
  | blanks, c, d => Reads (IsStretch Text.isBlank) c d
  | nameChar, c, d => Reads (fun u => ∃ e, u = [e] ∧ isNameChar e = true) c d
  | name, c, d => Reads (IsStretch isNameChar) c d
  | anything, c, d => Reads (IsStretch (· != '\n')) c d
  | cat r s, c, d => ∃ e, Moves r c e ∧ Moves s e d
  | opt r, c, d => Moves r c d ∨ d = c
  | lazyMany r, c, d => Relation.ReflTransGen (Moves r) c d
  | notAhead r, c, d => run r c some = none ∧ d = c
  | capture r, c, d =>
    ∃ e, Moves r c e ∧ d = { e with captured := ⟨c.position, e.position⟩ :: e.captured }

/-! ### Reading characters -/

section

variable (p : Char → Bool) (k : Cursor → Option Cursor) (answer : Cursor)

theorem dropWord_eq_some (w t rest : Text) (dropped : dropWord w t = some rest) :
    ∃ u, t = u ++ rest ∧ Text.sameLetters w u = true ∧ u.length = w.length := by
  induction w generalizing t with
  | nil =>
    cases dropped
    exact ⟨[], rfl, rfl, rfl⟩
  | cons c w ih =>
    cases t with
    | nil => cases dropped
    | cons d t =>
      unfold dropWord at dropped
      split at dropped
      next same =>
        obtain ⟨u, rfl, letters, length⟩ := ih t dropped
        exact ⟨d :: u, rfl, by simp [same, letters], by simp [length]⟩
      · cases dropped

theorem exists_reads_of_runWord (w : Text) (c : Cursor) (found : runWord w c k = some answer) :
    ∃ d, Reads (fun u => Text.sameLetters w u = true) c d ∧ k d = some answer := by
  unfold runWord at found
  split at found
  next rest dropped =>
    obtain ⟨u, split, letters, length⟩ := dropWord_eq_some w c.rest rest dropped
    rw [← length] at found
    refine ⟨_, ?_, found⟩
    exact ⟨u, letters, ⟨split, rfl⟩, rfl⟩
  · cases found

theorem exists_of_runChar (c : Cursor) (found : runChar p c k = some answer) :
    ∃ e t, c = ⟨e :: t, c.position, c.captured⟩ ∧ p e = true ∧
      k ⟨t, c.position + 1, c.captured⟩ = some answer := by
  obtain ⟨rest, position, captured⟩ := c
  cases rest with
  | nil => cases found
  | cons e t =>
    unfold runChar at found
    simp only at found
    split at found
    next inside => exact ⟨e, t, rfl, inside, found⟩
    · cases found

theorem exists_reads_of_runGreedy (captured : List Span) (t : Text) (n : Nat)
    (found : runGreedy p captured k t n = some answer) :
    ∃ d, Reads (fun u => ∀ e ∈ u, p e = true) ⟨t, n, captured⟩ d ∧ k d = some answer := by
  induction t generalizing n with
  | nil => exact ⟨_, reads_nil _ (List.forall_mem_nil _), found⟩
  | cons e t ih =>
    unfold runGreedy at found
    split at found
    next inside =>
      rw [Option.orElse_eq_or, Option.or_eq_some_iff] at found
      rcases found with further | ⟨-, here⟩
      · obtain ⟨d, reads, done⟩ := ih (n + 1) further
        exact ⟨d, (reads_cons inside reads).mono fun _ stretch => stretch.2, done⟩
      · -- the character is given back
        exact ⟨_, reads_nil _ (List.forall_mem_nil _), here⟩
    · exact ⟨_, reads_nil _ (List.forall_mem_nil _), found⟩

theorem exists_reads_of_runLazy (captured : List Span) (t : Text) (n : Nat)
    (found : runLazy p captured k t n = some answer) :
    ∃ d, Reads (fun u => ∀ e ∈ u, p e = true) ⟨t, n, captured⟩ d ∧ k d = some answer := by
  induction t generalizing n with
  | nil => exact ⟨_, reads_nil _ (List.forall_mem_nil _), found⟩
  | cons e t ih =>
    rw [runLazy, Option.orElse_eq_or, Option.or_eq_some_iff] at found
    rcases found with here | ⟨-, further⟩
    · exact ⟨_, reads_nil _ (List.forall_mem_nil _), here⟩
    · split at further
      next inside =>
        obtain ⟨d, reads, done⟩ := ih (n + 1) further
        exact ⟨d, (reads_cons inside reads).mono fun _ stretch => stretch.2, done⟩
      · cases further

/-- One character and the further ones that a loop reads are a stretch. -/
theorem exists_reads_of_loop (c : Cursor) (loop : Cursor → Option Cursor)
    (further : ∀ d, loop d = some answer →
      ∃ e, Reads (fun u => ∀ x ∈ u, p x = true) d e ∧ k e = some answer)
    (found : runChar p c loop = some answer) :
    ∃ d, Reads (IsStretch p) c d ∧ k d = some answer := by
  obtain ⟨e, t, front, inside, looped⟩ := exists_of_runChar p loop answer c found
  obtain ⟨d, reads, done⟩ := further _ looped
  rw [front]
  exact ⟨d, reads_cons inside reads, done⟩

end

/-! ### Answers of a search -/

theorem exists_moves_of_runRepeated (r : Regex) (c : Cursor) (k : Cursor → Option Cursor)
    (answer : Cursor) (bound : Nat)
    (step : ∀ c k, run r c k = some answer → ∃ d, Moves r c d ∧ k d = some answer)
    (found : runRepeated (run r) k bound c = some answer) :
    ∃ d, Relation.ReflTransGen (Moves r) c d ∧ k d = some answer := by
  -- whatever the bound is, the loop goes from one move to the next
  induction bound generalizing c with
  | zero => exact ⟨c, .refl, found⟩
  | succ bound ih =>
    rw [runRepeated, Option.orElse_eq_or, Option.or_eq_some_iff] at found
    rcases found with here | ⟨-, again⟩
    · exact ⟨c, .refl, here⟩
    · obtain ⟨e, first, further⟩ := step c _ again
      obtain ⟨d, rest, done⟩ := ih e further
      exact ⟨d, .head first rest, done⟩

/-- A search that succeeds goes on from a cursor to which the expression moves. -/
theorem exists_moves_of_run (r : Regex) (c : Cursor) (k : Cursor → Option Cursor) (answer : Cursor)
    (found : run r c k = some answer) : ∃ d, Moves r c d ∧ k d = some answer := by
  -- the parts of an expression are searched with other continuations than the whole
  induction r generalizing c k with
  | empty => exact ⟨c, rfl, found⟩
  | literal w => exact exists_reads_of_runWord k answer w c found
  | oneOf ws =>
    obtain ⟨w, member, chosen⟩ := List.exists_of_findSome?_eq_some found
    obtain ⟨d, reads, done⟩ := exists_reads_of_runWord k answer w c chosen
    exact ⟨d, ⟨w, member, reads⟩, done⟩
  | nameChar =>
    obtain ⟨e, t, front, inside, done⟩ := exists_of_runChar isNameChar k answer c found
    rw [front]
    refine ⟨_, ?_, done⟩
    exact ⟨[e], ⟨e, rfl, inside⟩, ⟨rfl, rfl⟩, rfl⟩
  | blanks | name =>
    apply exists_reads_of_loop _ k answer c _ _ found
    exact fun d => exists_reads_of_runGreedy _ k answer d.captured d.rest d.position
  | anything =>
    apply exists_reads_of_loop _ k answer c _ _ found
    exact fun d => exists_reads_of_runLazy _ k answer d.captured d.rest d.position
  | cat r s ihr ihs =>
    obtain ⟨e, first, further⟩ := ihr c _ found
    obtain ⟨d, second, done⟩ := ihs e k further
    exact ⟨d, ⟨e, first, second⟩, done⟩
  | opt r ih =>
    rw [run, Option.orElse_eq_or, Option.or_eq_some_iff] at found
    rcases found with taken | ⟨-, left⟩
    · obtain ⟨d, moves, done⟩ := ih c k taken
      exact ⟨d, .inl moves, done⟩
    · exact ⟨c, .inr rfl, left⟩
  | lazyMany r ih => exact exists_moves_of_runRepeated r c k answer _ ih found
  | notAhead r _ =>
    rw [run_notAhead] at found
    split at found
    · cases found
    next absent => exact ⟨c, ⟨Option.not_isSome_iff_eq_none.mp absent, rfl⟩, found⟩
  | capture r ih =>
    obtain ⟨e, moves, done⟩ := ih c _ found
    exact ⟨_, ⟨e, moves, rfl⟩, done⟩

/-! ### What a move changes -/

theorem exists_passes_of_moves (r : Regex) (c d : Cursor) (moves : Moves r c d) :
    ∃ u, Passes u c d := by
  induction r generalizing c d with
  | empty =>
    obtain rfl := moves
    exact ⟨[], rfl, rfl⟩
  | oneOf ws =>
    obtain ⟨w, -, u, -, passes, -⟩ := moves
    exact ⟨u, passes⟩
  | literal w | blanks | nameChar | name | anything =>
    obtain ⟨u, -, passes, -⟩ := moves
    exact ⟨u, passes⟩
  | cat r s ihr ihs =>
    obtain ⟨e, first, second⟩ := moves
    obtain ⟨u, front⟩ := ihr c e first
    obtain ⟨v, behind⟩ := ihs e d second
    exact ⟨u ++ v, front.trans behind⟩
  | opt r ih =>
    rcases moves with taken | rfl
    · exact ih c d taken
    · exact ⟨[], rfl, rfl⟩
  | lazyMany r ih =>
    induction moves with
    | refl => exact ⟨[], rfl, rfl⟩
    | tail _ step before =>
      obtain ⟨u, front⟩ := before
      obtain ⟨v, behind⟩ := ih _ _ step
      exact ⟨u ++ v, front.trans behind⟩
  | notAhead r _ =>
    obtain ⟨-, rfl⟩ := moves
    exact ⟨[], rfl, rfl⟩
  | capture r ih =>
    obtain ⟨e, inside, rfl⟩ := moves
    obtain ⟨u, passes⟩ := ih c e inside
    exact ⟨u, passes.rest_eq, passes.position_eq⟩

/-- An expression without captures leaves what was captured alone. -/
theorem captured_of_moves (r : Regex) (plain : r.groups = 0) (c d : Cursor) (moves : Moves r c d) :
    d.captured = c.captured := by
  induction r generalizing c d with
  | empty =>
    obtain rfl := moves
    rfl
  | oneOf ws =>
    obtain ⟨w, -, u, -, -, same⟩ := moves
    exact same
  | literal w | blanks | nameChar | name | anything =>
    obtain ⟨u, -, -, same⟩ := moves
    exact same
  | cat r s ihr ihs =>
    obtain ⟨e, first, second⟩ := moves
    obtain ⟨plain, plain'⟩ := Nat.add_eq_zero_iff.mp plain
    rw [ihs plain' e d second, ihr plain c e first]
  | opt r ih =>
    rcases moves with taken | rfl
    · exact ih plain c d taken
    · rfl
  | lazyMany r ih =>
    induction moves with
    | refl => rfl
    | tail _ step before => rw [ih plain _ _ step, before]
  | notAhead r _ =>
    obtain ⟨-, rfl⟩ := moves
    rfl
  | capture r _ => cases plain

end Regex

end TextAdventure
