import TextAdventure.Proofs.Pattern.Alignment
import TextAdventure.Proofs.Text.Spacing

/-!
Searches of a text and of the same text squeezed. The two run in lockstep: cursors correspond that
stand in front of the same text up to spacing, and a search goes on at corresponding cursors
(`IsBlind`). Character by character there is nothing to show, since words and names have no blanks.
Blanks are read as many as there are, and going back over them is of no use: behind blanks an
expression comes that cannot begin with a blank (`StartsSolid`).
-/
namespace TextAdventure

open Text

/-! ### Corresponding cursors -/

/-- Whether the ends of two spans, one of the text and one of the squeezed text, stand in front of
the same text up to spacing. -/
structure Span.Corresponds (t : Text) (s s' : Span) : Prop where
  start_eq : (squeeze t).drop s'.start = squeeze (t.drop s.start)
  stop_eq : (squeeze t).drop s'.stop = squeeze (t.drop s.stop)

/-- Whether two cursors, one in the text and one in the squeezed text, stand in front of the same
text up to spacing and have recorded corresponding spans. -/
structure Cursor.Corresponds (t : Text) (c d : Cursor) : Prop where
  rest_eq : t.drop c.position = c.rest
  rest_eq' : (squeeze t).drop d.position = d.rest
  squeezed : squeeze c.rest = d.rest
  captured : List.Forall₂ (Span.Corresponds t) c.captured d.captured

theorem drop_succ_of_drop_eq_cons (t u : Text) (n : Nat) (e : Char) (rest : t.drop n = e :: u) :
    t.drop (n + 1) = u := by rw [← List.tail_drop, rest, List.tail_cons]

theorem drop_trimStart (t u : Text) (n : Nat) (e : Char) (rest : t.drop n = e :: u) :
    t.drop (n + 1 + (u.takeWhile isBlank).length) = trimStart u := by
  rw [← List.drop_drop, drop_succ_of_drop_eq_cons t u n e rest]
  calc u.drop (u.takeWhile isBlank).length
      = (u.takeWhile isBlank ++ u.dropWhile isBlank).drop (u.takeWhile isBlank).length := by
        rw [List.takeWhile_append_dropWhile]
    _ = trimStart u := List.drop_left

namespace Cursor.Corresponds

variable {t u : Text} {n : Nat} {e : Char} {caps : List Span} {d : Cursor}

/-- In front of a solid character both cursors go on behind it. -/
theorem cons_solid (alike : Corresponds t ⟨e :: u, n, caps⟩ d) (solid : isBlank e = false) :
    d.rest = e :: squeeze u ∧
      Corresponds t ⟨u, n + 1, caps⟩ ⟨squeeze u, d.position + 1, d.captured⟩ := by
  have front : d.rest = e :: squeeze u := by rw [← alike.squeezed, squeeze_cons_solid u e solid]
  refine ⟨front, ?_, ?_, rfl, alike.captured⟩
  · exact drop_succ_of_drop_eq_cons t u n e alike.rest_eq
  · exact drop_succ_of_drop_eq_cons _ _ _ e (alike.rest_eq'.trans front)

/-- In front of blanks both cursors go on behind them. -/
theorem cons_blank (alike : Corresponds t ⟨e :: u, n, caps⟩ d) (blank : isBlank e = true) :
    ∃ v, d.rest = ' ' :: v ∧
      Corresponds t ⟨trimStart u, n + 1 + (u.takeWhile isBlank).length, caps⟩
        ⟨trimStart v, d.position + 1 + (v.takeWhile isBlank).length, d.captured⟩ := by
  have front : d.rest = ' ' :: squeeze (trimStart u) := by
    rw [← alike.squeezed, squeeze_cons_blank u e blank]
  refine ⟨_, front, ?_, ?_, ?_, alike.captured⟩
  · exact drop_trimStart t u n e alike.rest_eq
  · exact drop_trimStart _ _ _ ' ' (alike.rest_eq'.trans front)
  · rw [trimStart_squeeze, trimStart_trimStart]

end Cursor.Corresponds

namespace Regex

open Cursor (Corresponds)

/-! ### Corresponding answers -/

/-- Whether both searches fail or end at corresponding cursors. -/
def EndsAlike (t : Text) : Option Cursor → Option Cursor → Prop := Option.Rel (Corresponds t)

theorem EndsAlike.or {t : Text} {a b a' b' : Option Cursor} (first : EndsAlike t a b)
    (second : EndsAlike t a' b') : EndsAlike t (a.orElse fun _ => a') (b.orElse fun _ => b') := by
  cases first with
  | some alike => exact .some alike
  | none => exact second

theorem endsAlike_findSome? {t : Text} {α : Type} (f g : α → Option Cursor) (xs : List α)
    (each : ∀ x ∈ xs, EndsAlike t (f x) (g x)) : EndsAlike t (xs.findSome? f) (xs.findSome? g) := by
  induction xs with
  | nil => exact .none
  | cons x xs ih =>
    obtain ⟨first, later⟩ := List.forall_mem_cons.mp each
    rw [List.findSome?_cons, List.findSome?_cons]
    generalize f x = a at first
    generalize g x = b at first
    cases first with
    | some alike => exact .some alike
    | none => exact ih later

theorem EndsAlike.isSome_eq {t : Text} {a b : Option Cursor} (ends : EndsAlike t a b) :
    a.isSome = b.isSome := by cases ends <;> rfl

/-- Whether two searches go on alike at corresponding cursors that are at least `n` characters
further than two cursors. -/
def Continues (t : Text) (n : Nat) (c d : Cursor) (k k' : Cursor → Option Cursor) : Prop :=
  ∀ c' d', Corresponds t c' d' → c'.rest.length + n ≤ c.rest.length →
    d'.rest.length + n ≤ d.rest.length → EndsAlike t (k c') (k' d')

/-- Whether the expression, which reads `n` characters or more, is searched without a difference in
a text and in the squeezed text. -/
def IsBlind (t : Text) (n : Nat) (r : Regex) : Prop :=
  ∀ c d k k', Corresponds t c d → Continues t n c d k k' → EndsAlike t (run r c k) (run r d k')

section

variable {t : Text} {n m : Nat} {r s : Regex}

theorem Continues.mono {c d : Cursor} {k k' : Cursor → Option Cursor}
    (continues : Continues t n c d k k') (le : n ≤ m) : Continues t m c d k k' :=
  fun c' d' alike less less' => continues c' d' alike (by omega) (by omega)

/-- Cursors further on are further on than what is in front of them. -/
theorem Continues.further {c d c' d' : Cursor} {k k' : Cursor → Option Cursor}
    (continues : Continues t n c d k k') (le : c'.rest.length ≤ c.rest.length)
    (le' : d'.rest.length ≤ d.rest.length) : Continues t n c' d' k k' :=
  fun c'' d'' alike less less' => continues c'' d'' alike (by omega) (by omega)

theorem IsBlind.mono (blind : IsBlind t n r) (le : m ≤ n) : IsBlind t m r :=
  fun c d k k' alike continues => blind c d k k' alike (continues.mono le)

theorem isBlind_empty : IsBlind t 0 .empty := fun c d _ _ alike continues =>
  continues c d alike le_rfl le_rfl

/-! ### Characters -/

section

variable (p : Char → Bool) (solid : ∀ e, p e = true → isBlank e = false)

include solid

/-- A class without blanks refuses both of two cursors, or they stand in front of one character. -/
theorem corresponds_cases (c d : Cursor) (alike : Corresponds t c d) :
    (∀ e ∈ c.rest.head?, p e = false) ∧ (∀ e ∈ d.rest.head?, p e = false) ∨
      ∃ e u v, c.rest = e :: u ∧ d.rest = e :: v ∧
        Corresponds t ⟨u, c.position + 1, c.captured⟩ ⟨v, d.position + 1, d.captured⟩ := by
  have refuses (e : Char) (blank : isBlank e = true) : p e = false :=
    eq_false_of_ne_true fun inside => by
      rw [solid e inside] at blank
      cases blank
  obtain ⟨rest, n, caps⟩ := c
  cases rest with
  | nil =>
    have none : d.rest = [] := alike.squeezed.symm
    exact .inl ⟨by simp, by simp [none]⟩
  | cons e u =>
    cases blank : isBlank e with
    | true =>
      obtain ⟨v, front, -⟩ := alike.cons_blank blank
      exact .inl ⟨by simp [refuses e blank], by simp [front, refuses ' ' isBlank_space]⟩
    | false =>
      obtain ⟨front, further⟩ := alike.cons_solid blank
      exact .inr ⟨e, u, _, rfl, front, further⟩

theorem endsAlike_runChar (c d : Cursor) (k k' : Cursor → Option Cursor) (alike : Corresponds t c d)
    (continues : Continues t 1 c d k k') : EndsAlike t (runChar p c k) (runChar p d k') := by
  have refused (c : Cursor) (k : Cursor → Option Cursor)
      (refuses : ∀ e ∈ c.rest.head?, p e = false) : runChar p c k = none := by
    obtain ⟨rest, n, caps⟩ := c
    cases rest with
    | nil => rfl
    | cons e u => simp [runChar, refuses e rfl]
  rcases corresponds_cases p solid c d alike with ⟨left, right⟩ | ⟨e, u, v, front, front', further⟩
  · rw [refused c k left, refused d k' right]
    exact .none
  · simp only [runChar, front, front']
    split
    · exact continues _ _ further (by simp [front]) (by simp [front'])
    · exact .none

theorem endsAlike_runGreedy (c d : Cursor) (k k' : Cursor → Option Cursor)
    (alike : Corresponds t c d) (continues : Continues t 0 c d k k') :
    EndsAlike t (runGreedy p c.captured k c.rest c.position)
      (runGreedy p d.captured k' d.rest d.position) := by
  have refused (c : Cursor) (k : Cursor → Option Cursor)
      (refuses : ∀ e ∈ c.rest.head?, p e = false) :
      runGreedy p c.captured k c.rest c.position = k c := by
    obtain ⟨rest, n, caps⟩ := c
    cases rest with
    | nil => rfl
    | cons e u => simp [runGreedy, refuses e rfl]
  obtain ⟨rest, n, caps⟩ := c
  -- the class is refused by both texts at once, so both searches read equally many characters
  induction rest generalizing n d with
  | nil =>
    have none : d.rest = [] := alike.squeezed.symm
    rw [refused _ k (by simp), refused d k' (by simp [none])]
    exact continues _ d alike le_rfl le_rfl
  | cons e u ih =>
    rcases corresponds_cases p solid _ d alike with ⟨left, right⟩ | ⟨e, u, v, ⟨⟩, front, further⟩
    · rw [refused _ k left, refused d k' right]
      exact continues _ d alike le_rfl le_rfl
    · have here := continues _ d alike le_rfl le_rfl
      have tail := ih ⟨v, d.position + 1, d.captured⟩ (n + 1) further
        (continues.further (by simp) (by simp [front]))
      obtain ⟨rest', n', caps'⟩ := d
      obtain rfl : rest' = e :: v := front
      simp only [runGreedy]
      split
      · exact tail.or here
      · exact here

end

theorem isBlind_nameChar : IsBlind t 1 .nameChar :=
  fun c d k k' => endsAlike_runChar isNameChar isBlank_of_isNameChar c d k k'

theorem isBlind_name : IsBlind t 1 .name := fun c d k k' alike continues => by
  refine endsAlike_runChar isNameChar isBlank_of_isNameChar c d _ _ alike ?_
  intro c' d' alike' less less'
  refine endsAlike_runGreedy isNameChar isBlank_of_isNameChar c' d' k k' alike' ?_
  exact fun c'' d'' alike'' le le' => continues c'' d'' alike'' (by omega) (by omega)

theorem endsAlike_runWord (w : Text) (solid : ∀ e ∈ w, isBlank e = false) (c d : Cursor)
    (k k' : Cursor → Option Cursor) (alike : Corresponds t c d)
    (continues : Continues t 0 c d k k') : EndsAlike t (runWord w c k) (runWord w d k') := by
  induction w generalizing c d with
  | nil => exact continues c d alike le_rfl le_rfl
  | cons x w ih =>
    obtain ⟨letter, letters⟩ := List.forall_mem_cons.mp solid
    have inWord (e : Char) (same : sameLetter x e = true) : isBlank e = false :=
      eq_false_of_ne_true fun blank => by
        rw [sameLetter_of_isBlank x e letter blank] at same
        cases same
    have refused (c : Cursor) (k : Cursor → Option Cursor)
        (refuses : ∀ e ∈ c.rest.head?, sameLetter x e = false) : runWord (x :: w) c k = none := by
      obtain ⟨rest, n, caps⟩ := c
      cases rest with
      | nil => rfl
      | cons e u => rw [runWord_cons, refuses e rfl]; rfl
    rcases corresponds_cases _ inWord c d alike with
      ⟨left, right⟩ | ⟨e, u, v, front, front', further⟩
    · rw [refused c k left, refused d k' right]
      exact .none
    · have tail := ih letters _ _ further
        (continues.further (by simp [front]) (by simp [front']))
      obtain ⟨rest, n, caps⟩ := c
      obtain ⟨rest', n', caps'⟩ := d
      obtain rfl : rest = e :: u := front
      obtain rfl : rest' = e :: v := front'
      rw [runWord_cons, runWord_cons]
      split
      · exact tail
      · exact .none

theorem isBlind_literal (w : Text) (solid : ∀ e ∈ w, isBlank e = false) :
    IsBlind t 0 (.literal w) := endsAlike_runWord w solid

theorem isBlind_oneOf (ws : List Text) (solid : ∀ w ∈ ws, ∀ e ∈ w, isBlank e = false) :
    IsBlind t 0 (.oneOf ws) := by
  intro c d k k' alike continues
  refine endsAlike_findSome? _ _ ws fun w member => ?_
  exact endsAlike_runWord w (solid w member) c d k k' alike continues

/-! ### Compound expressions -/

theorem IsBlind.cat (first : IsBlind t n r) (second : IsBlind t m s) :
    IsBlind t (n + m) (.cat r s) := by
  intro c d k k' alike continues
  refine first c d _ _ alike fun c' d' alike' less less' => ?_
  refine second c' d' k k' alike' fun c'' d'' alike'' further further' => ?_
  exact continues c'' d'' alike'' (by omega) (by omega)

theorem IsBlind.cat_assoc {u : Regex} (blind : IsBlind t n (.cat r (.cat s u))) :
    IsBlind t n (.cat (.cat r s) u) := blind

/-- What may be left out in front of an expression. -/
theorem IsBlind.opt_cat (taken : IsBlind t n (.cat r s)) (left : IsBlind t n s) :
    IsBlind t n (.cat (.opt r) s) := fun c d k k' alike continues =>
  (taken c d k k' alike continues).or (left c d k k' alike continues)

theorem IsBlind.notAhead (blind : IsBlind t n r) : IsBlind t 0 (.notAhead r) := by
  intro c d k k' alike continues
  have ahead : EndsAlike t (run r c some) (run r d some) :=
    blind c d _ _ alike fun _ _ alike' _ _ => .some alike'
  rw [run_notAhead, run_notAhead, ahead.isSome_eq]
  split
  · exact .none
  · exact continues c d alike le_rfl le_rfl

theorem IsBlind.capture (blind : IsBlind t n r) : IsBlind t n (.capture r) := by
  intro c d k k' alike continues
  refine blind c d _ _ alike fun c' d' alike' less less' => continues _ _ ?_ less less'
  -- the recorded span starts and stops where the cursors stand
  have span : Span.Corresponds t ⟨c.position, c'.position⟩ ⟨d.position, d'.position⟩ := by
    constructor
    · rw [alike.rest_eq, alike.rest_eq', alike.squeezed]
    · rw [alike'.rest_eq, alike'.rest_eq', alike'.squeezed]
  exact ⟨alike'.rest_eq, alike'.rest_eq', alike'.squeezed, .cons span alike'.captured⟩

/-! ### Blanks -/

/-- Whether the expression cannot be read at a blank. -/
def StartsSolid (r : Regex) : Prop := ∀ k, Refuses isBlank fun c => run r c k

theorem runGreedy_blanks (k : Cursor → Option Cursor) (refuses : Refuses isBlank k)
    (caps : List Span) (u : Text) (n : Nat) :
    runGreedy isBlank caps k u n = k ⟨trimStart u, n + (u.takeWhile isBlank).length, caps⟩ := by
  induction u generalizing n with
  | nil => rfl
  | cons e u ih =>
    cases blank : isBlank e with
    | true =>
      -- nothing comes of giving the blank back
      have back : (k ⟨e :: u, n, caps⟩) = none := refuses e u n caps blank
      rw [runGreedy, if_pos blank, ih, back, Option.orElse_eq_or, Option.or_none,
        trimStart_cons_blank u e blank, List.takeWhile_cons_of_pos blank, List.length_cons,
        Nat.add_assoc, Nat.add_comm 1]
    | false => simp [runGreedy, blank, trimStart_cons]

theorem run_blanks_cons (k : Cursor → Option Cursor) (refuses : Refuses isBlank k)
    (caps : List Span) (u : Text) (e : Char) (n : Nat) (blank : isBlank e = true) :
    run .blanks ⟨e :: u, n, caps⟩ k =
      k ⟨trimStart u, n + 1 + (u.takeWhile isBlank).length, caps⟩ := by
  rw [run, runChar]
  simp only [blank, if_true]
  exact runGreedy_blanks k refuses caps u (n + 1)

theorem IsBlind.blanks_cat (blind : IsBlind t n s) (solid : StartsSolid s) :
    IsBlind t (n + 1) (.cat .blanks s) := by
  intro c d k k' alike continues
  obtain ⟨rest, i, caps⟩ := c
  obtain ⟨rest', j, caps'⟩ := d
  cases rest with
  | nil =>
    obtain rfl : [] = rest' := alike.squeezed
    exact .none
  | cons e u =>
    cases blank : isBlank e with
    | false =>
      have inWord : isSolid e = true := by simp [isSolid, blank]
      -- there are no blanks to begin with on either side
      obtain ⟨front, -⟩ := alike.cons_solid blank
      obtain rfl : rest' = e :: squeeze u := front
      have left : run (.cat .blanks s) ⟨e :: u, i, caps⟩ k = none :=
        refuses_run_cat_blanks s k e u i caps inWord
      have right : run (.cat .blanks s) ⟨e :: squeeze u, j, caps'⟩ k' = none :=
        refuses_run_cat_blanks s k' e _ j caps' inWord
      rw [left, right]
      exact .none
    | true =>
      obtain ⟨v, front, further⟩ := alike.cons_blank blank
      obtain rfl : rest' = ' ' :: v := front
      -- both searches come out behind their blanks, in front of the same word
      rw [run_cat, run_cat, run_blanks_cons _ (solid k) caps u e i blank,
        run_blanks_cons _ (solid k') caps' v ' ' j isBlank_space]
      refine blind _ _ k k' further fun c' d' alike' less less' => continues c' d' alike' ?_ ?_
      · have shorter : (trimStart u).length ≤ u.length := (List.dropWhile_sublist _).length_le
        simp only [List.length_cons] at less ⊢
        omega
      · have shorter : (trimStart v).length ≤ v.length := (List.dropWhile_sublist _).length_le
        simp only [List.length_cons] at less' ⊢
        omega

/-- At the end of the text there is nothing to repeat. -/
theorem runRepeated_nil (s : Regex) (k : Cursor → Option Cursor) (bound : Nat) (c : Cursor)
    (done : c.rest = []) : runRepeated (run (.cat .blanks s)) k bound c = k c := by
  obtain ⟨rest, i, caps⟩ := c
  obtain rfl : rest = [] := done
  cases bound with
  | zero => rfl
  | succ bound =>
    rw [runRepeated, Option.orElse_eq_or]
    exact Option.or_none

/-- Every repetition reads something, so it does not matter that the lengths of the texts, which
bound the repetitions, differ. -/
theorem endsAlike_runRepeated (step : IsBlind t 1 (.cat .blanks s)) (i j : Nat) (c d : Cursor)
    (k k' : Cursor → Option Cursor) (alike : Corresponds t c d) (enough : c.rest.length ≤ i)
    (enough' : d.rest.length ≤ j) (continues : Continues t 0 c d k k') :
    EndsAlike t (runRepeated (run (.cat .blanks s)) k i c)
      (runRepeated (run (.cat .blanks s)) k' j d) := by
  have finished (c d : Cursor) (alike : Corresponds t c d) (continues : Continues t 0 c d k k')
      (done : c.rest = []) (i j : Nat) :
      EndsAlike t (runRepeated (run (.cat .blanks s)) k i c)
        (runRepeated (run (.cat .blanks s)) k' j d) := by
    have done' : d.rest = [] := by rw [← alike.squeezed, done]; rfl
    rw [runRepeated_nil s k i c done, runRepeated_nil s k' j d done']
    exact continues c d alike le_rfl le_rfl
  induction i generalizing j c d with
  | zero =>
    exact finished c d alike continues (List.length_eq_zero_iff.mp (Nat.le_zero.mp enough)) 0 j
  | succ i ih =>
    cases j with
    | zero =>
      have done' := List.length_eq_zero_iff.mp (Nat.le_zero.mp enough')
      rw [← alike.squeezed, squeeze_eq_nil_iff] at done'
      exact finished c d alike continues done' (i + 1) 0
    | succ j =>
      have here := continues c d alike le_rfl le_rfl
      refine here.or (step c d _ _ alike fun c' d' alike' less less' => ?_)
      exact ih j c' d' alike' (by omega) (by omega) (continues.further (by omega) (by omega))

theorem IsBlind.lazyMany (blind : IsBlind t n s) (solid : StartsSolid s) :
    IsBlind t 0 (.lazyMany (.cat .blanks s)) := by
  intro c d k k' alike continues
  have step := (blind.blanks_cat solid).mono (Nat.le_add_left 1 n)
  exact endsAlike_runRepeated step _ _ c d k k' alike le_rfl le_rfl continues

/-! ### Expressions that begin with a word -/

theorem startsSolid_literal (w : Text) (word : IsWord w) : StartsSolid (.literal w) := by
  obtain ⟨x, w, rfl⟩ := List.exists_cons_of_ne_nil word.1
  intro k e u i caps blank
  have different := sameLetter_of_isBlank x e (word.2 x List.mem_cons_self) blank
  change runWord (x :: w) ⟨e :: u, i, caps⟩ k = none
  rw [runWord_cons, different]
  rfl

theorem startsSolid_oneOf (ws : List Text) (proper : ∀ w ∈ ws, IsWord w) :
    StartsSolid (.oneOf ws) := fun k e u i caps blank =>
  List.findSome?_eq_none_iff.mpr fun w member =>
    startsSolid_literal w (proper w member) k e u i caps blank

theorem startsSolid_name : StartsSolid .name := by
  intro k e u i caps blank
  have outside : isNameChar e = false := eq_false_of_ne_true fun inside => by
    rw [isBlank_of_isNameChar e inside] at blank
    cases blank
  simp [run, runChar, outside]

theorem StartsSolid.cat (solid : StartsSolid r) : StartsSolid (.cat r s) :=
  fun k => solid fun d => run s d k

theorem StartsSolid.notAhead_cat (solid : StartsSolid s) : StartsSolid (.cat (.notAhead r) s) := by
  intro k e u i caps blank
  have behind : run s ⟨e :: u, i, caps⟩ k = none := solid k e u i caps blank
  simp only [run_cat, run_notAhead, behind, ite_self]

theorem StartsSolid.opt_cat (taken : StartsSolid (.cat r s)) (left : StartsSolid s) :
    StartsSolid (.cat (.opt r) s) := by
  intro k e u i caps blank
  have taken' : run r ⟨e :: u, i, caps⟩ (fun d => run s d k) = none := taken k e u i caps blank
  have left' : run s ⟨e :: u, i, caps⟩ k = none := left k e u i caps blank
  simp only [run, taken', left', Option.orElse_eq_or, Option.or_none]

theorem StartsSolid.capture (solid : StartsSolid r) : StartsSolid (.capture r) :=
  fun _ e u i caps => solid _ e u i caps

/-- Whether the expression begins with a word and does not depend on spacing. -/
structure IsSteady (t : Text) (r : Regex) : Prop where
  blind : IsBlind t 0 r
  solid : StartsSolid r

theorem isSteady_literal (w : Text) (word : IsWord w) : IsSteady t (.literal w) :=
  ⟨isBlind_literal w word.2, startsSolid_literal w word⟩

theorem isSteady_oneOf (ws : List Text) (proper : ∀ w ∈ ws, IsWord w) : IsSteady t (.oneOf ws) :=
  ⟨isBlind_oneOf ws fun w member => (proper w member).2, startsSolid_oneOf ws proper⟩

theorem isSteady_nameExcept (excluded : List Text) (proper : ∀ w ∈ excluded, IsWord w) :
    IsSteady t (nameExcept excluded) := by
  unfold nameExcept
  split
  · exact ⟨isBlind_name.mono (Nat.zero_le 1), startsSolid_name⟩
  · have words := isBlind_oneOf (t := t) excluded.eraseDups fun w member =>
      (proper w (List.mem_eraseDups.mp member)).2
    have ahead := (words.cat isBlind_nameChar.notAhead).notAhead
    exact ⟨(ahead.cat isBlind_name).mono (Nat.zero_le _), startsSolid_name.notAhead_cat⟩

theorem isSteady_phrase (excluded : List Text) (proper : ∀ w ∈ excluded, IsWord w) :
    IsSteady t (phrase excluded) := by
  have name := isSteady_nameExcept (t := t) excluded proper
  exact ⟨(name.blind.cat (name.blind.lazyMany name.solid)).capture, name.solid.cat.capture⟩

theorem isSteady_spaced (rs : List Regex) (nonempty : rs ≠ []) (steady : ∀ r ∈ rs, IsSteady t r) :
    IsSteady t (spaced rs) := by
  induction rs with
  | nil => exact absurd rfl nonempty
  | cons r rs ih =>
    obtain ⟨first, later⟩ := List.forall_mem_cons.mp steady
    cases rs with
    | nil => exact first
    | cons s rs =>
      have rest := ih (List.cons_ne_nil s rs) later
      exact ⟨(first.blind.cat (rest.blind.blanks_cat rest.solid)).mono (Nat.zero_le _),
        first.solid.cat⟩

end

end Regex

end TextAdventure
