import Mathlib.Data.List.Forall2
import Mathlib.Data.List.Lex
import TextAdventure.Proofs.Regex.WordSearch

/-!
Readings of a row of words by a pattern: divisions of the words among the elements, judged word by
word and without any text. `Pattern.IsReading` says what a reading is and `Pattern.IsFirstReading`
which of several readings counts. `readings` lists them: its members are exactly the readings
(`Pattern.mem_readings`), and it is sorted by preference (`pairwise_readings`), so that its head is
the first reading.
-/
namespace TextAdventure

/-- The word is one of the choice's words in the spelling of `spell`, case ignored. -/
def Choice.Accepts (spell : Text → Text) (c : Choice) (u : Text) : Prop :=
  ∃ w ∈ c.words, Text.sameLetters (spell w) u = true

/-- What an element may take: a choice one of its words; optional text nothing or one word for each
of its choices; a capture one or more words made of name characters, none of them excluded; a
wildcard anything. -/
def Element.Accepts (spell : Text → Text) (excluded : List Text) : Element → List Text → Prop
  | choice c, share => ∃ u, share = [u] ∧ c.Accepts spell u
  | optional c cs, share => share = [] ∨ List.Forall₂ (Choice.Accepts spell) (c :: cs) share
  | capture _, share =>
    share ≠ [] ∧ ∀ u ∈ share, (∀ d ∈ u, isNameChar d = true) ∧
      ∀ w ∈ excluded, Text.sameLetters (spell w) u = false
  | wildcard, _ => True

/-- A division of all the words, in order, among the elements of a pattern. -/
structure Pattern.IsReading (p : Pattern) (spell : Text → Text) (ws : List Text)
    (shares : List (List Text)) : Prop where
  length_eq : shares.length = p.elements.length
  flatten_eq : shares.flatten = ws
  accepts : ∀ (i : Nat) (e : Element) (share : List Text),
    p.elements[i]? = some e → shares[i]? = some share → e.Accepts spell (p.excludedAt i) share

/-- Of two sizes of a share the preferred one: some words rather than none, and then few rather than
many. -/
def Sooner (n m : Nat) : Prop := n ≠ 0 ∧ (m = 0 ∨ n < m)

instance : Std.Asymm Sooner where
  asymm n m h h' := by
    obtain ⟨nonzero, less⟩ := h
    obtain ⟨nonzero', less'⟩ := h'
    omega

/-- One reading comes before another if at the first element where they differ it has the preferred
share. -/
def Precedes (r s : List (List Text)) : Prop :=
  List.Lex Sooner (r.map List.length) (s.map List.length)

instance : Std.Asymm Precedes where
  asymm _ _ := Std.Asymm.asymm (r := List.Lex Sooner) _ _

/-- The reading that counts. -/
structure Pattern.IsFirstReading (p : Pattern) (spell : Text → Text) (ws : List Text)
    (shares : List (List Text)) : Prop where
  isReading : p.IsReading spell ws shares
  precedes : ∀ other, p.IsReading spell ws other → other = shares ∨ Precedes shares other

/-- The stretches of text that the captures take in a reading, where the first word of the first
share stands at `start` and words are one space apart. -/
def captureSpans : Nat → List Element → List (List Text) → List (Text × Span)
  | start, .capture name :: es, share :: shares =>
    (name, ⟨start, start + (Text.unwords share).length⟩) ::
      captureSpans (start + (Text.afterWord share).length) es shares
  | start, _ :: es, share :: shares =>
    captureSpans (start + (Text.afterWord share).length) es shares
  | _, _, _ => []

/-! ### Listing the readings -/

/-- Whether the word is one of the choice's words. -/
def Choice.accepts (spell : Text → Text) (c : Choice) (u : Text) : Bool :=
  c.words.any fun w => Text.sameLetters (spell w) u

/-- Whether the words begin with one word for each choice. -/
def acceptsAll (spell : Text → Text) : List Choice → List Text → Bool
  | [], _ => true
  | _ :: _, [] => false
  | c :: cs, u :: us => c.accepts spell u && acceptsAll spell cs us

/-- How many of the words the element may take, if any; preferred numbers first. -/
def Element.takes (spell : Text → Text) (before : List Element) : Element → List Text → List Nat
  | choice _, [] => []
  | choice c, u :: _ => if c.accepts spell u then [1] else []
  | optional c cs, us => if acceptsAll spell (c :: cs) us then [cs.length + 1] else []
  | capture _, us =>
    let admitted := us.takeWhile (Regex.admits ((excludedWords before).map spell))
    (List.range admitted.length).map (· + 1)
  | wildcard, us => (List.range us.length).map (· + 1)

/-- How many of the words the element may take, none of them included. -/
def Element.sizes (spell : Text → Text) (before : List Element) (e : Element) (us : List Text) :
    List Nat :=
  e.takes spell before us ++ if e.isRequired then [] else [0]

/-- The readings of words by the elements behind others, which are given nearest first. -/
def readings (spell : Text → Text) (before : List Element) :
    List Element → List Text → List (List (List Text))
  | [], us => if us.isEmpty then [[]] else []
  | e :: es, us =>
    (e.sizes spell before us).flatMap fun m =>
      (readings spell (e :: before) es (us.drop m)).map (us.take m :: ·)

theorem Choice.accepts_iff (spell : Text → Text) (c : Choice) (u : Text) :
    c.accepts spell u = true ↔ c.Accepts spell u := List.any_eq_true

theorem acceptsAll_iff (spell : Text → Text) (cs : List Choice) (us : List Text) :
    acceptsAll spell cs us = true ↔
      cs.length ≤ us.length ∧ List.Forall₂ (Choice.Accepts spell) cs (us.take cs.length) := by
  induction cs generalizing us with
  | nil => simp [acceptsAll]
  | cons c cs ih =>
    cases us with
    | nil => simp [acceptsAll]
    | cons u us =>
      simp only [acceptsAll, Bool.and_eq_true, ih, Choice.accepts_iff, List.length_cons,
        Nat.add_le_add_iff_right, List.take_succ_cons, List.forall₂_cons]
      exact and_left_comm

theorem admits_iff (spell : Text → Text) (excluded : List Text) (u : Text) :
    Regex.admits (excluded.map spell) u = true ↔ (∀ d ∈ u, isNameChar d = true) ∧
      ∀ w ∈ excluded, Text.sameLetters (spell w) u = false := by
  simp only [Regex.admits, Bool.and_eq_true, Bool.not_eq_true', List.all_eq_true,
    List.any_map, List.any_eq_false, Function.comp_apply, Bool.not_eq_true]

theorem le_length_takeWhile_iff {α : Type} (q : α → Bool) (xs : List α) (m : Nat) :
    m ≤ (xs.takeWhile q).length ↔ m ≤ xs.length ∧ ∀ x ∈ xs.take m, q x = true := by
  induction xs generalizing m with
  | nil => simp
  | cons x xs ih =>
    cases m with
    | zero => simp
    | succ m =>
      by_cases holds : q x = true
      · simp [holds, ih]
      · simp [holds]

theorem mem_map_succ_range (n m : Nat) :
    m ∈ (List.range n).map (· + 1) ↔ m ≠ 0 ∧ m ≤ n := by
  simp only [List.mem_map, List.mem_range]
  constructor
  · rintro ⟨i, less, rfl⟩
    omega
  · rintro ⟨nonzero, bound⟩
    exact ⟨m - 1, by omega, by omega⟩

theorem forall₂_take_iff {α β : Type} (R : α → β → Prop) (xs : List α) (ys : List β) (m : Nat) :
    (m ≤ ys.length ∧ List.Forall₂ R xs (ys.take m)) ↔
      m = xs.length ∧ m ≤ ys.length ∧ List.Forall₂ R xs (ys.take xs.length) := by
  constructor
  · rintro ⟨bound, related⟩
    have length : m = xs.length := by
      rw [related.length_eq, List.length_take, Nat.min_eq_left bound]
    exact ⟨length, bound, length ▸ related⟩
  · rintro ⟨rfl, bound, related⟩
    exact ⟨bound, related⟩

/-- The listed sizes are the sizes of the acceptable shares. -/
theorem Element.mem_sizes (spell : Text → Text) (before : List Element) (e : Element)
    (us : List Text) (m : Nat) :
    m ∈ e.sizes spell before us ↔
      m ≤ us.length ∧ e.Accepts spell (excludedWords before) (us.take m) := by
  cases e with
  | choice c =>
    cases us with
    | nil => simp [sizes, takes, isRequired, Accepts]
    | cons u us =>
      have single : (m ≤ (u :: us).length ∧
          ∃ v, (u :: us).take m = [v] ∧ c.Accepts spell v) ↔ m = 1 ∧ c.Accepts spell u := by
        constructor
        · rintro ⟨bound, v, taken, accepted⟩
          have length : m = 1 := by
            rw [← Nat.min_eq_left bound, ← List.length_take, taken, List.length_singleton]
          subst length
          have same : u = v := by simpa using taken
          exact ⟨rfl, same ▸ accepted⟩
        · rintro ⟨rfl, accepted⟩
          exact ⟨by simp, u, rfl, accepted⟩
      simp only [sizes, takes, isRequired, if_true, List.append_nil, Accepts]
      rw [single, ← Choice.accepts_iff]
      by_cases accepted : c.accepts spell u = true <;> simp [accepted]
  | optional c cs =>
    -- a share is empty or as long as the row of choices
    have items := forall₂_take_iff (Choice.Accepts spell) (c :: cs) us m
    have all := acceptsAll_iff spell (c :: cs) us
    have empty : (m ≤ us.length ∧ us.take m = []) ↔ m = 0 := by
      rw [List.take_eq_nil_iff]
      constructor
      · rintro ⟨bound, rfl | rfl⟩
        · rfl
        · exact Nat.le_zero.mp bound
      · rintro rfl
        exact ⟨Nat.zero_le _, Or.inl rfl⟩
    simp only [sizes, takes, isRequired, Accepts, and_or_left, items, empty, List.mem_append,
      Bool.false_eq_true, if_false, List.mem_singleton]
    rw [or_comm]
    refine or_congr_right ?_
    constructor
    · intro member
      split at member
      next accepted =>
        obtain ⟨bound, related⟩ := all.mp accepted
        obtain rfl := List.mem_singleton.mp member
        exact ⟨rfl, bound, related⟩
      · cases member
    · rintro ⟨rfl, bound, related⟩
      rw [if_pos (all.mpr ⟨bound, related⟩)]
      exact List.mem_singleton_self _
  | capture name =>
    -- the admitted words in front of the first other one bound the share
    have nonempty : (m ≤ us.length ∧ us.take m ≠ []) ↔ m ≠ 0 ∧ m ≤ us.length := by
      rw [ne_eq, List.take_eq_nil_iff]
      constructor
      · rintro ⟨bound, taken⟩
        exact ⟨fun zero => taken (Or.inl zero), bound⟩
      · rintro ⟨nonzero, bound⟩
        refine ⟨bound, ?_⟩
        rintro (zero | rfl)
        · exact nonzero zero
        · exact nonzero (Nat.le_zero.mp bound)
    simp only [sizes, takes, isRequired, if_true, List.append_nil, mem_map_succ_range,
      le_length_takeWhile_iff, admits_iff, Accepts, ← and_assoc, nonempty]
  | wildcard =>
    simp only [sizes, takes, isRequired, Accepts, List.mem_append, mem_map_succ_range,
      Bool.false_eq_true, if_false, List.mem_singleton, and_true]
    omega

theorem mem_readings (spell : Text → Text) (before es : List Element) (us : List Text)
    (shares : List (List Text)) :
    shares ∈ readings spell before es us ↔
      shares.length = es.length ∧ shares.flatten = us ∧
        ∀ (i : Nat) (e : Element) (share : List Text),
          es[i]? = some e → shares[i]? = some share →
            e.Accepts spell (excludedWords ((es.take i).reverse ++ before)) share := by
  -- the elements in front are part of the statement, since they decide what a capture may not take
  induction es generalizing before us shares with
  | nil =>
    cases us with
    | nil =>
      simp only [readings, List.isEmpty_nil, if_true, List.mem_singleton]
      constructor
      · rintro rfl
        simp
      · rintro ⟨length, -⟩
        exact List.length_eq_zero_iff.mp length
    | cons u us =>
      simp only [readings, List.isEmpty_cons, Bool.false_eq_true, if_false, List.not_mem_nil,
        List.length_nil, List.length_eq_zero_iff, false_iff]
      rintro ⟨rfl, flat, -⟩
      cases flat
  | cons e es ih =>
    simp only [readings, List.mem_flatMap, List.mem_map, ih, Element.mem_sizes]
    constructor
    · rintro ⟨m, ⟨-, accepted⟩, rest, ⟨length, flat, others⟩, rfl⟩
      refine ⟨by simp [length], by simp [flat], fun i f share atElement atShare => ?_⟩
      cases i with
      | zero =>
        obtain rfl : e = f := by simpa using atElement
        obtain rfl : us.take m = share := by simpa using atShare
        exact accepted
      | succ i => simpa using others i f share (by simpa using atElement) (by simpa using atShare)
    · rintro ⟨length, flat, all⟩
      cases shares with
      | nil => simp at length
      | cons share rest =>
        rw [List.flatten_cons] at flat
        subst flat
        refine ⟨share.length, ⟨by simp, ?_⟩, rest, ⟨by simpa using length, by simp, ?_⟩, by simp⟩
        · simpa using all 0 e share rfl rfl
        · intro i f other atElement atShare
          simpa using all (i + 1) f other (by simpa using atElement) (by simpa using atShare)

/-- The list holds exactly the readings of the pattern. -/
theorem Pattern.mem_readings (p : Pattern) (spell : Text → Text) (ws : List Text)
    (shares : List (List Text)) :
    shares ∈ readings spell [] p.elements ws ↔ p.IsReading spell ws shares := by
  rw [TextAdventure.mem_readings]
  simp only [List.append_nil]
  constructor
  · rintro ⟨length, flat, all⟩
    exact ⟨length, flat, all⟩
  · rintro ⟨length, flat, all⟩
    exact ⟨length, flat, all⟩

/-! ### The order of the list -/

theorem pairwise_map_succ_range (n : Nat) :
    ((List.range n).map (· + 1)).Pairwise Sooner := by
  rw [List.pairwise_map]
  apply List.pairwise_lt_range.imp
  intro n m less
  exact ⟨Nat.succ_ne_zero _, Or.inr (Nat.succ_lt_succ less)⟩

theorem Element.pairwise_takes (spell : Text → Text) (before : List Element) (e : Element)
    (us : List Text) : (e.takes spell before us).Pairwise Sooner := by
  cases e with
  | choice c =>
    cases us with
    | nil => exact .nil
    | cons u us =>
      simp only [takes]
      split
      · exact List.pairwise_singleton _ _
      · exact .nil
  | optional c cs =>
    simp only [takes]
    split
    · exact List.pairwise_singleton _ _
    · exact .nil
  | capture name => exact pairwise_map_succ_range _
  | wildcard => exact pairwise_map_succ_range _

theorem Element.ne_zero_of_mem_takes (spell : Text → Text) (before : List Element) (e : Element)
    (us : List Text) (m : Nat) (member : m ∈ e.takes spell before us) : m ≠ 0 := by
  cases e with
  | choice c =>
    cases us with
    | nil => cases member
    | cons u us =>
      unfold takes at member
      split at member <;> simp_all
  | optional c cs =>
    unfold takes at member
    split at member <;> simp_all
  | capture name => exact ((mem_map_succ_range _ m).mp member).1
  | wildcard => exact ((mem_map_succ_range _ m).mp member).1

theorem Element.pairwise_sizes (spell : Text → Text) (before : List Element) (e : Element)
    (us : List Text) : (e.sizes spell before us).Pairwise Sooner := by
  unfold sizes
  rw [List.pairwise_append]
  refine ⟨e.pairwise_takes spell before us, by split <;> simp, fun n hn m hm => ?_⟩
  have zero : m = 0 := by
    split at hm
    · cases hm
    · exact List.mem_singleton.mp hm
  exact ⟨e.ne_zero_of_mem_takes spell before us n hn, Or.inl zero⟩

/-- The list is sorted by preference. -/
theorem pairwise_readings (spell : Text → Text) (before es : List Element) (us : List Text) :
    (readings spell before es us).Pairwise Precedes := by
  induction es generalizing before us with
  | nil =>
    unfold readings
    split <;> simp
  | cons e es ih =>
    rw [readings, List.pairwise_flatMap]
    constructor
    · -- readings that begin with the same share are sorted by what follows it
      intro m _
      rw [List.pairwise_map]
      exact (ih (e :: before) (us.drop m)).imp fun earlier => List.Lex.cons earlier
    · -- otherwise the sizes of the first shares decide, and they are listed in order
      have bounded : ∀ m ∈ e.sizes spell before us, (us.take m).length = m := fun m member => by
        rw [List.length_take, Nat.min_eq_left ((e.mem_sizes spell before us m).mp member).1]
      refine (e.pairwise_sizes spell before us).imp_of_mem fun {n m} hn hm sooner => ?_
      intro r hr s hs
      obtain ⟨rest, -, rfl⟩ := List.mem_map.mp hr
      obtain ⟨rest', -, rfl⟩ := List.mem_map.mp hs
      apply List.Lex.rel
      rw [bounded n hn, bounded m hm]
      exact sooner

/-- The head of the list is the first reading, and there is no other one. -/
theorem Pattern.head?_readings (p : Pattern) (spell : Text → Text) (ws : List Text)
    (shares : List (List Text)) :
    (readings spell [] p.elements ws).head? = some shares ↔ p.IsFirstReading spell ws shares := by
  have sorted := pairwise_readings spell [] p.elements ws
  have members := p.mem_readings spell ws
  cases listed : readings spell [] p.elements ws with
  | nil =>
    rw [listed] at members
    simp only [List.head?_nil, reduceCtorEq, false_iff]
    exact fun first => List.not_mem_nil ((members shares).mpr first.isReading)
  | cons first others =>
    rw [listed] at members sorted
    obtain ⟨least, -⟩ := List.pairwise_cons.mp sorted
    rw [List.head?_cons, Option.some.injEq]
    constructor
    · rintro rfl
      refine ⟨(members first).mp List.mem_cons_self, ?_⟩
      intro other reading
      rcases List.mem_cons.mp ((members other).mpr reading) with same | later
      · exact Or.inl same
      · exact Or.inr (least other later)
    · rintro ⟨reading, precedes⟩
      rcases List.mem_cons.mp ((members shares).mpr reading) with same | later
      · exact same.symm
      · -- a reading further down would have to come before the head, which comes before it
        rcases precedes first ((members first).mp List.mem_cons_self) with same | earlier
        · exact same
        · exact absurd earlier (Std.Asymm.asymm _ _ (least shares later))

end TextAdventure
