import Mathlib.Data.List.Basic
import TextAdventure.Text.CodeTable

/-!
Runs of code points. What a run maps is told by offsets, which are the same for its code points and
for their images. Where every run ends before the next one begins, a code point is mapped by the run
it lies in (`mapped?_of_mem`). A set of code points is written as the number that has their bits, so
that a run is compared with a set at once and not code point by code point.
-/
namespace TextAdventure.Text

theorem inRanges_eq_false (rs : List (Nat × Nat)) (n : Nat)
    (apart : ∀ r ∈ rs, n < r.1 ∨ r.2 < n) : inRanges rs n = false := by
  refine List.any_eq_false.mpr fun r member => ?_
  have clear := apart r member
  simp only [Bool.and_eq_true, Nat.ble_eq]
  omega

/-- The offsets of the code points of a run. -/
def Run.offsets (r : Run) : List Nat :=
  (List.range (r.last - r.first + 1)).filter fun k => Nat.beq (k % r.step) 0

theorem Run.bounds (r : Run) (n m : Nat) (image : r.image? n = some m) :
    r.first ≤ n ∧ n ≤ r.last := by
  unfold Run.image? at image
  split at image
  next within =>
    simp only [Bool.and_eq_true, Nat.ble_eq] at within
    exact within.1
  · cases image

theorem Run.exists_offset (r : Run) (n m : Nat) (image : r.image? n = some m) :
    ∃ k ∈ r.offsets, r.first + k = n ∧ r.target + k = m := by
  obtain ⟨low, high⟩ := r.bounds n m image
  unfold Run.image? at image
  split at image
  next within =>
    have step := ((Bool.and_eq_true _ _).mp within).2
    exact ⟨n - r.first, List.mem_filter.mpr ⟨List.mem_range.mpr (by omega), step⟩,
      Nat.add_sub_cancel' low, Option.some.inj image⟩
  · cases image

/-- Whether the run has no code point but this one. -/
def Run.isOnly (p : Nat) (r : Run) : Bool := Nat.beq r.first p && Nat.beq r.last p

theorem Run.eq_of_isOnly (p : Nat) (r : Run) (only : r.isOnly p = true) (n m : Nat)
    (image : r.image? n = some m) : n = p := by
  obtain ⟨low, high⟩ := r.bounds n m image
  simp only [Run.isOnly, Bool.and_eq_true, Nat.beq_eq] at only
  exact Nat.le_antisymm (only.2 ▸ high) (only.1 ▸ low)

/-! ### Tables of runs -/

/-- Whether one run ends before the other begins. -/
def Run.Before (r s : Run) : Prop := r.last < s.first ∧ s.first ≤ s.last

instance : DecidableRel Run.Before := fun _ _ => inferInstanceAs (Decidable (_ ∧ _))

instance : Trans Run.Before Run.Before Run.Before where
  trans earlier later :=
    ⟨Nat.lt_trans earlier.1 (Nat.lt_of_le_of_lt earlier.2 later.1), later.2⟩

/-- Where the runs are apart a code point is mapped by the run it lies in. -/
theorem mapped?_of_mem (runs : List Run) (sorted : runs.Pairwise Run.Before) (r : Run)
    (member : r ∈ runs) (n m : Nat) (image : r.image? n = some m) : mapped? runs n = some m := by
  induction sorted with
  | nil => cases member
  | @cons s runs before _ ih =>
    rcases List.mem_cons.mp member with rfl | later
    · simp [mapped?, image]
    · have missed : s.image? n = none := by
        refine Option.eq_none_iff_forall_not_mem.mpr fun k moved => ?_
        have first := (r.bounds n m image).1
        have last := (s.bounds n k moved).2
        have apart := (before r later).1
        omega
      rw [mapped?, List.findSome?_cons, missed]
      exact ih later

/-- Whether the run is one of the runs. -/
def Run.isAmong (runs : List Run) (r : Run) : Bool :=
  runs.any fun s => Nat.beq s.first r.first && Nat.beq s.last r.last && Nat.beq s.step r.step &&
    Nat.beq s.target r.target

theorem Run.mem_of_isAmong (runs : List Run) (r : Run) (among : r.isAmong runs = true) :
    r ∈ runs := by
  obtain ⟨⟨first, last, step, target⟩, member, same⟩ := List.any_eq_true.mp among
  simp only [Bool.and_eq_true, Nat.beq_eq] at same
  obtain ⟨⟨⟨rfl, rfl⟩, rfl⟩, rfl⟩ := same
  exact member

/-- The run backwards. -/
def Run.swap (r : Run) : Run := ⟨r.target, r.target + (r.last - r.first), r.step, r.first⟩

theorem Run.image?_swap (r : Run) (n m : Nat) (image : r.image? n = some m) :
    r.swap.image? m = some n := by
  obtain ⟨k, offset, rfl, rfl⟩ := r.exists_offset n m image
  obtain ⟨less, step⟩ := List.mem_filter.mp offset
  have bound := List.mem_range.mp less
  have within : r.target + k ≤ r.target + (r.last - r.first) := by omega
  simp [Run.image?, Run.swap, within, step]

/-! ### Sets of code points -/

/-- The number that has the bits of the list. -/
def bitsOf (ns : List Nat) : Nat := ns.foldr (fun n bits => (1 <<< n) ||| bits) 0

theorem testBit_bitsOf (ns : List Nat) (n : Nat) : (bitsOf ns).testBit n = decide (n ∈ ns) := by
  induction ns with
  | nil => simp [bitsOf]
  | cons m ms ih =>
    change ((1 <<< m) ||| bitsOf ms).testBit n = _
    rw [Nat.testBit_or, ih, Nat.one_shiftLeft, Nat.testBit_two_pow]
    simp [eq_comm]

/-- The number that has the bits of the ranges. -/
def bitsOfRanges (rs : List (Nat × Nat)) : Nat :=
  rs.foldr (fun r bits => (((1 <<< (r.2 + 1 - r.1)) - 1) <<< r.1) ||| bits) 0

theorem testBit_bitsOfRanges (rs : List (Nat × Nat)) (n : Nat) :
    (bitsOfRanges rs).testBit n = inRanges rs n := by
  induction rs with
  | nil => simp [bitsOfRanges, inRanges]
  | cons r rs ih =>
    have range : (((1 <<< (r.2 + 1 - r.1)) - 1) <<< r.1).testBit n =
        (Nat.ble r.1 n && Nat.ble n r.2) := by
      rw [Nat.testBit_shiftLeft, Nat.one_shiftLeft, Nat.testBit_two_pow_sub_one, Bool.eq_iff_iff]
      simp only [Bool.and_eq_true, decide_eq_true_eq, Nat.ble_eq]
      omega
    change ((((1 <<< (r.2 + 1 - r.1)) - 1) <<< r.1) ||| bitsOfRanges rs).testBit n = _
    rw [Nat.testBit_or, ih, range]
    rfl

/-- Whether the run moves no code point into the set of the bits or out of it. -/
def Run.keeps (bits : Nat) (r : Run) : Bool :=
  Nat.beq ((bits >>> r.first) &&& bitsOf r.offsets) ((bits >>> r.target) &&& bitsOf r.offsets)

theorem Run.testBit_of_keeps (bits : Nat) (r : Run) (n m : Nat) (keeps : r.keeps bits = true)
    (image : r.image? n = some m) : bits.testBit m = bits.testBit n := by
  obtain ⟨k, offset, rfl, rfl⟩ := r.exists_offset n m image
  have same := congrArg (Nat.testBit · k) (Nat.eq_of_beq_eq_true keeps)
  simpa [Nat.testBit_and, testBit_bitsOf, offset] using same.symm

/-- Whether none of the code points at the offsets of the run, counted from `start`, is in the set
of the bits. -/
def Run.avoids (bits start : Nat) (r : Run) : Bool :=
  Nat.beq ((bits >>> start) &&& bitsOf r.offsets) 0

theorem Run.not_mem_of_avoids (ns : List Nat) (start : Nat) (r : Run) (k : Nat)
    (avoids : r.avoids (bitsOf ns) start = true) (offset : k ∈ r.offsets) : start + k ∉ ns := by
  have bit := congrArg (Nat.testBit · k) (Nat.eq_of_beq_eq_true avoids)
  simpa [Nat.testBit_and, testBit_bitsOf, offset] using bit

end TextAdventure.Text
