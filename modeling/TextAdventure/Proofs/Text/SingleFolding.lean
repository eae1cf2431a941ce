import TextAdventure.Proofs.Text.Folding
import TextAdventure.Regex.Basic

/-!
Folding to one character. Where folding changes a character to a single other one, the two are the
same letter when case is ignored (`caseKey_of_foldChar`), and the one is part of a name if the other
is, but for the combining iota, which becomes a letter (`isNameChar_of_foldChar`). Both are read off
the tables run by run: a set of code points is a number that has their bits, and a run keeps it if
the bits from its first source on are those from its target on.
-/
namespace TextAdventure.Text

/-- A character that folds to one character is one of the first 128, is changed by a run, or stays
as it is. -/
theorem foldChar_single_cases (c d : Char) (single : foldChar c = [d]) :
    (c.toNat < 128 ∧ d = c.toLower) ∨
      (¬c.toNat < 128 ∧ ∃ r ∈ foldingRuns, r.image? c.toNat = some d.toNat) ∨ d = c := by
  unfold foldChar at single
  split at single
  next ascii => exact .inl ⟨ascii, (List.singleton_inj.mp single).symm⟩
  next large =>
    unfold mapCode at single
    split at single
    next m found =>
      obtain ⟨-, image⟩ := mem_of_mapped? c.toNat m found
      obtain ⟨r, member, moved⟩ := List.exists_of_findSome?_eq_some found
      rw [← List.singleton_inj.mp single, toNat_of_mem_foldingImages m image]
      exact .inr (.inl ⟨large, r, member, moved⟩)
    next =>
      split at single
      next ns listed =>
        -- expansions are longer
        have long : foldingExpansions.all (fun e => Nat.blt 1 e.2.length) = true := by decide
        obtain ⟨before, after, equal, -⟩ := List.lookup_eq_some_iff.mp listed
        have entry := List.all_eq_true.mp long (c.toNat, ns) (by simp [equal])
        have length := congrArg List.length single
        rw [List.length_map, List.length_singleton] at length
        rw [Nat.blt_eq, length] at entry
        exact absurd entry (Nat.lt_irrefl 1)
      · exact .inr (.inr (List.singleton_inj.mp single).symm)

/-! ### Names -/

/-- The code points of the characters of names among the first 128. -/
def plainNameRanges : List (Nat × Nat) :=
  [(39, 39), (45, 45), (48, 57), (65, 90), (95, 95), (97, 122)]

/-- The code points of the characters of names. -/
def nameRanges : List (Nat × Nat) := plainNameRanges ++ alphanumericRanges

theorem alphanumericRanges_large : alphanumericRanges.all (fun r => Nat.ble 128 r.1) = true := by
  decide +kernel

theorem isNameChar_eq_inRanges (c : Char) : isNameChar c = inRanges nameRanges c.toNat := by
  have split : inRanges nameRanges c.toNat =
      (inRanges plainNameRanges c.toNat || inRanges alphanumericRanges c.toNat) := List.any_append
  rw [split]
  by_cases ascii : c.toNat < 128
  · have outside : inRanges alphanumericRanges c.toNat = false :=
      inRanges_eq_false _ _ fun r member => .inl <| Nat.lt_of_lt_of_le ascii <|
        Nat.ble_eq.mp (List.all_eq_true.mp alphanumericRanges_large r member)
    rw [outside, Bool.or_false]
    clear outside split
    exact forall_ascii (by decide) c ascii
  · have small : ∀ r ∈ plainNameRanges, r.2 < 128 := by decide
    have outside : inRanges plainNameRanges c.toNat = false :=
      inRanges_eq_false _ _ fun r member => .inr <| Nat.lt_of_lt_of_le (small r member) <|
        Nat.le_of_not_lt ascii
    have other : ∀ d : Char, d.toNat < 128 → (c == d) = false := fun d low =>
      beq_eq_false_iff_ne.mpr fun same => ascii (same ▸ low)
    rw [outside, Bool.false_or, isNameChar, isWordChar, if_neg ascii, other _ (by decide),
      other _ (by decide), Bool.or_false, Bool.or_false]

theorem foldingRuns_keep_names :
    (foldingRuns.all fun r => r.isOnly 0x345 || r.keeps (bitsOfRanges nameRanges)) = true := by
  decide +kernel

/-- What folds to one character is part of a name if that character is, but for the combining
iota. -/
theorem isNameChar_of_foldChar (c d : Char) (single : foldChar c = [d])
    (other : c ≠ '\u0345') : isNameChar d = isNameChar c := by
  rcases foldChar_single_cases c d single with ⟨ascii, rfl⟩ | ⟨-, r, member, image⟩ | rfl
  · clear single other
    exact forall_ascii (by decide) c ascii
  · rw [isNameChar_eq_inRanges, isNameChar_eq_inRanges, ← testBit_bitsOfRanges,
      ← testBit_bitsOfRanges]
    rcases (Bool.or_eq_true _ _).mp (List.all_eq_true.mp foldingRuns_keep_names r member) with
      iota | keeps
    · exact absurd (Char.toNat_inj.mp (r.eq_of_isOnly 0x345 iota _ _ image)) other
    · exact r.testBit_of_keeps _ _ _ keeps image
  · rfl

/-! ### Keys -/

theorem caseKeyRuns_sorted : caseKeyRuns.Pairwise Run.Before :=
  List.isChain_iff_pairwise.mp (by decide +kernel)

/-- The code points whose key is another one. -/
def keySources : List Nat := caseKeyRuns.flatMap fun r => r.offsets.map (r.first + ·)

theorem caseKeyRuns_large : caseKeyRuns.all (fun r => Nat.ble 128 r.first) = true := by
  decide +kernel

theorem caseKey_of_image (c d : Char) (r : Run) (member : r ∈ caseKeyRuns)
    (image : r.image? c.toNat = some d.toNat) : caseKey c = d := by
  have first := (r.bounds _ _ image).1
  have large := Nat.ble_eq.mp (List.all_eq_true.mp caseKeyRuns_large r member)
  rw [caseKey, if_neg (by omega), mapped?_of_mem _ caseKeyRuns_sorted r member _ _ image]
  exact Char.ofNat_toNat d

theorem caseKey_of_not_mem (c : Char) (outside : c.toNat ∉ keySources)
    (small : c.toNat < 128 → c.toLower = c) : caseKey c = c := by
  unfold caseKey
  split
  next ascii => exact small ascii
  next =>
    have unmapped : mapped? caseKeyRuns c.toNat = none := by
      refine List.findSome?_eq_none_iff.mpr fun r member => ?_
      refine Option.eq_none_iff_forall_not_mem.mpr fun m image => outside ?_
      obtain ⟨k, offset, same, -⟩ := r.exists_offset _ _ image
      exact List.mem_flatMap.mpr ⟨r, member, List.mem_map.mpr ⟨k, offset, same⟩⟩
    rw [unmapped]

/-- Whether what the run folds has the same key as what it is folded to: the run gives the keys, or
the run backwards does. -/
def Run.keepsKeys (r : Run) : Bool :=
  (r.isAmong caseKeyRuns && r.avoids (bitsOf keySources) r.target) ||
    (r.swap.isAmong caseKeyRuns && r.avoids (bitsOf keySources) r.first)

theorem foldingRuns_keep_keys : foldingRuns.all Run.keepsKeys = true := by decide +kernel

/-- What folds to one character is the same letter as that character when case is ignored. -/
theorem caseKey_of_foldChar (c d : Char) (single : foldChar c = [d]) : caseKey d = caseKey c := by
  rcases foldChar_single_cases c d single with ⟨ascii, rfl⟩ | ⟨large, r, member, image⟩ | rfl
  · clear single
    exact forall_ascii (by decide) c ascii
  · obtain ⟨k, offset, source, target⟩ := r.exists_offset _ _ image
    rcases (Bool.or_eq_true _ _).mp (List.all_eq_true.mp foldingRuns_keep_keys r member) with
      forwards | backwards
    · obtain ⟨among, avoids⟩ := (Bool.and_eq_true _ _).mp forwards
      rw [caseKey_of_image c d r (r.mem_of_isAmong _ among) image]
      refine caseKey_of_not_mem d (target ▸ r.not_mem_of_avoids _ _ k avoids offset) fun ascii => ?_
      -- a capital would be folded again
      have again := foldChar_of_mem c d (single ▸ List.mem_singleton_self d)
      rw [foldChar, if_pos ascii] at again
      exact List.singleton_inj.mp again
    · obtain ⟨among, avoids⟩ := (Bool.and_eq_true _ _).mp backwards
      rw [caseKey_of_image d c r.swap (r.swap.mem_of_isAmong _ among) (r.image?_swap _ _ image)]
      refine (caseKey_of_not_mem c ?_ fun ascii => absurd ascii large).symm
      exact source ▸ r.not_mem_of_avoids _ _ k avoids offset
  · rfl

/-! ### Texts whose characters fold to single ones -/

theorem map_caseKey_casefold (t : Text) (single : ∀ c ∈ t, (foldChar c).length = 1) :
    (casefold t).map caseKey = t.map caseKey := by
  have key : ∀ c ∈ t, (foldChar c).map caseKey = [caseKey c] := by
    intro c member
    obtain ⟨d, one⟩ := List.length_eq_one_iff.mp (single c member)
    rw [one, List.map_singleton, caseKey_of_foldChar c d one]
  calc (casefold t).map caseKey
      = t.flatMap fun c => (foldChar c).map caseKey := List.map_flatMap ..
    _ = t.flatMap fun c => [caseKey c] := List.flatMap_congr key
    _ = t.map caseKey := List.map_eq_flatMap.symm

theorem forall_isNameChar_casefold (t : Text)
    (single : ∀ c ∈ t, (foldChar c).length = 1 ∧ c ≠ '\u0345') :
    (∀ d ∈ casefold t, isNameChar d = true) ↔ ∀ c ∈ t, isNameChar c = true := by
  rw [casefold, List.forall_mem_flatMap]
  refine forall₂_congr fun c member => ?_
  obtain ⟨length, other⟩ := single c member
  obtain ⟨d, one⟩ := List.length_eq_one_iff.mp length
  rw [one, List.forall_mem_singleton, isNameChar_of_foldChar c d one other]

end TextAdventure.Text
