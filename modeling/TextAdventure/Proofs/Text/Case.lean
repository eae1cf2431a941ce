import TextAdventure.Proofs.Text.Runs
import TextAdventure.Proofs.Text.Words
import TextAdventure.Text.CaseKey
import TextAdventure.Text.Normal
import TextAdventure.Text.WordChar

/-!
Blanks under the tables of characters. No word character is a blank (`isBlank_of_isWordChar`). No
case table moves a character onto a blank, so a comparison that ignores case never takes a space for
a letter (`sameLetter_space`), and folding a word gives a word (`isWord_casefold`). Both are read off
the runs: the images of a run fill an interval, and no such interval meets the blanks.
-/
namespace TextAdventure.Text

/-- What holds of the first 128 code points, one by one, holds of their characters. -/
@[elab_as_elim]
theorem forall_ascii {P : Char → Prop} (table : ∀ n < 128, P (Char.ofNat n)) (c : Char)
    (ascii : c.toNat < 128) : P c := by
  have entry := table c.toNat ascii
  rwa [Char.ofNat_toNat] at entry

/-- The code points of blanks. -/
def blankRanges : List (Nat × Nat) :=
  [(9, 13), (28, 32), (0x85, 0x85), (0xA0, 0xA0), (0x1680, 0x1680), (0x2000, 0x200A),
    (0x2028, 0x2029), (0x202F, 0x202F), (0x205F, 0x205F), (0x3000, 0x3000)]

theorem isBlank_eq_inRanges (c : Char) : isBlank c = inRanges blankRanges c.toNat := by
  rw [Bool.eq_iff_iff]
  simp only [isBlank, inRanges, blankRanges, List.any_cons, List.any_nil, Bool.or_eq_true,
    Bool.and_eq_true, decide_eq_true_eq, beq_iff_eq, Nat.ble_eq, Bool.or_false]
  omega

/-- Whether the images of the run stay clear of the blanks. -/
def Run.avoidsBlanks (r : Run) : Bool :=
  blankRanges.all fun b => Nat.blt (r.target + (r.last - r.first)) b.1 || Nat.blt b.2 r.target

theorem Run.image_of_avoidsBlanks (r : Run) (n m : Nat) (avoids : r.avoidsBlanks = true)
    (image : r.image? n = some m) : inRanges blankRanges m = false := by
  obtain ⟨low, high⟩ := r.bounds n m image
  obtain ⟨k, -, source, target⟩ := r.exists_offset n m image
  simp only [Run.avoidsBlanks, List.all_eq_true, Bool.or_eq_true, Nat.blt_eq] at avoids
  refine inRanges_eq_false _ m fun b member => ?_
  have apart := avoids b member
  omega

theorem mapped?_avoidsBlanks (runs : List Run) (n m : Nat)
    (avoids : runs.all Run.avoidsBlanks = true) (image : mapped? runs n = some m) :
    inRanges blankRanges m = false := by
  obtain ⟨r, member, found⟩ := List.exists_of_findSome?_eq_some image
  exact r.image_of_avoidsBlanks n m (List.all_eq_true.mp avoids r member) found

theorem toNat_ofNat (n : Nat) (valid : n.isValidChar) : (Char.ofNat n).toNat = n := by
  rw [Char.ofNat, dif_pos valid]
  rfl

/-- A code point outside the blanks is no blank, also where it is no character at all. -/
theorem isBlank_ofNat (n : Nat) (solid : inRanges blankRanges n = false) :
    isBlank (Char.ofNat n) = false := by
  by_cases valid : n.isValidChar
  · rw [isBlank_eq_inRanges, toNat_ofNat n valid, solid]
  · rw [Char.ofNat, dif_neg valid]
    rfl

theorem isBlank_toLower (c : Char) (ascii : c.toNat < 128) (solid : isBlank c = false) :
    isBlank c.toLower = false := by
  revert solid
  exact forall_ascii (by decide) c ascii

/-! ### Word characters -/

theorem alphanumericRanges_avoidBlanks :
    (alphanumericRanges.all fun r => blankRanges.all fun b => Nat.blt r.2 b.1 || Nat.blt b.2 r.1) =
      true := by decide +kernel

theorem isBlank_of_isWordChar (c : Char) (inWord : isWordChar c = true) : isBlank c = false := by
  unfold isWordChar at inWord
  split at inWord
  next ascii =>
    revert inWord
    exact forall_ascii (by decide) c ascii
  next =>
    obtain ⟨r, member, within⟩ := List.any_eq_true.mp inWord
    have apart := List.all_eq_true.mp (List.all_eq_true.mp alphanumericRanges_avoidBlanks r member)
    rw [isBlank_eq_inRanges]
    refine inRanges_eq_false _ _ fun b listed => ?_
    have clear := apart b listed
    simp only [Bool.and_eq_true, Bool.or_eq_true, Nat.ble_eq, Nat.blt_eq] at within clear
    omega

/-! ### Comparison -/

theorem caseKeyRuns_avoidBlanks : caseKeyRuns.all Run.avoidsBlanks = true := by decide

theorem isBlank_caseKey (c : Char) (solid : isBlank c = false) : isBlank (caseKey c) = false := by
  unfold caseKey
  split
  next ascii => exact isBlank_toLower c ascii solid
  · split
    next n image =>
      exact isBlank_ofNat n (mapped?_avoidsBlanks caseKeyRuns c.toNat n caseKeyRuns_avoidBlanks image)
    · exact solid

theorem blankRanges_avoidCaseKeyRuns :
    (blankRanges.all fun b => caseKeyRuns.all fun r => Nat.blt b.2 r.first || Nat.blt r.last b.1) =
      true := by decide

/-- Blanks have no case. -/
theorem caseKey_of_isBlank (c : Char) (blank : isBlank c = true) : caseKey c = c := by
  unfold caseKey
  split
  next ascii =>
    revert blank
    exact forall_ascii (by decide) c ascii
  · have outside : mapped? caseKeyRuns c.toNat = none := by
      rw [isBlank_eq_inRanges] at blank
      obtain ⟨b, listed, within⟩ := List.any_eq_true.mp blank
      have apart := List.all_eq_true.mp blankRanges_avoidCaseKeyRuns b listed
      refine List.findSome?_eq_none_iff.mpr fun r member => ?_
      have clear := List.all_eq_true.mp apart r member
      unfold Run.image?
      simp only [Bool.and_eq_true, Bool.or_eq_true, Nat.ble_eq, Nat.blt_eq] at within clear ⊢
      exact if_neg (by omega)
    rw [outside]

/-- A letter is never taken for a blank. -/
theorem sameLetter_of_isBlank (c d : Char) (solid : isBlank c = false) (blank : isBlank d = true) :
    sameLetter c d = false := by
  have key := isBlank_caseKey c solid
  rw [sameLetter, beq_eq_false_iff_ne, caseKey_of_isBlank d blank]
  intro same
  rw [same, blank] at key
  cases key

theorem sameLetter_space (c : Char) (solid : isBlank c = false) : sameLetter c ' ' = false :=
  sameLetter_of_isBlank c ' ' solid rfl

@[simp] theorem sameLetters_cons (c d : Char) (w u : Text) :
    sameLetters (c :: w) (d :: u) = (sameLetter c d && sameLetters w u) := rfl

@[simp] theorem sameLetters_refl (t : Text) : sameLetters t t = true := beq_self_eq_true _

theorem solid_of_sameLetters (w u : Text) (solid : ∀ c ∈ w, isBlank c = false)
    (same : sameLetters w u = true) : ∀ d ∈ u, isBlank d = false := by
  induction w generalizing u with
  | nil =>
    cases u with
    | nil => exact List.forall_mem_nil _
    | cons d u => cases same
  | cons c w ih =>
    cases u with
    | nil => exact List.forall_mem_nil _
    | cons d u =>
      obtain ⟨first, later⟩ := List.forall_mem_cons.mp solid
      rw [sameLetters_cons, Bool.and_eq_true] at same
      obtain ⟨letter, letters⟩ := same
      refine List.forall_mem_cons.mpr ⟨eq_false_of_ne_true fun blank => ?_, ih u later letters⟩
      rw [sameLetter_of_isBlank c d first blank] at letter
      cases letter

/-- What equals a word is a word. -/
theorem isWord_of_sameLetters (w u : Text) (word : IsWord w) (same : sameLetters w u = true) :
    IsWord u := by
  refine ⟨?_, solid_of_sameLetters w u word.2 same⟩
  rintro rfl
  exact word.1 (List.map_eq_nil_iff.mp (beq_iff_eq.mp same))

/-! ### Folding -/

theorem foldingRuns_avoidBlanks : foldingRuns.all Run.avoidsBlanks = true := by decide

theorem foldingExpansions_avoidBlanks :
    foldingExpansions.all (fun e => !e.2.isEmpty && e.2.all fun n => !inRanges blankRanges n) =
      true := by decide

theorem isWord_foldChar (c : Char) (solid : isBlank c = false) : IsWord (foldChar c) := by
  unfold foldChar
  split
  next ascii => simpa [IsWord] using isBlank_toLower c ascii solid
  · unfold mapCode
    split
    next n image =>
      simpa [IsWord] using isBlank_ofNat n
        (mapped?_avoidsBlanks foldingRuns c.toNat n foldingRuns_avoidBlanks image)
    · split
      next ns found =>
        obtain ⟨before, after, equal, -⟩ := List.lookup_eq_some_iff.mp found
        have member : (c.toNat, ns) ∈ foldingExpansions := by simp [equal]
        have entry := List.all_eq_true.mp foldingExpansions_avoidBlanks _ member
        simp only [Bool.and_eq_true, Bool.not_eq_true', List.isEmpty_eq_false_iff,
          List.all_eq_true] at entry
        refine ⟨by simpa using entry.1, fun d hd => ?_⟩
        obtain ⟨n, hn, rfl⟩ := List.mem_map.mp hd
        exact isBlank_ofNat n (entry.2 n hn)
      · simpa [IsWord] using solid

/-- Folding keeps a word a word. -/
theorem isWord_casefold (w : Text) (word : IsWord w) : IsWord (casefold w) := by
  have pieces : ∀ c ∈ w, IsWord (foldChar c) := fun c hc => isWord_foldChar c (word.2 c hc)
  constructor
  · cases w with
    | nil => exact absurd rfl word.1
    | cons c w =>
      have head := (pieces c List.mem_cons_self).1
      simp [casefold, head]
  · intro d hd
    obtain ⟨c, hc, member⟩ := List.mem_flatMap.mp hd
    exact (pieces c hc).2 d member

theorem casefold_append (t u : Text) : casefold (t ++ u) = casefold t ++ casefold u :=
  List.flatMap_append

theorem casefold_afterWord (ws : List Text) :
    casefold (afterWord ws) = afterWord (ws.map casefold) := by
  induction ws with
  | nil => rfl
  | cons w ws ih =>
    have space : casefold [' '] = [' '] := rfl
    have split : afterWord (w :: ws) = [' '] ++ (w ++ afterWord ws) := rfl
    rw [split, casefold_append, casefold_append, ih, space]
    rfl

theorem casefold_unwords (ws : List Text) : casefold (unwords ws) = unwords (ws.map casefold) := by
  cases ws with
  | nil => rfl
  | cons w ws => rw [unwords_cons, casefold_append, casefold_afterWord, List.map_cons, unwords_cons]

/-- The normal form has the same words, folded. -/
theorem words_normal (t : Text) : words (normal t) = (words t).map casefold := by
  rw [normal, casefold_unwords]
  refine words_unwords _ fun v member => ?_
  obtain ⟨w, source, rfl⟩ := List.mem_map.mp member
  exact isWord_casefold w (isWord_of_mem_words t w source)

theorem normal_of_isWord (w : Text) (word : IsWord w) : normal w = casefold w := by
  rw [normal, words_of_isWord w word]
  rfl

end TextAdventure.Text
