import TextAdventure.Proofs.Text.Case

/-!
Folding twice is folding once. No character that something is folded to is folded further: the code
points that change and those that they change to are written as the bits of two numbers, which have
no bit in common. So the normal form of a text is its own normal form. And texts that are folded
already are compared without regard to case just when they are equal (`sameLetters_iff_eq`): only
the dotless i stays as it is when folded and is still taken for another letter.
-/
namespace TextAdventure.Text

/-! ### Sources and images -/

/-- The code points that folding changes. -/
def foldingSources : List Nat :=
  (List.range 26).map (65 + ·) ++ foldingRuns.flatMap (fun r => r.offsets.map (r.first + ·)) ++
    foldingExpansions.map Prod.fst

/-- The code points that folding changes something to. -/
def foldingImages : List Nat :=
  (List.range 26).map (97 + ·) ++ foldingRuns.flatMap (fun r => r.offsets.map (r.target + ·)) ++
    foldingExpansions.flatMap Prod.snd

theorem bitsOf_disjoint : bitsOf foldingSources &&& bitsOf foldingImages = 0 := by decide +kernel

theorem not_mem_foldingSources (n : Nat) (image : n ∈ foldingImages) : n ∉ foldingSources := by
  intro source
  have bit := congrArg (Nat.testBit · n) bitsOf_disjoint
  simp [Nat.testBit_and, testBit_bitsOf, image, source] at bit

theorem toNat_of_mem_foldingImages (n : Nat) (image : n ∈ foldingImages) :
    (Char.ofNat n).toNat = n := by
  have valid : ∀ m ∈ foldingImages, m.isValidChar := by decide +kernel
  exact toNat_ofNat n (valid n image)

theorem mem_of_mapped? (n m : Nat) (found : mapped? foldingRuns n = some m) :
    n ∈ foldingSources ∧ m ∈ foldingImages := by
  obtain ⟨r, member, image⟩ := List.exists_of_findSome?_eq_some found
  obtain ⟨k, offset, rfl, rfl⟩ := r.exists_offset n m image
  refine ⟨List.mem_append_left _ (List.mem_append_right _ ?_),
    List.mem_append_left _ (List.mem_append_right _ ?_)⟩
  · exact List.mem_flatMap.mpr ⟨r, member, List.mem_map_of_mem offset⟩
  · exact List.mem_flatMap.mpr ⟨r, member, List.mem_map_of_mem offset⟩

/-- A character either stays as it is or is changed to images. -/
theorem foldChar_cases (c : Char) :
    foldChar c = [c] ∨ c.toNat ∈ foldingSources ∧ ∀ d ∈ foldChar c, d.toNat ∈ foldingImages := by
  unfold foldChar
  split
  next ascii =>
    have entry : c.toLower = c ∨ c.toNat ∈ (List.range 26).map (65 + ·) ∧
        c.toLower.toNat ∈ (List.range 26).map (97 + ·) := forall_ascii (by decide) c ascii
    refine entry.imp (congrArg ([·])) fun ⟨source, image⟩ => ?_
    exact ⟨List.mem_append_left _ (List.mem_append_left _ source),
      List.forall_mem_singleton.mpr (List.mem_append_left _ (List.mem_append_left _ image))⟩
  · unfold mapCode
    split
    next m found =>
      obtain ⟨source, image⟩ := mem_of_mapped? c.toNat m found
      refine .inr ⟨source, List.forall_mem_singleton.mpr ?_⟩
      rwa [toNat_of_mem_foldingImages m image]
    · split
      next ns found =>
        obtain ⟨before, after, equal, -⟩ := List.lookup_eq_some_iff.mp found
        have member : (c.toNat, ns) ∈ foldingExpansions := by simp [equal]
        have source : c.toNat ∈ foldingSources :=
          List.mem_append_right _ (List.mem_map.mpr ⟨_, member, rfl⟩)
        refine .inr ⟨source, fun d inside => ?_⟩
        obtain ⟨n, listed, rfl⟩ := List.mem_map.mp inside
        have image : n ∈ foldingImages :=
          List.mem_append_right _ (List.mem_flatMap.mpr ⟨_, member, listed⟩)
        rwa [toNat_of_mem_foldingImages n image]
      · exact .inl rfl

/-! ### Folding again -/

theorem foldChar_of_mem (c d : Char) (folded : d ∈ foldChar c) : foldChar d = [d] := by
  rcases foldChar_cases c with same | ⟨-, images⟩
  · rw [same] at folded
    exact List.mem_singleton.mp folded ▸ same
  · -- an image is no source, so it stays as it is
    rcases foldChar_cases d with same | ⟨source, -⟩
    · exact same
    · exact absurd source (not_mem_foldingSources _ (images d folded))

theorem casefold_of_fixed (t : Text) (fixed : ∀ c ∈ t, foldChar c = [c]) : casefold t = t := by
  calc casefold t = t.flatMap fun c => [c] := List.flatMap_congr fixed
    _ = t := List.flatMap_singleton' t

theorem casefold_casefold (t : Text) : casefold (casefold t) = casefold t := by
  refine casefold_of_fixed _ fun d member => ?_
  obtain ⟨c, -, folded⟩ := List.mem_flatMap.mp member
  exact foldChar_of_mem c d folded

theorem normal_normal (t : Text) : normal (normal t) = normal t := by
  have again : casefold ∘ casefold = casefold := funext casefold_casefold
  rw [normal, words_normal, casefold_unwords, List.map_map, again, ← casefold_unwords]
  rfl

/-! ### Folding and comparing -/

/-- What folding leaves as it is stands in neither of its tables. -/
theorem not_in_tables_of_fixed (c : Char) (large : ¬c.toNat < 128) (fixed : foldChar c = [c]) :
    mapped? foldingRuns c.toNat = none ∧ foldingExpansions.lookup c.toNat = none := by
  rw [foldChar, if_neg large, mapCode] at fixed
  split at fixed
  next m found =>
    -- the code point would be a source and its own image
    obtain ⟨source, image⟩ := mem_of_mapped? c.toNat m found
    have same : m = c.toNat := by
      rw [← List.singleton_inj.mp fixed, toNat_of_mem_foldingImages m image]
    exact absurd source (not_mem_foldingSources _ (same ▸ image))
  next missed =>
    refine ⟨missed, ?_⟩
    split at fixed
    next ns found =>
      obtain ⟨before, after, equal, -⟩ := List.lookup_eq_some_iff.mp found
      have member : (c.toNat, ns) ∈ foldingExpansions := by simp [equal]
      obtain ⟨n, rfl, same⟩ := List.map_eq_singleton_iff.mp fixed
      have image : n ∈ foldingImages := List.mem_append_right _
        (List.mem_flatMap.mpr ⟨_, member, List.mem_singleton_self n⟩)
      have source : c.toNat ∈ foldingSources :=
        List.mem_append_right _ (List.mem_map.mpr ⟨_, member, rfl⟩)
      rw [← same, toNat_of_mem_foldingImages n image] at source
      exact absurd source (not_mem_foldingSources n image)
    next unlisted => exact unlisted

theorem foldingRuns_sorted : foldingRuns.Pairwise Run.Before :=
  List.isChain_iff_pairwise.mp (by decide +kernel)

theorem foldingRuns_large : foldingRuns.all (fun r => Nat.ble 128 r.first) = true := by
  decide +kernel

theorem foldingRuns_valid :
    (foldingRuns.all fun r => r.offsets.all fun k => (r.first + k).isValidChar) = true := by
  decide +kernel

theorem foldChar_of_image (c d : Char) (r : Run) (member : r ∈ foldingRuns)
    (image : r.image? c.toNat = some d.toNat) : foldChar c = [d] := by
  have first := (r.bounds _ _ image).1
  have large := Nat.ble_eq.mp (List.all_eq_true.mp foldingRuns_large r member)
  rw [foldChar, if_neg (by omega), mapCode, mapped?_of_mem _ foldingRuns_sorted r member _ _ image]
  exact congrArg ([·]) (Char.ofNat_toNat d)

/-- Whether the code points of the run fold to several. -/
def Run.isExpanded (r : Run) : Bool :=
  r.offsets.all fun k => foldingExpansions.any fun e => Nat.beq e.1 (r.first + k)

theorem caseKeyRuns_known :
    (caseKeyRuns.all fun r => r.isAmong foldingRuns || r.swap.isAmong foldingRuns ||
      r.isOnly 0x131 || r.isExpanded) = true := by decide +kernel

/-- Folding takes the key of a folded character back to the character. The dotless i is folded, but
its key is the ordinary one. -/
theorem foldChar_caseKey (c : Char) (fixed : foldChar c = [c]) (dotted : c ≠ 'ı') :
    foldChar (caseKey c) = [c] := by
  unfold caseKey
  split
  next ascii =>
    clear dotted
    revert fixed
    exact forall_ascii (by decide) c ascii
  next large =>
    obtain ⟨unmapped, unlisted⟩ := not_in_tables_of_fixed c large fixed
    split
    next m found =>
      obtain ⟨r, member, image⟩ := List.exists_of_findSome?_eq_some found
      have known := List.all_eq_true.mp caseKeyRuns_known r member
      simp only [Bool.or_eq_true] at known
      rcases known with ((folding | backwards) | dotless) | expanded
      · -- folding would change the character
        have missed := List.findSome?_eq_none_iff.mp unmapped r (r.mem_of_isAmong _ folding)
        rw [missed] at image
        cases image
      · have back := r.image?_swap _ _ image
        have listed := r.swap.mem_of_isAmong _ backwards
        have source : (Char.ofNat m).toNat = m := by
          obtain ⟨k, offset, same, -⟩ := r.swap.exists_offset _ _ back
          have entry := List.all_eq_true.mp foldingRuns_valid r.swap listed
          exact toNat_ofNat m (same ▸ of_decide_eq_true (List.all_eq_true.mp entry k offset))
        exact foldChar_of_image _ c r.swap listed (source.symm ▸ back)
      · exact absurd (Char.toNat_inj.mp (r.eq_of_isOnly 0x131 dotless _ _ image)) dotted
      · obtain ⟨k, offset, source, -⟩ := r.exists_offset _ _ image
        obtain ⟨e, listed, same⟩ := List.any_eq_true.mp (List.all_eq_true.mp expanded k offset)
        have missed := List.lookup_eq_none_iff.mp unlisted e listed
        rw [source] at same
        exact absurd (Nat.eq_of_beq_eq_true same).symm (bne_iff_ne.mp missed)
    · exact fixed

theorem casefold_map_caseKey (t : Text) (folded : casefold t = t) (dotted : 'ı' ∉ t) :
    casefold (t.map caseKey) = t := by
  have stays : ∀ c ∈ t, foldChar c = [c] := by
    intro c member
    rw [← folded] at member
    obtain ⟨b, -, image⟩ := List.mem_flatMap.mp member
    exact foldChar_of_mem b c image
  calc casefold (t.map caseKey)
      = t.flatMap fun c => foldChar (caseKey c) := List.flatMap_map ..
    _ = t.flatMap fun c => [c] := List.flatMap_congr fun c member =>
        foldChar_caseKey c (stays c member) fun same => dotted (same ▸ member)
    _ = t := List.flatMap_singleton' t

/-- Folded texts are compared letter by letter, unless the dotless i stands in one of them. -/
theorem sameLetters_iff_eq (t u : Text) (folded : casefold t = t) (folded' : casefold u = u)
    (dotted : 'ı' ∉ t) (dotted' : 'ı' ∉ u) : sameLetters t u = true ↔ t = u := by
  constructor
  · intro same
    rw [← casefold_map_caseKey t folded dotted, ← casefold_map_caseKey u folded' dotted',
      beq_iff_eq.mp same]
  · rintro rfl
    exact sameLetters_refl t

end TextAdventure.Text
