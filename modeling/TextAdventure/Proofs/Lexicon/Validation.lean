import TextAdventure.Proofs.Lexicon.Phrases

/-!
What the report of overlaps is worth. A lexicon that is made from tables reports no overlap of a
family exactly if every form of every entry is looked up as the canonical form of that entry, and
then the order of the entries does not matter to any lookup (`unambiguous_iff`). Lookups go to
canonical forms first and to synonyms in the order of the entries, while the report takes the forms
of one entry after the other; what the two have in common is that entries that share a form agree.
Of folding only `normal_normal` is needed: forms are in normal form already.
-/
namespace TextAdventure

/-! ### Entries that agree -/

/-- Entries agree if each of their forms is looked up as the canonical form of its entry. -/
theorem pairwise_agree_of_canonicalIn (es : List Entry)
    (found : ∀ e ∈ es, ∀ f ∈ e.forms, canonicalIn es f = some e.canonical) :
    es.Pairwise Entry.Agree := by
  refine List.pairwise_of_forall_mem_list fun e member e' member' f form form' => ?_
  have same := (found e member f form).symm.trans (found e' member' f form')
  exact Option.some.inj same

theorem canonicalIn_eq_none_iff (es : List Entry) (w : Text) :
    canonicalIn es w = none ↔ ∀ e ∈ es, w ∉ e.forms := by
  simp only [canonicalIn, Option.map_eq_none_iff, Option.or_eq_none_iff, List.find?_eq_none,
    ← forall₂_and, Entry.mem_forms, not_or, beq_iff_eq, WordSet.contains, decide_eq_true_eq]
  exact forall₂_congr fun e _ => and_congr_left fun _ => not_congr eq_comm

/-- Among entries that agree it does not matter to a lookup in which order they are. -/
theorem canonicalIn_perm (es es' : List Entry) (agree : es.Pairwise Entry.Agree)
    (reordered : es'.Perm es) (w : Text) : canonicalIn es' w = canonicalIn es w := by
  by_cases claimed : ∃ e ∈ es, w ∈ e.forms
  · obtain ⟨e, member, form⟩ := claimed
    rw [canonicalIn_of_mem_forms es agree e member w form]
    exact canonicalIn_of_mem_forms es' (agree.perm reordered.symm fun h => symm h) e
      (reordered.mem_iff.mpr member) w form
  · have unclaimed : ∀ e ∈ es, w ∉ e.forms := fun e member form => claimed ⟨e, member, form⟩
    rw [(canonicalIn_eq_none_iff es w).mpr unclaimed]
    exact (canonicalIn_eq_none_iff es' w).mpr fun e member => unclaimed e (reordered.mem_iff.mp member)

/-! ### The report -/

theorem mem_claimForms (family : Family) (owner : Text) (forms : List Text) (owners : Table Text)
    (d : Defect) (reported : d ∈ (claimForms family owner forms owners).2) :
    ∃ form first second, d = .twoOwners form family first second := by
  induction forms generalizing owners with
  | nil => cases reported
  | cons f fs ih =>
    rw [claimForms] at reported
    cases claimed : owners.get? f with
    | none =>
      rw [claimed] at reported
      exact ih _ reported
    | some other =>
      simp only [claimed] at reported
      split at reported
      · exact ih _ reported
      · rcases List.mem_cons.mp reported with rfl | later
        · exact ⟨f, other, owner, rfl⟩
        · exact ih _ later

/-- The overlaps of a family are reported as such. -/
theorem mem_overlaps (family : Family) (owners : Table Text) (es : List Entry) (d : Defect)
    (reported : d ∈ overlaps family owners es) :
    ∃ form first second, d = .twoOwners form family first second := by
  induction es generalizing owners with
  | nil => cases reported
  | cons e es ih =>
    rw [overlaps] at reported
    rcases List.mem_append.mp reported with own | later
    · exact mem_claimForms family _ _ owners d own
    · exact ih _ later

namespace Lexicon

variable (l : Lexicon)

/-- The entries of a family. -/
def entries : Family → List Entry
  | .verb => l.verbs
  | .direction => l.directions

/-- The canonical form of a word in a family. -/
def canonical? : Family → Text → Option Text
  | .verb => l.canonicalVerb
  | .direction => l.canonicalDirection

theorem canonical?_eq (family : Family) (w : Text) :
    l.canonical? family w = canonicalIn (l.entries family) (Text.normal w) := by
  cases family <;> rfl

/-- Whether a form of the family is reported to belong to two entries. -/
def HasOverlap (family : Family) : Prop :=
  ∃ form first second, Defect.twoOwners form family first second ∈ l.defects

theorem twoOwners_notMem_abbreviationDefects (a : Text × Text) (form : Text) (family : Family)
    (first second : Text) : .twoOwners form family first second ∉ abbreviationDefects a := by
  unfold abbreviationDefects
  rw [List.mem_append, not_or]
  constructor
  · split <;> simp
  · split <;> simp

/-- Among the defects of a lexicon, overlaps of a family come from the entries of the family only. -/
theorem twoOwners_mem_defects_iff (form : Text) (family : Family) (first second : Text) :
    .twoOwners form family first second ∈ l.defects ↔
      .twoOwners form family first second ∈ overlaps family ∅ (l.entries family) := by
  simp only [defects, List.mem_append]
  constructor
  · rintro ((((verb | direction) | several) | abbreviation) | template)
    · obtain ⟨_, _, _, same⟩ := mem_overlaps .verb _ _ _ verb
      cases same
      exact verb
    · obtain ⟨_, _, _, same⟩ := mem_overlaps .direction _ _ _ direction
      cases same
      exact direction
    · obtain ⟨e, -, same⟩ := List.mem_map.mp several
      cases same
    · obtain ⟨a, -, inside⟩ := List.mem_flatMap.mp abbreviation
      exact absurd inside (twoOwners_notMem_abbreviationDefects a form family first second)
    · obtain ⟨k, -, same⟩ := List.mem_map.mp template
      cases same
  · intro reported
    cases family with
    | verb => exact .inl (.inl (.inl (.inl reported)))
    | direction => exact .inl (.inl (.inl (.inr reported)))

theorem hasOverlap_iff (family : Family) :
    l.HasOverlap family ↔ overlaps family ∅ (l.entries family) ≠ [] := by
  constructor
  · rintro ⟨form, first, second, reported⟩
    exact List.ne_nil_of_mem ((l.twoOwners_mem_defects_iff form family first second).mp reported)
  · intro nonempty
    obtain ⟨d, reported⟩ := List.exists_mem_of_ne_nil _ nonempty
    obtain ⟨form, first, second, rfl⟩ := mem_overlaps family _ _ d reported
    exact ⟨form, first, second, (l.twoOwners_mem_defects_iff form family first second).mpr reported⟩

theorem not_hasOverlap_iff (family : Family) :
    ¬l.HasOverlap family ↔ (l.entries family).Pairwise Entry.Agree := by
  rw [hasOverlap_iff, ne_eq, not_not, overlaps_eq_nil_iff]

/-- A lexicon that is made from tables reports no overlap of a family exactly if every form of every
entry is looked up as the canonical form of its entry. Without overlaps, the lookup of any word is
the same in every lexicon that has the entries of the family in another order. -/
theorem unambiguous_iff (v : Vocabulary) (family : Family) :
    (¬(ofVocabulary v).HasOverlap family ↔
      ∀ e ∈ (ofVocabulary v).entries family, ∀ f ∈ e.forms,
        (ofVocabulary v).canonical? family f = some e.canonical) ∧
    (¬(ofVocabulary v).HasOverlap family →
      ∀ l : Lexicon, (l.entries family).Perm ((ofVocabulary v).entries family) →
        ∀ w, l.canonical? family w = (ofVocabulary v).canonical? family w) := by
  have normal : ∀ e ∈ (ofVocabulary v).entries family, ∀ f ∈ e.forms, Text.normal f = f := by
    obtain ⟨verbs, directions⟩ := List.forall_mem_append.mp (hasNormalForms_ofVocabulary v)
    cases family with
    | verb => exact verbs
    | direction => exact directions
  rw [not_hasOverlap_iff]
  refine ⟨⟨fun agree e member f form => ?_, fun found => ?_⟩, fun agree l reordered w => ?_⟩
  · rw [canonical?_eq, normal e member f form]
    exact canonicalIn_of_mem_forms _ agree e member f form
  · refine pairwise_agree_of_canonicalIn _ fun e member f form => ?_
    rw [← found e member f form, canonical?_eq, normal e member f form]
  · rw [canonical?_eq, canonical?_eq]
    exact canonicalIn_perm _ _ agree reordered _

end Lexicon

end TextAdventure
