import Mathlib.Data.List.Pairwise
import TextAdventure.Lexicon.Defect

/-!
Ambiguous vocabularies. A list of entries has no overlaps exactly if entries that share a form have
one canonical form (`overlaps_eq_nil_iff`). Then it does not matter which entry a form is looked up
in: every form of every entry is looked up as the canonical form of its entry
(`canonicalIn_of_mem_forms`).
-/
namespace TextAdventure

/-! ### Claims -/

theorem Table.get?_put {β : Type} (t : Table β) (k x : Text) (v : β) :
    (t.put k v).get? x = if x = k then some v else t.get? x := t.get?_alter k x fun _ => v

section

variable (family : Family) (owner : Text) (forms : List Text) (owners : Table Text)

/-- Whether no other owner has claimed one of the forms. -/
def Unclaimed (owner : Text) (forms : List Text) (owners : Table Text) : Prop :=
  ∀ f ∈ forms, ∀ other, owners.get? f = some other → other = owner

/-- The forms get the owner where they had none. -/
theorem get?_claimForms (x : Text) :
    (claimForms family owner forms owners).1.get? x =
      (owners.get? x).or (if x ∈ forms then some owner else none) := by
  induction forms generalizing owners with
  | nil => simp [claimForms]
  | cons f fs ih =>
    rw [claimForms]
    by_cases same : x = f
    · -- a form keeps the owner that it has; an entry claims its own form again without harm
      subst same
      cases claimed : owners.get? x with
      | none => simp [ih, Table.get?_put]
      | some other =>
        by_cases own : other = owner
        · simp [own, ih, Table.get?_put]
        · simp [own, ih, claimed]
    · cases claimed : owners.get? f with
      | none => simp [ih, Table.get?_put, same]
      | some other =>
        by_cases own : other = owner
        · simp [own, ih, Table.get?_put, same]
        · simp [own, ih, same]

theorem claimForms_eq_nil_iff :
    (claimForms family owner forms owners).2 = [] ↔ Unclaimed owner forms owners := by
  induction forms generalizing owners with
  | nil => simp [claimForms, Unclaimed]
  | cons f fs ih =>
    -- once the form is claimed for the owner, the claim changes nothing for the other forms
    have claim (free : ∀ other, owners.get? f = some other → other = owner) :
        Unclaimed owner fs (owners.put f owner) ↔ Unclaimed owner (f :: fs) owners := by
      refine Iff.trans (forall₂_congr fun g _ => ?_) (List.forall_mem_cons.trans
        (and_iff_right free)).symm
      rw [Table.get?_put]
      by_cases same : g = f
      · subst same
        simpa using free
      · simp [same]
    rw [claimForms]
    cases claimed : owners.get? f with
    | none =>
      rw [claimed] at claim
      exact (ih _).trans (claim nofun)
    | some other =>
      rw [claimed] at claim
      by_cases own : other = owner
      · rw [own] at claim
        simp only [own, if_true, ih]
        exact claim fun _ same => (Option.some.inj same).symm
      · simp only [own, if_false, reduceCtorEq, false_iff]
        exact fun free => own (free f List.mem_cons_self other claimed)

end

/-! ### Overlaps -/

/-- Whether the entries have one canonical form if they share a form. -/
def Entry.Agree (e e' : Entry) : Prop := ∀ f, f ∈ e.forms → f ∈ e'.forms → e.canonical = e'.canonical

instance : Std.Symm Entry.Agree where
  symm _ _ agree f inside inside' := (agree f inside' inside).symm

/-- Behind an entry whose forms were free, another one must agree with it as well. -/
theorem unclaimed_claimForms_iff (family : Family) (owners : Table Text) (e e' : Entry)
    (free : Unclaimed e.canonical e.forms.toList owners) :
    Unclaimed e'.canonical e'.forms.toList
        (claimForms family e.canonical e.forms.toList owners).1 ↔
      Unclaimed e'.canonical e'.forms.toList owners ∧ e.Agree e' := by
  simp only [Unclaimed, get?_claimForms]
  constructor
  · refine fun later => ⟨fun f form other claimed => ?_, fun f inside form => ?_⟩
    · exact later f form other (by rw [claimed, Option.some_or])
    · cases claimed : owners.get? f with
      | none => exact later f form e.canonical (by rw [claimed, Option.none_or]; exact if_pos inside)
      | some other =>
        rw [← free f inside other claimed]
        exact later f form other (by rw [claimed, Option.some_or])
  · rintro ⟨unclaimed, agree⟩ f form other claimed
    rcases Option.or_eq_some_iff.mp claimed with before | ⟨-, now⟩
    · exact unclaimed f form other before
    · split at now
      next inside => exact Option.some.inj now ▸ agree f inside form
      · cases now

theorem overlaps_eq_nil_iff_of_claimed (family : Family) (owners : Table Text) (es : List Entry) :
    overlaps family owners es = [] ↔
      (∀ e ∈ es, Unclaimed e.canonical e.forms.toList owners) ∧ es.Pairwise Entry.Agree := by
  induction es generalizing owners with
  | nil => simp [overlaps]
  | cons e es ih =>
    -- the later entries are read against the owners and this entry, one after the other
    rw [overlaps, List.append_eq_nil_iff, claimForms_eq_nil_iff, ih, List.forall_mem_cons,
      List.pairwise_cons, and_assoc]
    refine and_congr_right fun free => ?_
    rw [← and_assoc, ← forall₂_and]
    refine and_congr_left fun _ => forall₂_congr fun e' _ => ?_
    exact unclaimed_claimForms_iff family owners e e' free

/-- A family of entries has no overlaps exactly if any two entries agree. -/
theorem overlaps_eq_nil_iff (family : Family) (es : List Entry) :
    overlaps family ∅ es = [] ↔ es.Pairwise Entry.Agree := by
  rw [overlaps_eq_nil_iff_of_claimed]
  exact and_iff_right fun e _ f _ other claimed => nomatch claimed

theorem Lexicon.agree_of_defects (l : Lexicon) (consistent : l.defects = []) :
    l.verbs.Pairwise Entry.Agree ∧ l.directions.Pairwise Entry.Agree := by
  simp only [defects, List.append_eq_nil_iff] at consistent
  obtain ⟨⟨⟨⟨verbs, directions⟩, -⟩, -⟩, -⟩ := consistent
  exact ⟨(overlaps_eq_nil_iff .verb _).mp verbs, (overlaps_eq_nil_iff .direction _).mp directions⟩

/-! ### Lookups -/

theorem Entry.mem_forms (e : Entry) (w : Text) : w ∈ e.forms ↔ w = e.canonical ∨ w ∈ e.synonyms :=
  WordSet.mem_insert

/-- If any two entries agree, a form of an entry is looked up as its canonical form. -/
theorem canonicalIn_of_mem_forms (es : List Entry) (agree : es.Pairwise Entry.Agree) (e : Entry)
    (entry : e ∈ es) (w : Text) (form : w ∈ e.forms) : canonicalIn es w = some e.canonical := by
  have same : ∀ e' ∈ es, w ∈ e'.forms → e'.canonical = e.canonical := by
    intro e' entry' form'
    by_cases one : e' = e
    · rw [one]
    · exact agree.forall entry' entry one w form' form
  rw [canonicalIn]
  cases chosen : (es.find? fun e => e.canonical == w).or
      (es.find? fun e => e.synonyms.contains w) with
  | none =>
    -- no entry has the form, not even this one
    obtain ⟨noCanonical, noSynonym⟩ := Option.or_eq_none_iff.mp chosen
    rcases (e.mem_forms w).mp form with canonical | synonym
    · exact absurd (beq_iff_eq.mpr canonical.symm) (List.find?_eq_none.mp noCanonical e entry)
    · exact absurd (decide_eq_true synonym) (List.find?_eq_none.mp noSynonym e entry)
  | some e' =>
    refine congrArg some ?_
    rcases Option.or_eq_some_iff.mp chosen with first | ⟨-, second⟩
    · have canonical := List.find?_some first
      rw [beq_iff_eq] at canonical
      exact same e' (List.mem_of_find?_eq_some first) ((e'.mem_forms w).mpr (.inl canonical.symm))
    · have synonym := List.find?_some second
      rw [WordSet.contains, decide_eq_true_eq] at synonym
      exact same e' (List.mem_of_find?_eq_some second) ((e'.mem_forms w).mpr (.inr synonym))

end TextAdventure
