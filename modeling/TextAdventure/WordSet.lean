import TextAdventure.Text.Basic

/-!
Sets of words, held as strictly increasing lists by code point. Two sets with the same members are
equal (`WordSet.ext_mem`), so a set does not remember how it was listed.
-/
namespace TextAdventure

structure WordSet where
  toList : List Text
  increasing : toList.Pairwise (· < ·)
  deriving DecidableEq

namespace WordSet

instance : EmptyCollection WordSet := ⟨⟨[], .nil⟩⟩
instance : Inhabited WordSet := ⟨∅⟩

instance : Membership Text WordSet := ⟨fun s w => w ∈ s.toList⟩

instance (w : Text) (s : WordSet) : Decidable (w ∈ s) :=
  decidable_of_iff (s.toList.elem w = true) List.elem_iff

/-- The list with `w` at its place, unless it is there. -/
def insertWord (w : Text) : List Text → List Text
  | [] => [w]
  | u :: us => if w < u then w :: u :: us else if w = u then u :: us else u :: insertWord w us

theorem mem_insertWord {w x : Text} {us : List Text} :
    x ∈ insertWord w us ↔ x = w ∨ x ∈ us := by
  induction us with
  | nil => simp [insertWord]
  | cons u us ih =>
    by_cases hlt : w < u
    · simp [insertWord, hlt]
    · by_cases heq : w = u
      · subst heq
        rw [insertWord, if_neg hlt, if_pos rfl]
        simp
      · simp only [insertWord, if_neg hlt, if_neg heq, List.mem_cons, ih]
        exact or_left_comm

theorem pairwise_insertWord {w : Text} {us : List Text} (h : us.Pairwise (· < ·)) :
    (insertWord w us).Pairwise (· < ·) := by
  induction us with
  | nil => simp [insertWord]
  | cons u us ih =>
    obtain ⟨above, rest⟩ := List.pairwise_cons.1 h
    by_cases hlt : w < u
    · rw [insertWord, if_pos hlt]
      exact List.pairwise_cons.2
        ⟨fun x hx => (List.mem_cons.1 hx).elim (· ▸ hlt) fun hx => List.lt_trans hlt (above x hx),
          h⟩
    · by_cases heq : w = u
      · rw [insertWord, if_neg hlt, if_pos heq]
        exact h
      · rw [insertWord, if_neg hlt, if_neg heq]
        refine List.pairwise_cons.2 ⟨fun x hx => ?_, ih rest⟩
        rcases mem_insertWord.1 hx with rfl | hx
        · exact Decidable.byContradiction fun hle =>
            heq (List.le_antisymm (List.not_lt.1 hle) (List.not_lt.1 hlt))
        · exact above x hx

def insert (s : WordSet) (w : Text) : WordSet :=
  ⟨insertWord w s.toList, pairwise_insertWord s.increasing⟩

/-- The set of the listed words. -/
def ofList (ws : List Text) : WordSet := ws.foldr (fun w s => s.insert w) ∅

def contains (s : WordSet) (w : Text) : Bool := decide (w ∈ s)

@[simp] theorem mem_insert {s : WordSet} {w x : Text} : x ∈ s.insert w ↔ x = w ∨ x ∈ s :=
  mem_insertWord

@[simp] theorem mem_ofList {ws : List Text} {x : Text} : x ∈ ofList ws ↔ x ∈ ws := by
  induction ws with
  | nil => simp [ofList, Membership.mem, EmptyCollection.emptyCollection]
  | cons w ws ih => exact mem_insert.trans (by rw [List.mem_cons]; exact or_congr_right ih)

theorem ext_mem {s t : WordSet} (h : ∀ x, x ∈ s ↔ x ∈ t) : s = t := by
  obtain ⟨us, hu⟩ := s
  obtain ⟨vs, hv⟩ := t
  have same : ∀ x, x ∈ us ↔ x ∈ vs := h
  suffices us = vs by subst this; rfl
  clear h
  induction us generalizing vs with
  | nil =>
    cases vs with
    | nil => rfl
    | cons v vs => exact absurd ((same v).2 List.mem_cons_self) (by simp)
  | cons u us ih =>
    cases vs with
    | nil => exact absurd ((same u).1 List.mem_cons_self) (by simp)
    | cons v vs =>
      obtain ⟨aboveU, restU⟩ := List.pairwise_cons.1 hu
      obtain ⟨aboveV, restV⟩ := List.pairwise_cons.1 hv
      have heads : u = v := by
        rcases List.mem_cons.1 ((same u).1 List.mem_cons_self) with h | h
        · exact h
        · rcases List.mem_cons.1 ((same v).2 List.mem_cons_self) with h' | h'
          · exact h'.symm
          · exact absurd (aboveV u h) (List.not_lt.2 (List.le_of_lt (aboveU v h')))
      subst heads
      congr 1
      refine ih restU vs restV fun x => ⟨fun hx => ?_, fun hx => ?_⟩
      · rcases List.mem_cons.1 ((same x).1 (List.mem_cons_of_mem _ hx)) with rfl | h
        · exact absurd (aboveU x hx) (List.lt_irrefl x)
        · exact h
      · rcases List.mem_cons.1 ((same x).2 (List.mem_cons_of_mem _ hx)) with rfl | h
        · exact absurd (aboveV x hx) (List.lt_irrefl x)
        · exact h

end WordSet

end TextAdventure
