import Mathlib.Data.List.Basic
import TextAdventure.Table

/-!
Tables and their entries. What holds of every entry that is written holds of every entry of a table
(`forall_entries_alter`), and writing the entries of a table one after the other into an empty one
gives the table back (`foldl_append_entries`, `foldl_put_entries`). Pairs with different keys are
the entries of the table that they are written to (`entries_ofPairs`). A table is determined by its
keys and what is found under them (`ext_get?`), so there is one way to merge two tables, and writing
to the second of them writes to the merged one (`IsMerge.alter`).
-/
namespace TextAdventure.Table

variable {α β γ : Type}

theorem forall_entries_alter (q : Text → β → Prop) (t : Table β) (k : Text) (f : Option β → β)
    (old : ∀ e ∈ t.entries, q e.1 e.2) (fresh : q k (f none)) (kept : ∀ v, q k v → q k (f (some v))) :
    ∀ e ∈ (t.alter k f).entries, q e.1 e.2 := by
  change ∀ e ∈ alterEntries k f t.entries, q e.1 e.2
  generalize t.entries = es at old ⊢
  induction es with
  | nil => exact List.forall_mem_singleton.mpr fresh
  | cons e es ih =>
    obtain ⟨first, later⟩ := List.forall_mem_cons.mp old
    unfold alterEntries
    split
    next same => exact List.forall_mem_cons.mpr ⟨kept e.2 (same ▸ first), later⟩
    · exact List.forall_mem_cons.mpr ⟨first, ih later⟩

theorem forall_entries_put (q : Text → β → Prop) (t : Table β) (k : Text) (v : β)
    (old : ∀ e ∈ t.entries, q e.1 e.2) (written : q k v) :
    ∀ e ∈ (t.put k v).entries, q e.1 e.2 :=
  forall_entries_alter q t k _ old written fun _ _ => written

theorem forall_entries_append (q : Text → Prop) (q' : γ → Prop) (t : Table (List γ)) (k : Text)
    (items : List γ) (old : ∀ e ∈ t.entries, q e.1 ∧ ∀ x ∈ e.2, q' x) (key : q k)
    (added : ∀ x ∈ items, q' x) :
    ∀ e ∈ (t.append k items).entries, q e.1 ∧ ∀ x ∈ e.2, q' x :=
  forall_entries_alter (fun k xs => q k ∧ ∀ x ∈ xs, q' x) t k _ old ⟨key, added⟩
    fun _ kept => ⟨key, List.forall_mem_append.mpr ⟨kept.2, added⟩⟩

theorem mem_entries_of_get? (t : Table β) (k : Text) (v : β) (found : t.get? k = some v) :
    (k, v) ∈ t.entries := by
  obtain ⟨before, after, split, -⟩ := List.lookup_eq_some_iff.mp found
  rw [split]
  exact List.mem_append_right before List.mem_cons_self

/-- In a list without repeated keys every pair is found under its key. -/
theorem lookup_eq_some_iff_mem (es : List (Text × β)) (distinct : (es.map Prod.fst).Nodup)
    (k : Text) (v : β) :
    es.lookup k = some v ↔ (k, v) ∈ es := by
  induction es with
  | nil => simp
  | cons e es ih =>
    obtain ⟨key, u⟩ := e
    obtain ⟨fresh, rest⟩ := List.nodup_cons.mp distinct
    rw [List.lookup_cons, List.mem_cons, ← ih rest]
    cases same : k == key with
    | true =>
      obtain rfl := eq_of_beq same
      have behind : es.lookup k ≠ some v := fun found =>
        fresh (List.mem_map.mpr ⟨_, (ih rest).mp found, rfl⟩)
      simp [behind, eq_comm]
    | false => simp [beq_eq_false_iff_ne.mp same]

theorem alterEntries_of_not_mem (k : Text) (f : Option β → β) (es : List (Text × β))
    (fresh : k ∉ es.map Prod.fst) : alterEntries k f es = es ++ [(k, f none)] := by
  induction es with
  | nil => rfl
  | cons e es ih =>
    rw [List.map_cons, List.mem_cons, not_or] at fresh
    rw [alterEntries, if_neg (Ne.symm fresh.1), ih fresh.2, List.cons_append]

/-- Entries with new keys are put behind those of a table, in order. -/
theorem entries_foldl_alter (value : Text × α → Option β → β) (es : List (Text × α)) (t : Table β)
    (fresh : (t.keys ++ es.map Prod.fst).Nodup) :
    (es.foldl (fun u e => u.alter e.1 (value e)) t).entries =
      t.entries ++ es.map fun e => (e.1, value e none) := by
  induction es generalizing t with
  | nil => exact (List.append_nil t.entries).symm
  | cons e es ih =>
    have absent : e.1 ∉ t.keys := by
      intro present
      exact (List.nodup_append.mp fresh).2.2 _ present _ List.mem_cons_self rfl
    -- the first entry is put last, and the later keys are new to the longer table as well
    have written : (t.alter e.1 (value e)).entries = t.entries ++ [(e.1, value e none)] :=
      alterEntries_of_not_mem e.1 (value e) t.entries absent
    have keys : (t.alter e.1 (value e)).keys = t.keys ++ [e.1] := by
      rw [keys, written, List.map_append]
      rfl
    rw [List.foldl_cons, ih _ (by rwa [keys, List.append_assoc]), written, List.append_assoc]
    rfl

theorem eq_of_entries (t u : Table β) (same : t.entries = u.entries) : t = u := by
  cases t
  cases u
  cases same
  rfl

theorem entries_foldl_append (es : List (Text × List γ)) (distinct : (es.map Prod.fst).Nodup) :
    (es.foldl (fun (t : Table (List γ)) e => t.append e.1 e.2) ∅).entries = es :=
  (entries_foldl_alter (fun e old => old.getD [] ++ e.2) es ∅ distinct).trans (List.map_id _)

theorem foldl_append_entries (t : Table (List γ)) :
    t.entries.foldl (fun u e => u.append e.1 e.2) ∅ = t :=
  eq_of_entries _ _ (entries_foldl_append t.entries t.nodup_keys)

/-! ### Tables of pairs -/

/-- What holds of every pair that is written holds of every entry of the table. -/
theorem forall_entries_ofPairs (q : Text → β → Prop) (pairs : List (Text × β))
    (each : ∀ p ∈ pairs, q p.1 p.2) : ∀ e ∈ (ofPairs pairs).entries, q e.1 e.2 := by
  have written (t : Table β) (old : ∀ e ∈ t.entries, q e.1 e.2) :
      ∀ e ∈ (pairs.foldl (fun u p => u.put p.1 p.2) t).entries, q e.1 e.2 := by
    induction pairs generalizing t with
    | nil => exact old
    | cons p ps ih =>
      obtain ⟨first, later⟩ := List.forall_mem_cons.mp each
      exact ih later _ (forall_entries_put q t p.1 p.2 old first)
  exact written empty (List.forall_mem_nil _)

theorem entries_ofPairs (pairs : List (Text × β)) (distinct : (pairs.map Prod.fst).Nodup) :
    (ofPairs pairs).entries = pairs :=
  (entries_foldl_alter (fun p _ => p.2) pairs empty distinct).trans (List.map_id _)

theorem foldl_put_entries (t : Table β) : t.entries.foldl (fun u e => u.put e.1 e.2) ∅ = t :=
  eq_of_entries _ _ (entries_ofPairs t.entries t.nodup_keys)

/-! ### Merging -/

theorem filterMap_lookup (es : List (Text × β)) (distinct : (es.map Prod.fst).Nodup) :
    (es.map Prod.fst).filterMap (fun k => (es.lookup k).map (k, ·)) = es := by
  induction es with
  | nil => rfl
  | cons e es ih =>
    obtain ⟨key, v⟩ := e
    obtain ⟨fresh, later⟩ := List.nodup_cons.mp distinct
    -- the later keys are not the first one, so they are looked for behind it
    have behind : ∀ k ∈ es.map Prod.fst, ((key, v) :: es).lookup k = es.lookup k := by
      intro k member
      have other : k ≠ key := fun same => fresh (same ▸ member)
      rw [List.lookup_cons, beq_false_of_ne other]
    have rest := List.filterMap_congr (l := es.map Prod.fst) fun k member =>
      congrArg (Option.map (k, ·)) (behind k member)
    rw [List.map_cons, List.filterMap_cons_some (b := (key, v)) (by simp), rest, ih later]

/-- A table is determined by its keys, in their order, and what is found under them. -/
theorem ext_get? (t u : Table β) (keys : t.keys = u.keys) (found : ∀ k, t.get? k = u.get? k) :
    t = u := by
  apply eq_of_entries
  calc t.entries
      = t.keys.filterMap fun k => (t.get? k).map (k, ·) :=
        (filterMap_lookup t.entries t.nodup_keys).symm
    _ = u.keys.filterMap fun k => (u.get? k).map (k, ·) := by simp only [keys, found]
    _ = u.entries := filterMap_lookup u.entries u.nodup_keys

/-- Whether the table `w` has the keys of `t` and then the further ones of `u`, with what the two
tables hold, combined where both hold something. -/
structure IsMerge (combine : β → β → β) (t u w : Table β) : Prop where
  keys : w.keys = t.keys ++ u.keys.filter (· ∉ t.keys)
  get? : ∀ k, w.get? k = (t.get? k).merge combine (u.get? k)

theorem IsMerge.unique {combine : β → β → β} {t u w w' : Table β} (merge : IsMerge combine t u w)
    (merge' : IsMerge combine t u w') : w = w' :=
  ext_get? w w' (merge.keys.trans merge'.keys.symm) fun k =>
    (merge.get? k).trans (merge'.get? k).symm

theorem isMerge_empty (combine : β → β → β) (t : Table β) : IsMerge combine t ∅ t where
  keys := (List.append_nil _).symm
  get? _ := (Option.merge_none_right).symm

theorem IsMerge.mem_keys {combine : β → β → β} {t u w : Table β} (merge : IsMerge combine t u w)
    (k : Text) : k ∈ w.keys ↔ k ∈ t.keys ∨ k ∈ u.keys := by
  by_cases first : k ∈ t.keys <;> simp [merge.keys, first]

/-- Writing to the second of two tables writes to the merged one, if what is written over a combined
value is what is written over the second one, combined. -/
theorem IsMerge.alter {combine : β → β → β} {t u w : Table β} (merge : IsMerge combine t u w)
    (k : Text) (f : Option β → β)
    (step : ∀ a b : Option β, some (f (a.merge combine b)) = a.merge combine (some (f b))) :
    IsMerge combine t (u.alter k f) (w.alter k f) where
  keys := by
    -- a key that neither table has is put last in both tables
    rw [keys_alter, keys_alter]
    by_cases second : k ∈ u.keys
    · rw [if_pos ((merge.mem_keys k).mpr (.inr second)), if_pos second, merge.keys]
    · rw [if_neg second, List.filter_append]
      by_cases first : k ∈ t.keys
      · simp [first, merge.keys]
      · simp [second, first, merge.keys]
  get? x := by
    rw [get?_alter, get?_alter]
    split
    next same => rw [merge.get?, step, same]
    · exact merge.get? x

theorem IsMerge.put {t u w : Table β} (merge : IsMerge (fun _ later => later) t u w) (k : Text)
    (v : β) : IsMerge (fun _ later => later) t (u.put k v) (w.put k v) :=
  merge.alter k _ fun a _ => by cases a <;> rfl

theorem IsMerge.append {t u w : Table (List γ)} (merge : IsMerge (· ++ ·) t u w) (k : Text)
    (items : List γ) : IsMerge (· ++ ·) t (u.append k items) (w.append k items) :=
  merge.alter k _ fun a b => by cases a <;> cases b <;> simp

end TextAdventure.Table
