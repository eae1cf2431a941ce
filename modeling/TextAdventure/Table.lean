import TextAdventure.Text.Basic

/-!
Ordered tables. A table keeps its keys in the order in which they first came; writing to a key that
is there replaces the value and leaves the order. `get?_alter` and `keys_alter` say what writing
does to the two views of a table, its lookup and its keys.
-/
namespace TextAdventure

/-- Values by key, each key once. -/
structure Table (β : Type) where
  entries : List (Text × β)
  nodup_keys : (entries.map Prod.fst).Nodup
  deriving DecidableEq

namespace Table

variable {β γ : Type}

def empty : Table β := ⟨[], .nil⟩

instance : EmptyCollection (Table β) := ⟨empty⟩
instance : Inhabited (Table β) := ⟨empty⟩

def keys (t : Table β) : List Text := t.entries.map Prod.fst

def isEmpty (t : Table β) : Bool := t.entries.isEmpty

def size (t : Table β) : Nat := t.entries.length

def get? (t : Table β) (k : Text) : Option β := t.entries.lookup k

/-- Rewrites the value of `k` by `f`, or appends the value that `f` gives to a missing key. -/
def alterEntries (k : Text) (f : Option β → β) : List (Text × β) → List (Text × β)
  | [] => [(k, f none)]
  | e :: es => if e.1 = k then (k, f (some e.2)) :: es else e :: alterEntries k f es

theorem mem_keys_alterEntries {k x : Text} {f : Option β → β} {es : List (Text × β)} :
    x ∈ (alterEntries k f es).map Prod.fst ↔ x = k ∨ x ∈ es.map Prod.fst := by
  induction es with
  | nil => simp [alterEntries]
  | cons e es ih =>
    by_cases h : e.1 = k
    · simp [alterEntries, h]
    · simp only [alterEntries, if_neg h, List.map_cons, List.mem_cons, ih]
      exact or_left_comm

theorem nodup_alterEntries {k : Text} {f : Option β → β} {es : List (Text × β)}
    (h : (es.map Prod.fst).Nodup) : ((alterEntries k f es).map Prod.fst).Nodup := by
  induction es with
  | nil => simp [alterEntries]
  | cons e es ih =>
    obtain ⟨fresh, rest⟩ := List.nodup_cons.1 h
    by_cases he : e.1 = k
    · subst he
      simpa [alterEntries] using ⟨by simpa using fresh, rest⟩
    · simp only [alterEntries, if_neg he, List.map_cons, List.nodup_cons]
      exact ⟨fun hm => (mem_keys_alterEntries.1 hm).elim he fresh, ih rest⟩

/-- Rewrites or adds the value of one key. -/
def alter (t : Table β) (k : Text) (f : Option β → β) : Table β :=
  ⟨alterEntries k f t.entries, nodup_alterEntries t.nodup_keys⟩

/-- Writes a value. -/
def put (t : Table β) (k : Text) (v : β) : Table β := t.alter k fun _ => v

/-- Appends items to the list at a key, which starts out empty. -/
def append (t : Table (List γ)) (k : Text) (items : List γ) : Table (List γ) :=
  t.alter k fun old => old.getD [] ++ items

/-- The table that results from writing the pairs in order. -/
def ofPairs (pairs : List (Text × β)) : Table β := pairs.foldl (fun t p => t.put p.1 p.2) empty

theorem lookup_alterEntries (k x : Text) (f : Option β → β) (es : List (Text × β)) :
    (alterEntries k f es).lookup x = if x = k then some (f (es.lookup k)) else es.lookup x := by
  induction es with
  | nil =>
    by_cases h : x = k
    · simp [alterEntries, h]
    · simp [alterEntries, List.lookup_cons, beq_false_of_ne h, h]
  | cons e es ih =>
    obtain ⟨key, value⟩ := e
    by_cases hk : key = k
    · subst hk
      by_cases h : x = key
      · simp [alterEntries, h]
      · simp [alterEntries, List.lookup_cons, beq_false_of_ne h, h]
    · have other : (k == key) = false := beq_false_of_ne (Ne.symm hk)
      by_cases h : x = k
      · subst h
        simp [alterEntries, hk, List.lookup_cons, other, ih]
      · by_cases hx : x = key
        · subst hx
          simp [alterEntries, hk]
        · simp [alterEntries, hk, List.lookup_cons, beq_false_of_ne hx, ih, h]

theorem get?_alter (t : Table β) (k x : Text) (f : Option β → β) :
    (t.alter k f).get? x = if x = k then some (f (t.get? k)) else t.get? x :=
  lookup_alterEntries k x f t.entries

theorem map_fst_alterEntries (k : Text) (f : Option β → β) (es : List (Text × β)) :
    (alterEntries k f es).map Prod.fst =
      if k ∈ es.map Prod.fst then es.map Prod.fst else es.map Prod.fst ++ [k] := by
  induction es with
  | nil => simp [alterEntries]
  | cons e es ih =>
    by_cases he : e.1 = k
    · simp [alterEntries, he]
    · have : ¬ k = e.1 := fun h => he h.symm
      by_cases hm : k ∈ es.map Prod.fst <;> simp_all [alterEntries]

theorem keys_alter (t : Table β) (k : Text) (f : Option β → β) :
    (t.alter k f).keys = if k ∈ t.keys then t.keys else t.keys ++ [k] :=
  map_fst_alterEntries k f t.entries

/-- Equality of two tables as lookups, whatever the order of their keys. -/
def sameAs [BEq β] (t u : Table β) : Bool :=
  t.size == u.size && t.entries.all fun e => u.get? e.1 == some e.2

end Table

end TextAdventure
