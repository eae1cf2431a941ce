import TextAdventure.Proofs.Lexicon.Phrases
import TextAdventure.Proofs.Table

/-!
Writing a lexicon down as tables and reading it back. A lexicon that is made from tables is in
normal form, which reading leaves as it is, so nothing is lost of it but what a table has no room
for: entries of one family with one canonical form become one entry, that of the last of them. So
the lexicon comes back exactly if each canonical form stands for one entry of its family
(`ofVocabulary_toVocabulary_iff`). Such entries are no defect of a lexicon (`collector_loses_get`).
-/
namespace TextAdventure

theorem WordSet.ofList_toList (s : WordSet) : ofList s.toList = s := ext_mem fun _ => mem_ofList

theorem map_eq_self {α : Type} (f : α → α) (xs : List α) (fixed : ∀ x ∈ xs, f x = x) :
    xs.map f = xs := (List.map_congr_left fixed).trans (List.map_id xs)

namespace Lexicon

/-! ### Entries -/

/-- Entries in normal form are read back from the table of their own pairs. -/
theorem entriesOf_of_pairs (es : List Entry) (t : Table (List Text))
    (forms : ∀ e ∈ es, ∀ f ∈ e.forms, Text.normal f = f)
    (written : t.entries = es.map fun e => (e.canonical, e.synonyms.toList)) :
    entriesOf t = es := by
  rw [entriesOf, written, List.map_map]
  refine map_eq_self _ es fun e member => ?_
  have canonical : Text.normal e.canonical = e.canonical :=
    forms e member _ ((e.mem_forms _).mpr (.inl rfl))
  have synonyms : e.synonyms.toList.map Text.normal = e.synonyms.toList :=
    map_eq_self _ _ fun f inside => forms e member f ((e.mem_forms f).mpr (.inr inside))
  rw [Function.comp_apply, canonical, synonyms, WordSet.ofList_toList]

/-- The canonical forms of entries that were read are the keys of their table. -/
theorem map_canonical_entriesOf (t : Table (List Text)) (forms : ∀ k ∈ t.keys, Text.normal k = k) :
    (entriesOf t).map Entry.canonical = t.keys := by
  rw [entriesOf, List.map_map, Table.keys]
  refine List.map_congr_left fun e member => ?_
  exact forms e.1 (List.mem_map_of_mem member)

/-- A family of entries is read back from its table exactly if no two entries have one canonical
form. -/
theorem entriesOf_tableOf_iff (es : List Entry)
    (forms : ∀ e ∈ es, ∀ f ∈ e.forms, Text.normal f = f) :
    entriesOf (tableOf es) = es ↔ (es.map Entry.canonical).Nodup := by
  constructor
  · intro same
    have keys : ∀ k ∈ (tableOf es).keys, Text.normal k = k := by
      refine List.forall_mem_map.mpr ?_
      refine Table.forall_entries_ofPairs (fun k _ => Text.normal k = k) _ ?_
      refine List.forall_mem_map.mpr fun e member => ?_
      exact forms e member _ ((e.mem_forms _).mpr (.inl rfl))
    rw [← same, map_canonical_entriesOf _ keys]
    exact (tableOf es).nodup_keys
  · intro distinct
    refine entriesOf_of_pairs es _ forms (Table.entries_ofPairs _ ?_)
    rwa [List.map_map]

/-! ### Word lists and abbreviations -/

theorem map_normal_map_normal (ws : List Text) :
    (ws.map Text.normal).map Text.normal = ws.map Text.normal :=
  map_eq_self _ _ (List.forall_mem_map.mpr fun w _ => Text.normal_normal w)

theorem normalSet_toList (ws : List Text) : normalSet (normalSet ws).toList = normalSet ws := by
  have same : (normalSet ws).toList.map Text.normal = (normalSet ws).toList := by
    refine map_eq_self _ _ fun w member => ?_
    obtain ⟨u, -, rfl⟩ := List.mem_map.mp (WordSet.mem_ofList.mp member)
    exact Text.normal_normal u
  rw [normalSet, same, WordSet.ofList_toList]

theorem abbreviationsOf_abbreviationsOf (t : Table Text) :
    abbreviationsOf (abbreviationsOf t) = abbreviationsOf t := by
  have normal : ∀ a ∈ (abbreviationsOf t).entries,
      (Text.normal a.1, Text.normal a.2) = (a.1, a.2) := by
    refine Table.forall_entries_ofPairs (fun k v => (Text.normal k, Text.normal v) = (k, v)) _ ?_
    refine List.forall_mem_map.mpr fun a _ => ?_
    rw [Text.normal_normal a.1, Text.normal_normal a.2]
  rw [abbreviationsOf, map_eq_self _ _ normal]
  exact Table.foldl_put_entries _

/-! ### Lexicons -/

/-- A lexicon that is made from tables is the same when it is written down and read back, exactly if
no canonical form stands for two verbs or for two directions. -/
theorem ofVocabulary_toVocabulary_iff (v : Vocabulary) :
    ofVocabulary (ofVocabulary v).toVocabulary = ofVocabulary v ↔
      ((ofVocabulary v).verbs.map Entry.canonical).Nodup ∧
        ((ofVocabulary v).directions.map Entry.canonical).Nodup := by
  obtain ⟨verbs, directions⟩ := List.forall_mem_append.mp (hasNormalForms_ofVocabulary v)
  rw [← entriesOf_tableOf_iff _ verbs, ← entriesOf_tableOf_iff _ directions]
  constructor
  · intro same
    exact ⟨congrArg Lexicon.verbs same, congrArg Lexicon.directions same⟩
  · rintro ⟨verbs, directions⟩
    -- verbs and directions come back by assumption, all else by being in normal form
    exact Lexicon.mk.injEq .. ▸ ⟨verbs, directions, abbreviationsOf_abbreviationsOf v.abbreviations,
      map_normal_map_normal v.multiWordVerbs, normalSet_toList v.articles,
      normalSet_toList v.fillers, map_normal_map_normal v.prepositions,
      normalSet_toList v.pronouns, normalSet_toList v.all, rfl⟩

end Lexicon

/-- An author's tables that name one verb twice, in different case. -/
def collectorVocabulary : Vocabulary where
  verbs := .ofPairs [("Take".toList, ["get".toList]), ("take".toList, ["grab".toList])]

/-- The lexicon has no defect, yet it does not come back: the synonyms of the first entry are
lost. -/
theorem collector_loses_get :
    (Lexicon.ofVocabulary collectorVocabulary).defects = [] ∧
      Lexicon.ofVocabulary (Lexicon.ofVocabulary collectorVocabulary).toVocabulary ≠
        Lexicon.ofVocabulary collectorVocabulary ∧
      (Lexicon.ofVocabulary collectorVocabulary).canonicalVerb "get".toList =
        some "take".toList ∧
      (Lexicon.ofVocabulary (Lexicon.ofVocabulary collectorVocabulary).toVocabulary).canonicalVerb
        "get".toList = none := by
  have kept : (Lexicon.ofVocabulary collectorVocabulary).canonicalVerb "get".toList =
      some "take".toList := by decide +kernel
  have lost : (Lexicon.ofVocabulary
      (Lexicon.ofVocabulary collectorVocabulary).toVocabulary).canonicalVerb "get".toList =
        none := by decide +kernel
  refine ⟨by decide +kernel, fun same => ?_, kept, lost⟩
  rw [same, kept] at lost
  cases lost

end TextAdventure
