import TextAdventure.Command
import TextAdventure.Proofs.Interpreter.Captures
import TextAdventure.Proofs.Table

/-!
The objects of a command. Slots play four roles, and a command has two places for what they hold.
Things, targets and other things involved are put into the first place that is free, in this order,
so that of two phrases in different roles neither is lost (`objects_of_two_phrases`). A direction is
put into the place of the direct object whether that is free or not: what stood there is lost, and
the place of the indirect object stays empty.
-/
namespace TextAdventure

/-! ### Slots and what they hold -/

namespace Command

/-- The part that a slot plays in a command. -/
inductive Role where
  | direct
  | target
  | indirect
  | direction
  deriving DecidableEq, Repr

namespace Role

def slots : Role → List Text
  | direct => directSlots
  | target => targetSlots
  | indirect => indirectSlots
  | direction => ["direction".toList]

/-- Roles are served in this order. -/
def rank : Role → Nat
  | direct => 0
  | target => 1
  | indirect => 2
  | direction => 3

theorem eq_of_mem_slots (r r' : Role) (s : Text) (member : s ∈ r.slots) (member' : s ∈ r'.slots) :
    r = r' := by
  revert s
  cases r <;> cases r' <;> decide

/-- What a command has of a phrase in the role: directions are given in their canonical form. -/
def phrase (lexicon : Option Lexicon) (role : Role) (p : Text) : Text :=
  let bare := stripArticles lexicon p
  match role with
  | direction => (lexicon.bind (·.direction? bare)).getD bare
  | _ => bare

end Role

theorem mem_of_firstOf? (captures : List (Text × Text)) (slots : List Text) (v : Text)
    (found : firstOf? captures slots = some v) :
    ∃ s ∈ slots, (s, v) ∈ captures ∧ v ≠ [] := by
  obtain ⟨s, inside, holds⟩ := List.exists_of_findSome?_eq_some found
  obtain ⟨u, found, kept⟩ := Option.bind_eq_some_iff.mp holds
  obtain ⟨nonempty, rfl⟩ := (Lexicon.nonempty?_eq_some u v).mp kept
  obtain ⟨front, behind, rfl, -⟩ := List.lookup_eq_some_iff.mp found
  exact ⟨s, inside, by simp, nonempty⟩

theorem firstOf?_ne_none (captures : List (Text × Text)) (slots : List Text) (s v : Text)
    (distinct : (captures.map Prod.fst).Nodup) (member : (s, v) ∈ captures) (nonempty : v ≠ [])
    (inside : s ∈ slots) : firstOf? captures slots ≠ none := by
  intro none
  have holds := List.findSome?_eq_none_iff.mp none s inside
  rw [(Table.lookup_eq_some_iff_mem captures distinct s v).mpr member, Option.bind_some,
    (Lexicon.nonempty?_eq_some v v).mpr ⟨nonempty, rfl⟩] at holds
  cases holds

section

variable (captures : List (Text × Text)) (r r' : Role) (s s' a b : Text)
  (distinct : (captures.map Prod.fst).Nodup) (different : r ≠ r')
  (slot : s ∈ r.slots) (slot' : s' ∈ r'.slots)
  (two : (captures.filter fun c => !c.2.isEmpty).Perm [(s, a), (s', b)])

include distinct different slot slot' two

/-- If two captures of different roles hold anything, each of these roles has what is held, and no
other role has anything. -/
theorem firstOf?_slots (q : Role) :
    firstOf? captures q.slots =
      if q = r then some a else if q = r' then some b else none := by
  have held (c : Text × Text) : c ∈ captures ∧ c.2 ≠ [] ↔ c = (s, a) ∨ c = (s', b) := by
    have members := two.mem_iff (a := c)
    simpa using members
  have served (v : Text) (found : firstOf? captures q.slots = some v) :
      q = r ∧ v = a ∨ q = r' ∧ v = b := by
    obtain ⟨t, inside, member, nonempty⟩ := mem_of_firstOf? _ _ v found
    rcases (held (t, v)).mp ⟨member, nonempty⟩ with ⟨⟨⟩⟩ | ⟨⟨⟩⟩
    · exact .inl ⟨Role.eq_of_mem_slots _ _ _ inside slot, rfl⟩
    · exact .inr ⟨Role.eq_of_mem_slots _ _ _ inside slot', rfl⟩
  obtain ⟨first, holds⟩ := (held (s, a)).mpr (.inl rfl)
  obtain ⟨second, holds'⟩ := (held (s', b)).mpr (.inr rfl)
  -- a role other than the two is not served, and the two find what they are there for
  cases found : firstOf? captures q.slots with
  | some v =>
    rcases served v found with ⟨rfl, rfl⟩ | ⟨rfl, rfl⟩
    · rw [if_pos rfl]
    · rw [if_neg different.symm, if_pos rfl]
  | none =>
    have other : q ≠ r := by
      rintro rfl
      exact firstOf?_ne_none _ _ s a distinct first holds slot found
    have other' : q ≠ r' := by
      rintro rfl
      exact firstOf?_ne_none _ _ s' b distinct second holds' slot' found
    rw [if_neg other, if_neg other']

end

/-! ### Articles -/

theorem dropArticles_suffix (l : Lexicon) (ws : List Text) : dropArticles l ws <:+ ws := by
  induction ws with
  | nil => exact List.suffix_refl []
  | cons w ws ih =>
    cases ws with
    | nil => exact List.suffix_refl [w]
    | cons v vs =>
      rw [dropArticles]
      split
      · exact ih.trans (List.suffix_cons w _)
      · exact List.suffix_refl _

theorem dropArticles_ne_nil (l : Lexicon) (ws : List Text) (nonempty : ws ≠ []) :
    dropArticles l ws ≠ [] := by
  induction ws with
  | nil => exact absurd rfl nonempty
  | cons w ws ih =>
    cases ws with
    | nil => exact nonempty
    | cons v vs =>
      rw [dropArticles]
      split
      · exact ih (List.cons_ne_nil v vs)
      · exact nonempty

/-- Articles are never all that a phrase has, so nothing is left of blank phrases only. -/
theorem stripArticles_eq_nil_iff (lexicon : Option Lexicon) (p : Text)
    (worded : p ≠ [] → Text.words p ≠ []) : stripArticles lexicon p = [] ↔ p = [] := by
  cases lexicon with
  | none => rfl
  | some l =>
    constructor
    · intro gone
      by_contra nonempty
      obtain ⟨w, ws, left⟩ :=
        List.exists_cons_of_ne_nil (dropArticles_ne_nil l _ (worded nonempty))
      have member : w ∈ Text.words p :=
        (dropArticles_suffix l (Text.words p)).mem (left ▸ List.mem_cons_self)
      rw [stripArticles, left, Text.unwords_cons] at gone
      exact (Text.isWord_of_mem_words p w member).1 (List.append_eq_nil_iff.mp gone).1
    · rintro rfl
      rfl

/-! ### The two places -/

section

variable (c : Command) (lexicon : Option Lexicon) (p : Option Text)

/-- A phrase is the direct object if there is none yet. -/
@[simp] theorem directObject_addObject :
    (c.addObject p).directObject = c.directObject.or p := by
  cases p with
  | none => simp [addObject]
  | some v => cases filled : c.directObject <;> simp [addObject, filled]

/-- Behind a direct object a phrase is the indirect object, whatever that was. -/
@[simp] theorem indirectObject_addObject :
    (c.addObject p).indirectObject = (c.directObject.bind fun _ => p).or c.indirectObject := by
  cases p with
  | none => simp [addObject]
  | some v => cases filled : c.directObject <;> simp [addObject, filled]

/-- A direction is the direct object, whatever that was. -/
@[simp] theorem directObject_addDirection :
    (c.addDirection lexicon p).directObject =
      (p.map fun d => (lexicon.bind (·.direction? d)).getD d).or c.directObject := by
  cases p <;> rfl

@[simp] theorem indirectObject_addDirection :
    (c.addDirection lexicon p).indirectObject = c.indirectObject := by
  cases p <;> rfl

@[simp] theorem directObject_markAll : (c.markAll lexicon).directObject = c.directObject := by
  unfold markAll
  split
  · split <;> rfl
  · rfl

@[simp] theorem indirectObject_markAll :
    (c.markAll lexicon).indirectObject = c.indirectObject := by
  unfold markAll
  split
  · split <;> rfl
  · rfl

end

/-- What the slots of a role hold first, without the articles in front. -/
def held (lexicon : Option Lexicon) (captures : List (Text × Text)) (q : Role) : Option Text :=
  firstOf? (captures.map fun c => (c.1, stripArticles lexicon c.2)) q.slots

/-- A direction takes the place of the direct object, and the other roles fill the two places one
after the other. -/
theorem exists_ofOutcome? (o : Outcome) (matched : o.matched = true) (lexicon : Option Lexicon) :
    ∃ c, ofOutcome? o lexicon = some c ∧
      c.directObject =
        ((held lexicon o.captures .direction).map fun d =>
            (lexicon.bind (·.direction? d)).getD d).or
          (((held lexicon o.captures .direct).or (held lexicon o.captures .target)).or
            (held lexicon o.captures .indirect)) ∧
      c.indirectObject =
        (((held lexicon o.captures .direct).or (held lexicon o.captures .target)).bind fun _ =>
            held lexicon o.captures .indirect).or
          ((held lexicon o.captures .direct).bind fun _ => held lexicon o.captures .target) := by
  cases o with
  | refused => cases matched
  | accepted action captures verb text =>
    refine ⟨_, rfl, ?_, ?_⟩
    · simp only [directObject_markAll, directObject_addDirection, directObject_addObject]
      rfl
    · simp only [indirectObject_markAll, indirectObject_addDirection, indirectObject_addObject,
        directObject_addObject, Option.or_none]
      rfl

end Command

/-! ### Outcomes -/

/-- Whether the captures are those of different slots, with a word in each that is not empty. -/
structure Outcome.HasProperCaptures (o : Outcome) : Prop where
  distinct : (o.captures.map Prod.fst).Nodup
  worded : ∀ c ∈ o.captures, c.2 ≠ [] → Text.words c.2 ≠ []

theorem map_fst_zip_sublist {α β : Type} (as : List α) (bs : List β) :
    ((as.zip bs).map Prod.fst).Sublist as := by
  induction as generalizing bs with
  | nil => exact List.Sublist.refl []
  | cons a as ih =>
    cases bs with
    | nil => exact List.nil_sublist _
    | cons b bs => exact (ih bs).cons_cons a

/-- Lines are interpreted to proper captures, under any rules and in any lexicon. -/
theorem Interpreter.hasProperCaptures (i : Interpreter) (line : Text) (o : Outcome)
    (interpreted : i.interpret line = .ok o) : o.HasProperCaptures := by
  cases matched : o.matched with
  | false =>
    cases o with
    | accepted => cases matched
    | refused => exact ⟨.nil, List.forall_mem_nil _⟩
  | true =>
    obtain ⟨f, verb, decided, rfl⟩ := i.interpret_accepted line o interpreted matched
    obtain ⟨-, fits, -⟩ := Rulebook.find?_spec _ _ _ f decided
    constructor
    · -- the names are those of the rule's slots, which differ
      obtain ⟨taken, -, spans⟩ := Option.map_eq_some_iff.mp fits
      rw [outcomeOf, Outcome.captures, surfaceCaptures, List.map_map, ← spans]
      exact (map_fst_zip_sublist _ taken).nodup f.rule.pattern.nodup_slots
    · intro c member nonempty
      obtain ⟨span, -, rfl⟩ := List.mem_map.mp member
      -- the phrase is some of the player's words, and not none of them
      rw [wordsAt, Text.words_unwords]
      · rintro empty
        rw [wordsAt, empty] at nonempty
        exact nonempty rfl
      · intro w taken
        exact i.isWord_of_mem_surfaceWords line w (List.mem_of_mem_drop (List.mem_of_mem_take taken))

/-! ### Two phrases -/

namespace Command

/-- If a command comes of exactly two phrases that play different roles, neither of them a
direction, its objects are these phrases without the articles in front, in the order of the roles.
But a direction takes the place of the other phrase, which is lost. -/
theorem objects_of_two_phrases (lexicon : Option Lexicon) :
    (∀ (i : Interpreter) line o, i.interpret line = .ok o → o.HasProperCaptures) ∧
    ∀ o : Outcome, o.HasProperCaptures → o.matched = true →
      ∀ (r r' : Role) (s s' a b : Text), r.rank < r'.rank → s ∈ r.slots → s' ∈ r'.slots →
      (o.captures.filter fun c => !c.2.isEmpty).Perm [(s, a), (s', b)] →
      ∃ c, ofOutcome? o lexicon = some c ∧
        (r' ≠ .direction → c.directObject = some (r.phrase lexicon a) ∧
          c.indirectObject = some (r'.phrase lexicon b)) ∧
        (r' = .direction → c.directObject = some (r'.phrase lexicon b) ∧
          c.indirectObject = none) := by
  refine ⟨Interpreter.hasProperCaptures, ?_⟩
  intro o proper matched r r' s s' a b before slot slot' two
  obtain ⟨c, made, direct, indirect⟩ := exists_ofOutcome? o matched lexicon
  refine ⟨c, made, ?_⟩
  -- exactly these two captures hold anything without their articles
  have stripped : ((o.captures.map fun c => (c.1, stripArticles lexicon c.2)).filter fun c =>
      !c.2.isEmpty).Perm [(s, stripArticles lexicon a), (s', stripArticles lexicon b)] := by
    rw [List.filter_map, List.filter_congr fun c member => ?_]
    · exact two.map fun c => (c.1, stripArticles lexicon c.2)
    · have kept := stripArticles_eq_nil_iff lexicon c.2 (proper.worded c member)
      rw [Function.comp_apply, Bool.eq_iff_iff]
      simp [kept]
  have distinct : ((o.captures.map fun c => (c.1, stripArticles lexicon c.2)).map
      Prod.fst).Nodup := by
    rw [List.map_map]
    exact proper.distinct
  have different : r ≠ r' := by
    rintro rfl
    exact Nat.lt_irrefl _ before
  have each := firstOf?_slots _ r r' s s' _ _ distinct different slot slot' stripped
  simp only [held, each] at direct indirect
  rw [direct, indirect]
  -- of the pairs of roles those out of order are excluded, and the others are computed
  cases r <;> cases r' <;> simp_all [Role.rank, Role.phrase]

end Command

/-- A lexicon for those who push things about. -/
def haulerLexicon : Lexicon :=
  .ofVocabulary
    { verbs := .ofPairs [("push".toList, ["shove".toList])]
      directions := .ofPairs [("north".toList, ["n".toList])]
      articles := ["the".toList] }

def haulerSources : List RuleSource :=
  [⟨"push <item> into <container>".toList, "LOAD".toList⟩,
    ⟨"push [the] <item> <direction>".toList, "PUSH".toList⟩]

/-- What is pushed and where it goes both come into the command, unless it goes in a direction. -/
theorem hauler_objects :
    ∃ i, Interpreter.ofSources haulerLexicon haulerSources true false = .ok i ∧
      (∃ o c, i.interpret "Shove the crate into the wagon".toList = .ok o ∧
        Command.ofOutcome? o (some haulerLexicon) = some c ∧
        c.directObject = some "crate".toList ∧ c.indirectObject = some "wagon".toList) ∧
      ∃ o c, i.interpret "Shove the crate n".toList = .ok o ∧
        Command.ofOutcome? o (some haulerLexicon) = some c ∧
        c.directObject = some "north".toList ∧ c.indirectObject = none := by
  have facts : (Interpreter.ofSources haulerLexicon haulerSources true false).map (fun i =>
      (i.interpret "Shove the crate into the wagon".toList,
        i.interpret "Shove the crate n".toList)) =
      .ok (.ok (.accepted "LOAD".toList
          [("item".toList, "the crate".toList), ("container".toList, "the wagon".toList)]
          (some "push".toList) "push the crate into the wagon".toList),
        .ok (.accepted "PUSH".toList
          [("item".toList, "crate".toList), ("direction".toList, "n".toList)]
          (some "push".toList) "push the crate north".toList)) := by decide +kernel
  obtain ⟨i, made, both⟩ := (map_eq_ok _ _ _).mp facts
  obtain ⟨loaded, pushed⟩ := Prod.mk.inj both
  obtain ⟨proper, objects⟩ := Command.objects_of_two_phrases (some haulerLexicon)
  refine ⟨i, made, ?_, ?_⟩
  · obtain ⟨c, command, kept, -⟩ := objects _ (proper i _ _ loaded) rfl .direct .indirect
      "item".toList "container".toList "the crate".toList "the wagon".toList (by decide)
      (by decide) (by decide) (.refl _)
    obtain ⟨direct, indirect⟩ := kept (by decide)
    refine ⟨_, c, loaded, command, direct.trans ?_, indirect.trans ?_⟩ <;> decide +kernel
  · obtain ⟨c, command, -, lost⟩ := objects _ (proper i _ _ pushed) rfl .direct .direction
      "item".toList "direction".toList "crate".toList "n".toList (by decide) (by decide)
      (by decide) (.refl _)
    obtain ⟨direct, indirect⟩ := lost rfl
    refine ⟨_, c, pushed, command, direct.trans ?_, indirect⟩
    decide +kernel

/-- The crate that is pushed north is lost: the objects of the command are not the two phrases, in
whatever order. -/
theorem hauler_loses_crate :
    ∃ i o c, Interpreter.ofSources haulerLexicon haulerSources true false = .ok i ∧
      i.interpret "push crate north".toList = .ok o ∧ o.matched = true ∧
      (o.captures.filter fun c => !c.2.isEmpty) =
        [("item".toList, "crate".toList), ("direction".toList, "north".toList)] ∧
      Command.ofOutcome? o (some haulerLexicon) = some c ∧
      ¬((c.directObject = some "crate".toList ∧ c.indirectObject = some "north".toList) ∨
        (c.directObject = some "north".toList ∧ c.indirectObject = some "crate".toList)) := by
  have facts : (Interpreter.ofSources haulerLexicon haulerSources true false).map (fun i =>
      i.interpret "push crate north".toList) =
      .ok (.ok (.accepted "PUSH".toList
        [("item".toList, "crate".toList), ("direction".toList, "north".toList)]
        (some "push".toList) "push crate north".toList)) := by decide +kernel
  obtain ⟨i, made, pushed⟩ := (map_eq_ok _ _ _).mp facts
  refine ⟨i, _, _, made, pushed, rfl, by decide, rfl, ?_⟩
  decide +kernel

end TextAdventure
