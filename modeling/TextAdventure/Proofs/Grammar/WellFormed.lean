import TextAdventure.Grammar.Parser
import TextAdventure.Proofs.Except
import TextAdventure.Proofs.Grammar.Phrases
import TextAdventure.Proofs.Table
import TextAdventure.Proofs.Text.Lines

/-!
Grammars that were read. `ReadFrom` says what the rest of a line can say once its keyword is gone;
from it follows what is known of every directive and, since adding directives brings nothing else
in, of every document (`wellFormed_of_parse`).
-/
namespace TextAdventure.Grammar

open Text (IsWord IsTrimmed IsUnbroken)

/-- Whether the text can stand on a line by itself: no blank at either end and no line break. -/
structure IsLine (t : Text) : Prop where
  trimmed : IsTrimmed t
  unbroken : IsUnbroken t

/-- Whether the text can stand in front of a mark: it is not empty and consists of characters that
satisfy `p`. -/
def IsKey (p : Char → Bool) (t : Text) : Prop := t ≠ [] ∧ ∀ c ∈ t, p c = true

/-- Characters of a canonical form. -/
def isFormChar (c : Char) : Bool := !Text.isBlank c && c != ':'

/-- Whether the parts of a directive are as they come out of a line. -/
def Directive.WellFormed : Directive → Prop
  | verb canonical synonyms => IsKey isFormChar canonical ∧ ∀ s ∈ synonyms, s ≠ []
  | direction canonical synonyms => IsKey isFormChar canonical ∧ ∀ s ∈ synonyms, s ≠ []
  | abbreviation token phrase => IsWord token ∧ IsLine phrase
  | multiWordVerb phrase => IsLine phrase
  | wordList name words => name ∈ wordListNames ∧ ∀ w ∈ words, IsWord w
  | error key template => IsKey Text.isWordChar key ∧ IsLine template
  | rule source => IsKey Text.isWordChar source.action ∧ IsLine source.pattern ∧
      ∃ p, Pattern.parse source.pattern = .ok p

theorem IsKey.isWord (p : Char → Bool) (t : Text) (key : IsKey p t)
    (solid : ∀ c, p c = true → Text.isBlank c = false) : IsWord t :=
  ⟨key.1, fun c member => solid c (key.2 c member)⟩

theorem isBlank_of_isFormChar (c : Char) (inForm : isFormChar c = true) :
    Text.isBlank c = false := by
  rw [isFormChar, Bool.and_eq_true, Bool.not_eq_true'] at inForm
  exact inForm.1

/-! ### Parts of a line -/

theorem IsLine.trim_of_suffix (t u : Text) (line : IsLine t) (suffix : u <:+ t)
    (nonempty : u ≠ []) : IsLine (Text.trim u) := by
  obtain ⟨v, c, stop, solid⟩ := line.trimmed.last
  obtain ⟨w, d, rfl⟩ := (List.eq_nil_or_concat u).resolve_left nonempty
  obtain ⟨x, whole⟩ := suffix
  -- the last character of the suffix is that of the whole
  have same : d = c := by
    rw [List.concat_eq_append, stop, ← List.append_assoc] at whole
    exact (List.append_inj' whole rfl).2 |> List.singleton_inj.mp
  refine ⟨Text.isTrimmed_trim_of_last _ w d List.concat_eq_append (same ▸ solid), fun e member => ?_⟩
  have inside := Text.mem_of_mem_trim _ e member
  exact line.unbroken e (whole ▸ List.mem_append_right x inside)

theorem splitKey?_spec (p : Char → Bool) (mark : Char) (t key rest : Text)
    (split : splitKey? p mark t = some (key, rest)) : IsKey p key ∧ rest <:+ t := by
  unfold splitKey? at split
  simp only at split
  split at split
  next c u behind =>
    split at split
    next kept =>
      cases split
      have nonempty : t.takeWhile p ≠ [] := by
        intro empty
        simp [empty] at kept
      refine ⟨⟨nonempty, List.all_eq_true.mp List.all_takeWhile⟩, ?_⟩
      have tail : u <:+ c :: u := List.suffix_cons c u
      have trimmed : c :: u <:+ t.drop (t.takeWhile p).length :=
        behind ▸ List.dropWhile_suffix Text.isBlank
      exact (List.dropWhile_suffix _).trans (tail.trans (trimmed.trans (List.drop_suffix _ _)))
    · cases split
  · cases split

theorem splitEquals?_spec (after w token rest : Text)
    (split : splitEquals? after w = some (token, rest)) :
    token ≠ [] ∧ (∀ c ∈ token, c ∈ w) ∧ rest ≠ [] ∧ rest <:+ w ++ after := by
  induction w generalizing token rest with
  | nil => cases split
  | cons c w ih =>
    unfold splitEquals? at split
    -- a later equals sign is preferred, and then the character belongs to the token
    split at split
    next token' rest' later =>
      cases split
      obtain ⟨-, inside, nonempty, suffix⟩ := ih token' rest later
      refine ⟨List.cons_ne_nil c token', fun d member => ?_, nonempty,
        suffix.trans (List.suffix_cons c _)⟩
      rcases List.mem_cons.mp member with rfl | behind
      · exact List.mem_cons_self
      · exact List.mem_cons_of_mem c (inside d behind)
    · split at split
      next rest' =>
        split at split
        · cases split
        next kept =>
          cases split
          refine ⟨List.cons_ne_nil c [], fun d member => ?_, by simpa using kept, ?_⟩
          · exact List.mem_singleton.mp member ▸ List.mem_cons_self
          · exact (List.suffix_cons '=' _).trans (List.suffix_cons c _)
      · cases split

theorem splitAbbreviation?_spec (t token phrase : Text)
    (split : splitAbbreviation? t = some (token, phrase)) :
    IsWord token ∧ ∃ u, u ≠ [] ∧ u <:+ t ∧ phrase = Text.trim u := by
  unfold splitAbbreviation? at split
  simp only at split
  generalize first : t.takeWhile (fun c => !Text.isBlank c) = word at split
  have solid : ∀ c ∈ word, Text.isBlank c = false := by
    intro c member
    rw [← Bool.not_eq_true']
    exact List.all_eq_true.mp List.all_takeWhile c (first ▸ member)
  have whole : word ++ t.drop word.length = t := by
    rw [List.prefix_iff_eq_append.mp (first ▸ List.takeWhile_prefix _)]
  split at split
  · cases split
  next c u d rest behind =>
    -- the sign stands behind the first word, which is the token as a whole
    cases split
    refine ⟨⟨List.cons_ne_nil c u, solid⟩, d :: rest, List.cons_ne_nil d rest, ?_, rfl⟩
    have trimmed : '=' :: d :: rest <:+ t.drop (c :: u).length :=
      behind ▸ List.dropWhile_suffix Text.isBlank
    exact (List.suffix_cons '=' _).trans (trimmed.trans (List.drop_suffix _ _))
  next c u _ _ =>
    -- the sign stands in the first word, and the rest may begin there too
    obtain ⟨⟨token', rest⟩, equals, last⟩ := Option.map_eq_some_iff.mp split
    cases last
    obtain ⟨nonempty, inside, nonempty', suffix⟩ := splitEquals?_spec _ _ _ _ equals
    exact ⟨⟨nonempty, fun d member => solid d (inside d member)⟩, rest, nonempty',
      whole ▸ suffix, rfl⟩

/-! ### Directives -/

/-- What the rest of a line can say, whatever its keyword. -/
inductive ReadFrom (keyword rest : Text) : Directive → Prop
  | verb (canonical synonyms : Text) :
    splitKey? isFormChar ':' rest = some (canonical, synonyms) →
    ReadFrom keyword rest (.verb canonical (splitPhrases synonyms))
  | direction (canonical synonyms : Text) :
    splitKey? isFormChar ':' rest = some (canonical, synonyms) →
    ReadFrom keyword rest (.direction canonical (splitPhrases synonyms))
  | abbreviation (token phrase : Text) :
    splitAbbreviation? rest = some (token, phrase) →
    ReadFrom keyword rest (.abbreviation token phrase)
  | multiWordVerb : rest ≠ [] → ReadFrom keyword rest (.multiWordVerb rest)
  | wordList : keyword ∈ wordListNames → ReadFrom keyword rest (.wordList keyword (Text.words rest))
  | error (key template : Text) :
    splitKey? Text.isWordChar '=' rest = some (key, template) → template ≠ [] →
    ReadFrom keyword rest (.error key (Text.trim template))
  | rule (action pattern : Text) (p : Pattern) :
    splitKey? Text.isWordChar ':' rest = some (action, pattern) → pattern ≠ [] →
    Pattern.parse (Text.trim pattern) = .ok p →
    ReadFrom keyword rest (.rule ⟨Text.trim pattern, action⟩)

theorem readFrom_of_readDirective (keyword rest : Text) (d : Directive)
    (read : readDirective keyword rest = .ok d) : ReadFrom keyword rest d := by
  unfold readDirective at read
  split at read
  · split at read
    next canonical synonyms key =>
      cases read
      exact .verb canonical synonyms key
    · cases read
  split at read
  · split at read
    next canonical synonyms key =>
      cases read
      exact .direction canonical synonyms key
    · cases read
  split at read
  · split at read
    next token phrase key =>
      cases read
      exact .abbreviation token phrase key
    · cases read
  split at read
  · split at read
    · cases read
    next kept =>
      cases read
      exact .multiWordVerb (by simpa using kept)
  split at read
  next listed =>
    cases read
    exact .wordList (List.contains_iff_mem.mp listed)
  split at read
  · split at read
    next key c template found =>
      cases read
      exact .error key (c :: template) found (List.cons_ne_nil c template)
    · cases read
  split at read
  · split at read
    next action c pattern found =>
      simp only at read
      split at read
      next p parsed =>
        cases read
        exact .rule action (c :: pattern) p found (List.cons_ne_nil c pattern) parsed
      · cases read
    · cases read
  · cases read

theorem wellFormed_of_readFrom (keyword rest : Text) (d : Directive)
    (line : rest ≠ [] → IsLine rest) (read : ReadFrom keyword rest d) : d.WellFormed := by
  -- what is left behind a mark ends the line
  have tail (u : Text) (suffix : u <:+ rest) (nonempty : u ≠ []) : IsLine (Text.trim u) := by
    have whole : rest ≠ [] := fun empty => nonempty (List.suffix_nil.mp (empty ▸ suffix))
    exact (line whole).trim_of_suffix rest u suffix nonempty
  cases read with
  | verb canonical synonyms split =>
    exact ⟨(splitKey?_spec _ _ _ _ _ split).1, ne_nil_of_mem_splitPhrases synonyms⟩
  | direction canonical synonyms split =>
    exact ⟨(splitKey?_spec _ _ _ _ _ split).1, ne_nil_of_mem_splitPhrases synonyms⟩
  | abbreviation token phrase split =>
    obtain ⟨word, u, nonempty, suffix, rfl⟩ := splitAbbreviation?_spec _ _ _ split
    exact ⟨word, tail u suffix nonempty⟩
  | multiWordVerb nonempty => exact line nonempty
  | wordList listed => exact ⟨listed, Text.isWord_of_mem_words rest⟩
  | error key template split nonempty =>
    obtain ⟨name, suffix⟩ := splitKey?_spec _ _ _ _ _ split
    exact ⟨name, tail template suffix nonempty⟩
  | rule action pattern p split nonempty parsed =>
    obtain ⟨name, suffix⟩ := splitKey?_spec _ _ _ _ _ split
    exact ⟨name, tail pattern suffix nonempty, p, parsed⟩

theorem wellFormed_of_readLine (line : Text) (d : Option Directive) (unbroken : IsUnbroken line)
    (read : readLine line = .ok d) : ∀ e ∈ d, e.WellFormed := by
  unfold readLine at read
  split at read
  · cases read
    intro e member
    cases member
  next c t trimmed =>
    split at read
    · cases read
      intro e member
      cases member
    · obtain ⟨e, directive, rfl⟩ := (map_eq_ok _ _ _).mp read
      intro e' member
      obtain rfl := Option.some.inj member
      -- the rest of the line is trimmed before it is read
      refine wellFormed_of_readFrom _ _ e (fun nonempty => ⟨Text.isTrimmed_trim _ nonempty, ?_⟩)
        (readFrom_of_readDirective _ _ e directive)
      intro d inside
      have kept := List.mem_of_mem_drop (Text.mem_of_mem_trim _ d inside)
      exact unbroken d (Text.mem_of_mem_trim line d (trimmed ▸ kept))

theorem wellFormed_of_readLines (n : Nat) (ls : List Text) (ds : List Directive)
    (unbroken : ∀ l ∈ ls, IsUnbroken l) (read : readLines n ls = .ok ds) :
    ∀ d ∈ ds, d.WellFormed := by
  induction ls generalizing n ds with
  | nil =>
    cases read
    exact List.forall_mem_nil _
  | cons l ls ih =>
    obtain ⟨first, rest⟩ := List.forall_mem_cons.mp unbroken
    unfold readLines at read
    split at read
    · cases read
    next d directive =>
      obtain ⟨later, readLater, last⟩ := (bind_eq_ok _ _ _).mp read
      cases last
      refine List.forall_mem_append.mpr ⟨fun e member => ?_, ih (n + 1) later rest readLater⟩
      exact wellFormed_of_readLine l d first directive e (Option.mem_toList.mp member)

/-! ### Documents -/

/-- Whether everything in the document is as it comes out of lines. -/
structure Document.WellFormed (d : Document) : Prop where
  verbs : ∀ e ∈ d.verbs.entries, (Directive.verb e.1 e.2).WellFormed
  directions : ∀ e ∈ d.directions.entries, (Directive.direction e.1 e.2).WellFormed
  abbreviations : ∀ e ∈ d.abbreviations.entries, (Directive.abbreviation e.1 e.2).WellFormed
  multiWordVerbs : ∀ p ∈ d.multiWordVerbs, (Directive.multiWordVerb p).WellFormed
  wordLists : ∀ e ∈ d.wordLists.entries, (Directive.wordList e.1 e.2).WellFormed
  errors : ∀ e ∈ d.errors.entries, (Directive.error e.1 e.2).WellFormed
  rules : ∀ r ∈ d.rules, (Directive.rule r).WellFormed

theorem Document.wellFormed_empty : ({} : Document).WellFormed where
  verbs := List.forall_mem_nil _
  directions := List.forall_mem_nil _
  abbreviations := List.forall_mem_nil _
  multiWordVerbs := List.forall_mem_nil _
  wordLists := List.forall_mem_nil _
  errors := List.forall_mem_nil _
  rules := List.forall_mem_nil _

theorem Document.WellFormed.add (d : Document) (e : Directive) (document : d.WellFormed)
    (directive : e.WellFormed) : (d.add e).WellFormed := by
  cases e with
  | verb canonical synonyms =>
    exact { document with
      verbs := Table.forall_entries_append _ _ d.verbs canonical synonyms document.verbs
        directive.1 directive.2 }
  | direction canonical synonyms =>
    exact { document with
      directions := Table.forall_entries_append _ _ d.directions canonical synonyms
        document.directions directive.1 directive.2 }
  | abbreviation token phrase =>
    exact { document with
      abbreviations := Table.forall_entries_put (fun k v => (Directive.abbreviation k v).WellFormed)
        d.abbreviations token phrase document.abbreviations directive }
  | multiWordVerb phrase =>
    exact { document with
      multiWordVerbs := List.forall_mem_append.mpr
        ⟨document.multiWordVerbs, List.forall_mem_singleton.mpr directive⟩ }
  | wordList name words =>
    exact { document with
      wordLists := Table.forall_entries_append _ _ d.wordLists name words document.wordLists
        directive.1 directive.2 }
  | error key template =>
    exact { document with
      errors := Table.forall_entries_put (fun k v => (Directive.error k v).WellFormed) d.errors key
        template document.errors directive }
  | rule source =>
    exact { document with
      rules := List.forall_mem_append.mpr
        ⟨document.rules, List.forall_mem_singleton.mpr directive⟩ }

theorem Document.wellFormed_ofDirectives (ds : List Directive) (directives : ∀ e ∈ ds, e.WellFormed) :
    (ofDirectives ds).WellFormed := by
  have fold (d : Document) (document : d.WellFormed) : (ds.foldl add d).WellFormed := by
    induction ds generalizing d with
    | nil => exact document
    | cons e ds ih =>
      obtain ⟨first, later⟩ := List.forall_mem_cons.mp directives
      exact ih later (d.add e) (document.add d e first)
  exact fold {} wellFormed_empty

/-- Every document that was read is well-formed. -/
theorem wellFormed_of_parse (t : Text) (d : Document) (parsed : parse t = .ok d) :
    d.WellFormed := by
  obtain ⟨ds, read, rfl⟩ := (map_eq_ok _ _ _).mp parsed
  exact Document.wellFormed_ofDirectives ds
    (wellFormed_of_readLines 1 _ ds (Text.isUnbroken_of_mem_lines t) read)

end TextAdventure.Grammar
