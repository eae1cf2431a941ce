import TextAdventure.Grammar.Printer
import TextAdventure.Proofs.Grammar.WellFormed
import TextAdventure.Proofs.Pattern.Scanning
import TextAdventure.Proofs.Text.Case

/-!
Lines of a grammar as they are written. Each kind of line says the directive that it was written for
(`Says`): its keyword ends at the first space, its key at the mark behind it, and nothing is trimmed
off what follows. A phrase in quotes is read back as it is, so a list of phrases is too, as long as
the phrases have no quotes of their own and no blanks but spaces (`IsPlain`).
-/
namespace TextAdventure.Grammar

open Text (IsWord IsTrimmed IsUnbroken)

/-! ### Phrases -/

/-- Whether the text has no quote in it and no blank but spaces. -/
def IsPlain (s : Text) : Prop := ∀ c ∈ s, c ≠ '\x22' ∧ (Text.isBlank c = true → c = ' ')

instance (s : Text) : Decidable (IsPlain s) :=
  decidable_of_iff
    ((s.all fun c => decide (c ≠ '\x22' ∧ (Text.isBlank c = true → c = ' '))) = true)
    (by simp only [IsPlain, List.all_eq_true, decide_eq_true_eq])

theorem IsPlain.isUnbroken (s : Text) (plain : IsPlain s) : IsUnbroken s := by
  intro c member
  cases breaks : Text.isLineBreak c with
  | false => rfl
  | true =>
    obtain rfl := (plain c member).2 (Text.isBlank_of_isLineBreak c breaks)
    exact absurd breaks (by decide)

/-- A phrase without a space is a word. -/
theorem IsPlain.isWord (s : Text) (plain : IsPlain s) (nonempty : s ≠ [])
    (solid : ¬s.contains ' ' = true) : IsWord s := by
  refine ⟨nonempty, fun c member => ?_⟩
  cases blank : Text.isBlank c with
  | false => rfl
  | true =>
    obtain rfl := (plain c member).2 blank
    exact absurd (List.contains_iff_mem.mpr member) solid

theorem isTrimmed_phraseText (s : Text) (plain : IsPlain s) (nonempty : s ≠ []) :
    IsTrimmed (phraseText s) := by
  unfold phraseText
  split
  · exact ⟨⟨'\x22', s ++ ['\x22'], rfl, by decide⟩, '\x22' :: s, '\x22', rfl, by decide⟩
  next spaceless =>
    obtain ⟨-, solid⟩ := plain.isWord s nonempty spaceless
    exact Text.isTrimmed_of_solid s nonempty solid

theorem isUnbroken_phraseText (s : Text) (plain : IsPlain s) : IsUnbroken (phraseText s) := by
  have unbroken := plain.isUnbroken s
  have quote : Text.isLineBreak '\x22' = false := rfl
  unfold phraseText
  split
  · simp [unbroken, quote]
  · exact unbroken

theorem splitPhrases_phrasesText_of_isPlain (ps : List Text) (plain : ∀ p ∈ ps, IsPlain p)
    (nonempty : ∀ p ∈ ps, p ≠ []) : splitPhrases (phrasesText ps) = ps := by
  have quoteless : ∀ p ∈ ps, '\x22' ∉ p := fun p member inside => (plain p member _ inside).1 rfl
  rw [splitPhrases_phrasesText ps (phraseRow_of_quoteless ps quoteless), flatMap_reread_eq_iff]
  intro p member
  refine (reread_eq_singleton_iff p (nonempty p member)).mpr ?_
  rintro ⟨c, inside, blank⟩
  obtain rfl := (plain p member c inside).2 blank
  exact inside

theorem trim_phrasesText (ps : List Text) (plain : ∀ p ∈ ps, IsPlain p)
    (nonempty : ∀ p ∈ ps, p ≠ []) : Text.trim (phrasesText ps) = phrasesText ps := by
  by_cases empty : ps = []
  · rw [empty]
    rfl
  · refine (Text.isTrimmed_unwords _ (by simpa using empty) fun w member => ?_).trim_eq
    obtain ⟨p, source, rfl⟩ := List.mem_map.mp member
    exact isTrimmed_phraseText p (plain p source) (nonempty p source)

theorem isUnbroken_phrasesText (ps : List Text) (plain : ∀ p ∈ ps, IsPlain p) :
    IsUnbroken (phrasesText ps) := by
  refine Text.isUnbroken_unwords _ fun w member => ?_
  obtain ⟨p, source, rfl⟩ := List.mem_map.mp member
  exact isUnbroken_phraseText p (plain p source)

/-! ### Keys -/

/-- A key is read back if neither the blanks behind it nor the mark could belong to it. -/
theorem splitKey?_written (p : Char → Bool) (mark : Char) (key gap t : Text) (isKey : IsKey p key)
    (blanks : ∀ c ∈ gap, Text.isBlank c = true) (solid : Text.isBlank mark = false)
    (stops : ∀ c ∈ gap ++ [mark], p c = false) :
    splitKey? p mark (key ++ (gap ++ mark :: t)) = some (key, Text.trimStart t) := by
  have first : (key ++ (gap ++ mark :: t)).takeWhile p = key := by
    refine takeWhile_of_stop p key _ isKey.2 fun c start => stops c ?_
    cases gap with
    | nil => exact Option.some.inj start ▸ List.mem_cons_self
    | cons d gap => exact Option.some.inj start ▸ List.mem_cons_self
  have behind : Text.trimStart (gap ++ mark :: t) = mark :: t := by
    rw [Text.trimStart, List.dropWhile_append_of_pos blanks]
    exact Text.trimStart_cons t mark solid
  have kept : key.isEmpty = false := List.isEmpty_eq_false_iff.mpr isKey.1
  simp only [splitKey?, first, List.drop_left, behind, kept, Bool.not_false, beq_self_eq_true,
    Bool.and_self, if_true]

/-- With a value behind the mark the key and the value are read back. -/
theorem splitKey?_value (mark : Char) (key gap value : Text) (isKey : IsKey Text.isWordChar key)
    (blanks : ∀ c ∈ gap, Text.isBlank c = true) (solid : Text.isBlank mark = false)
    (stops : ∀ c ∈ gap ++ [mark], Text.isWordChar c = false) (line : IsLine value) :
    splitKey? Text.isWordChar mark (key ++ (gap ++ mark :: ' ' :: value)) = some (key, value) := by
  obtain ⟨c, u, start, first⟩ := line.trimmed.head
  have kept : Text.trimStart (' ' :: value) = value := by
    rw [start]
    exact Text.trimStart_cons u c first
  rw [splitKey?_written _ mark key gap _ isKey blanks solid stops, kept]

theorem splitAbbreviation?_written (token phrase : Text) (word : IsWord token)
    (line : IsLine phrase) :
    splitAbbreviation? (token ++ " = ".toList ++ phrase) = some (token, phrase) := by
  have split : token ++ " = ".toList ++ phrase = token ++ ' ' :: '=' :: ' ' :: phrase := by simp
  have first : (token ++ ' ' :: '=' :: ' ' :: phrase).takeWhile (fun c => !Text.isBlank c) =
      token := by
    refine takeWhile_of_stop _ token _ (fun c member => ?_) fun c start => ?_
    · simpa using word.2 c member
    · obtain rfl := Option.some.inj start
      rfl
  have behind : Text.trimStart (' ' :: '=' :: ' ' :: phrase) = '=' :: ' ' :: phrase := rfl
  have whole : Text.trim (' ' :: phrase) = phrase := line.trimmed.trim_eq
  obtain ⟨c, w, rfl⟩ := List.exists_cons_of_ne_nil word.1
  simp only [split, splitAbbreviation?, first, List.drop_left, behind, whole]

/-! ### Lines -/

theorem readLine_trimEnd (l : Text) : readLine (Text.trimEnd l) = readLine l := by
  rw [readLine, readLine, Text.trim_trimEnd]

theorem readLine_comment (l : Text) (comment : l.head? = some '#') : readLine l = .ok none := by
  obtain ⟨t, rfl⟩ := List.head?_eq_some_iff.mp comment
  have solid : Text.isBlank '#' = false := by decide
  have trimmed : Text.trim ('#' :: t) = '#' :: Text.trimEnd t := by
    rw [Text.trim, Text.trimStart_cons t '#' solid, Text.trimEnd_cons t '#' (.inr solid)]
  rw [readLine, trimmed]
  rfl

/-- Whether the word can be what a line begins with without making it a comment. -/
def IsKeyword (k : Text) : Prop := IsWord k ∧ k.head? ≠ some '#'

instance (k : Text) : Decidable (IsKeyword k) :=
  inferInstanceAs (Decidable (IsWord k ∧ k.head? ≠ some '#'))

/-- The keyword of a line ends at its first space. -/
theorem readLine_keyword (k rest : Text) (keyword : IsKeyword k) (nonempty : Text.trim rest ≠ []) :
    readLine (k ++ ' ' :: rest) = (readDirective k (Text.trim rest)).map some := by
  obtain ⟨⟨kept, solid⟩, comment⟩ := keyword
  have something : Text.trimEnd rest ≠ [] := by
    intro empty
    rw [← Text.trimStart_trimEnd, empty] at nonempty
    exact nonempty rfl
  have trimmed : Text.trim (k ++ ' ' :: rest) = k ++ ' ' :: Text.trimEnd rest := by
    rw [(Text.isTrimmed_of_solid k kept solid).trim_append, Text.trimEnd_cons rest ' ' (.inl something)]
  have word : (k ++ ' ' :: Text.trimEnd rest).takeWhile (· != ' ') = k := by
    refine takeWhile_of_stop _ k _ (fun c member => ?_) fun c start => ?_
    · have other : c ≠ ' ' := by
        rintro rfl
        exact absurd (solid ' ' member) (by decide)
      simpa using other
    · obtain rfl := Option.some.inj start
      rfl
  have behind : (k ++ ' ' :: Text.trimEnd rest).drop (k.length + 1) = Text.trimEnd rest := by
    simp
  obtain ⟨c, u, rfl⟩ := List.exists_cons_of_ne_nil kept
  have plain : c ≠ '#' := fun same => comment (congrArg some same)
  rw [readLine, trimmed]
  rw [List.cons_append] at word behind ⊢
  simp only [plain, if_false, word, behind, Text.trim_trimEnd]

/-- Whether the line has no break in it and says the directive. -/
structure Says (l : Text) (d : Directive) : Prop where
  unbroken : IsUnbroken l
  read : readLine l = .ok (some d)

theorem says_of_readDirective (k rest : Text) (d : Directive) (keyword : IsKeyword k)
    (line : IsLine rest) (read : readDirective k rest = .ok d) : Says (k ++ ' ' :: rest) d where
  unbroken := by
    rw [Text.isUnbroken_append, Text.isUnbroken_cons]
    exact ⟨Text.isUnbroken_of_solid k keyword.1.2, rfl, line.unbroken⟩
  read := by
    have whole := line.trimmed.trim_eq
    have nonempty : Text.trim rest ≠ [] := whole.symm ▸ line.trimmed.ne_nil
    rw [readLine_keyword k rest keyword nonempty, whole, read]
    rfl

theorem isLine_append (key mark value : Text) (word : IsWord key) (unbroken : IsUnbroken mark)
    (line : IsLine value) : IsLine (key ++ mark ++ value) where
  trimmed := (Text.isTrimmed_of_solid key word.1 word.2).append key mark value line.trimmed
  unbroken := by
    rw [Text.isUnbroken_append, Text.isUnbroken_append]
    exact ⟨⟨Text.isUnbroken_of_solid key word.2, unbroken⟩, line.unbroken⟩

/-- The line of a canonical form says the directive that `make` gives. -/
theorem says_entryLine (keyword : String) (make : Text → List Text → Directive)
    (canonical : Text) (synonyms : List Text) (isKeyword : IsKeyword keyword.toList)
    (reads : ∀ rest key phrases, splitKey? isFormChar ':' rest = some (key, phrases) →
      readDirective keyword.toList rest = .ok (make key (splitPhrases phrases)))
    (key : IsKey isFormChar canonical) (plain : ∀ s ∈ synonyms, IsPlain s)
    (nonempty : ∀ s ∈ synonyms, s ≠ []) :
    Says (entryLine keyword (canonical, synonyms)) (make canonical synonyms) := by
  have word := key.isWord isFormChar canonical isBlank_of_isFormChar
  have written : entryLine keyword (canonical, synonyms) =
      Text.trimEnd (keyword.toList ++ ' ' :: (canonical ++ [':'] ++ ' ' :: phrasesText synonyms)) := by
    simp [entryLine]
  constructor
  · have whole : IsUnbroken
        (keyword.toList ++ ' ' :: (canonical ++ [':'] ++ ' ' :: phrasesText synonyms)) := by
      have space : Text.isLineBreak ' ' = false := rfl
      have colon : Text.isLineBreak ':' = false := rfl
      simp [space, colon, Text.isUnbroken_of_solid _ isKeyword.1.2,
        Text.isUnbroken_of_solid _ word.2, isUnbroken_phrasesText synonyms plain]
    rw [written]
    exact fun c member => whole c (Text.mem_of_mem_trimEnd _ c member)
  · have front : IsTrimmed (canonical ++ [':']) :=
      Text.isTrimmed_of_solid _ (by simp) (List.forall_mem_append.mpr
        ⟨word.2, List.forall_mem_singleton.mpr (by decide)⟩)
    have rest : Text.trim (canonical ++ [':'] ++ ' ' :: phrasesText synonyms) =
        canonical ++ ([] ++ ':' :: Text.trimEnd (' ' :: phrasesText synonyms)) := by
      rw [front.trim_append, List.append_assoc]
      rfl
    have kept : Text.trim (canonical ++ [':'] ++ ' ' :: phrasesText synonyms) ≠ [] := by
      rw [rest]
      simp
    -- the space behind the colon goes, whether or not a phrase follows it
    have phrases : Text.trimStart (Text.trimEnd (' ' :: phrasesText synonyms)) =
        phrasesText synonyms := by
      rw [Text.trimStart_trimEnd]
      exact trim_phrasesText synonyms plain nonempty
    have split := splitKey?_written isFormChar ':' canonical []
      (Text.trimEnd (' ' :: phrasesText synonyms)) key (List.forall_mem_nil _) (by decide)
      (List.forall_mem_singleton.mpr (by decide))
    rw [written, readLine_trimEnd, readLine_keyword _ _ isKeyword kept, rest, reads _ _ _ split,
      phrases, splitPhrases_phrasesText_of_isPlain synonyms plain nonempty]
    rfl

theorem says_verbLine (canonical : Text) (synonyms : List Text)
    (wellFormed : (Directive.verb canonical synonyms).WellFormed)
    (plain : ∀ s ∈ synonyms, IsPlain s) :
    Says (entryLine "verb" (canonical, synonyms)) (.verb canonical synonyms) := by
  refine says_entryLine "verb" .verb canonical synonyms (by decide) (fun rest key phrases split => ?_)
    wellFormed.1 plain wellFormed.2
  change splitKey? (fun c => !Text.isBlank c && c != ':') ':' rest = _ at split
  simp [readDirective, split]

theorem says_directionLine (canonical : Text) (synonyms : List Text)
    (wellFormed : (Directive.direction canonical synonyms).WellFormed)
    (plain : ∀ s ∈ synonyms, IsPlain s) :
    Says (entryLine "direction" (canonical, synonyms)) (.direction canonical synonyms) := by
  refine says_entryLine "direction" .direction canonical synonyms (by decide)
    (fun rest key phrases split => ?_) wellFormed.1 plain wellFormed.2
  change splitKey? (fun c => !Text.isBlank c && c != ':') ':' rest = _ at split
  simp [readDirective, split]

theorem says_settingLine (keyword : String) (e : Text × Text) (d : Directive)
    (isKeyword : IsKeyword keyword.toList) (word : IsWord e.1) (line : IsLine e.2)
    (reads : readDirective keyword.toList (e.1 ++ " = ".toList ++ e.2) = .ok d) :
    Says (settingLine keyword e) d := by
  have written : settingLine keyword e = keyword.toList ++ ' ' :: (e.1 ++ " = ".toList ++ e.2) := by
    simp [settingLine]
  have equals : IsUnbroken " = ".toList := by decide
  rw [written]
  exact says_of_readDirective _ _ d isKeyword (isLine_append e.1 _ e.2 word equals line) reads

theorem says_abbreviationLine (token phrase : Text)
    (wellFormed : (Directive.abbreviation token phrase).WellFormed) :
    Says (settingLine "abbrev" (token, phrase)) (.abbreviation token phrase) := by
  obtain ⟨word, line⟩ := wellFormed
  refine says_settingLine "abbrev" (token, phrase) _ (by decide) word line ?_
  rw [readDirective, splitAbbreviation?_written token phrase word line]
  rfl

theorem says_errorLine (key template : Text)
    (wellFormed : (Directive.error key template).WellFormed) :
    Says (settingLine "error" (key, template)) (.error key template) := by
  obtain ⟨isKey, line⟩ := wellFormed
  have word := isKey.isWord Text.isWordChar key Text.isBlank_of_isWordChar
  have read (rest : Text) (c : Char) (u : Text)
      (split : splitKey? Text.isWordChar '=' rest = some (key, c :: u)) :
      readDirective "error".toList rest = .ok (.error key (Text.trim (c :: u))) := by
    simp [readDirective, wordListNames, split]
  have space : ∀ c ∈ [' '], Text.isBlank c = true := List.forall_mem_singleton.mpr rfl
  have stops : ∀ c ∈ [' '] ++ ['='], Text.isWordChar c = false :=
    List.forall_mem_cons.mpr ⟨rfl, List.forall_mem_singleton.mpr rfl⟩
  have split := splitKey?_value '=' key [' '] template isKey space (by decide) stops line
  have written : key ++ " = ".toList ++ template = key ++ ([' '] ++ '=' :: ' ' :: template) := by simp
  refine says_settingLine "error" (key, template) _ (by decide) word line ?_
  obtain ⟨c, u, start⟩ := List.exists_cons_of_ne_nil line.trimmed.ne_nil
  rw [start] at split
  rw [written, start, read _ c u split, ← start, line.trimmed.trim_eq]

theorem says_multiWordLine (phrase : Text)
    (wellFormed : (Directive.multiWordVerb phrase).WellFormed) :
    Says ("multiword ".toList ++ phrase) (.multiWordVerb phrase) := by
  have nonempty : phrase ≠ [] := wellFormed.trimmed.ne_nil
  have read : readDirective "multiword".toList phrase = .ok (.multiWordVerb phrase) := by
    simp [readDirective, nonempty]
  exact says_of_readDirective "multiword".toList phrase _ (by decide) wellFormed read

theorem says_ruleLine (r : RuleSource) (wellFormed : (Directive.rule r).WellFormed) :
    Says (ruleLine r) (.rule r) := by
  obtain ⟨pattern, action⟩ := r
  obtain ⟨isKey, line, p, parsed⟩ : IsKey Text.isWordChar action ∧ IsLine pattern ∧
    ∃ p, Pattern.parse pattern = .ok p := wellFormed
  have word := isKey.isWord Text.isWordChar action Text.isBlank_of_isWordChar
  have read (rest : Text) (c : Char) (u : Text)
      (split : splitKey? Text.isWordChar ':' rest = some (action, c :: u))
      (trimmed : Text.trim (c :: u) = pattern) :
      readDirective "pattern".toList rest = .ok (.rule ⟨pattern, action⟩) := by
    simp [readDirective, wordListNames, split, trimmed, parsed]
  have stops : ∀ c ∈ [] ++ [':'], Text.isWordChar c = false := List.forall_mem_singleton.mpr rfl
  have split := splitKey?_value ':' action [] pattern isKey (List.forall_mem_nil _) (by decide)
    stops line
  have written : ruleLine ⟨pattern, action⟩ =
      "pattern".toList ++ ' ' :: (action ++ ": ".toList ++ pattern) := by
    have keyword : "pattern ".toList = "pattern".toList ++ [' '] := by decide
    refine (congrArg (· ++ action ++ ": ".toList ++ pattern) keyword).trans ?_
    simp only [List.append_assoc, List.cons_append, List.nil_append]
  have colon : IsUnbroken ": ".toList := by decide
  rw [written]
  refine says_of_readDirective "pattern".toList _ _ (by decide)
    (isLine_append action _ pattern word colon line) ?_
  obtain ⟨c, u, start⟩ := List.exists_cons_of_ne_nil line.trimmed.ne_nil
  rw [List.append_assoc]
  exact read _ c u (start ▸ split) (start ▸ line.trimmed.trim_eq)

theorem isKeyword_of_mem_wordListNames (k : Text) (listed : k ∈ wordListNames) : IsKeyword k := by
  have keywords : ∀ k ∈ wordListNames, IsKeyword k := by decide
  exact keywords k listed

theorem says_wordListLine (name : Text) (ws : List Text)
    (wellFormed : (Directive.wordList name ws).WellFormed) (nonempty : ws ≠ []) :
    Says (name ++ ' ' :: Text.unwords ws) (.wordList name ws) := by
  obtain ⟨listed, words⟩ := wellFormed
  have line : IsLine (Text.unwords ws) :=
    ⟨Text.isTrimmed_unwords ws nonempty fun w member =>
        Text.isTrimmed_of_solid w (words w member).1 (words w member).2,
      Text.isUnbroken_unwords ws fun w member => Text.isUnbroken_of_solid w (words w member).2⟩
  have others : ∀ k ∈ wordListNames, k ≠ "verb".toList ∧ k ≠ "direction".toList ∧
      k ≠ "abbrev".toList ∧ k ≠ "multiword".toList := by decide
  -- the keywords in front of the word lists are none of their names
  obtain ⟨verb, direction, abbreviation, multiword⟩ := others name listed
  have read : readDirective name (Text.unwords ws) = .ok (.wordList name ws) := by
    rw [readDirective, if_neg verb, if_neg direction, if_neg abbreviation, if_neg multiword,
      if_pos (List.contains_iff_mem.mpr listed), Text.words_unwords ws words]
  exact says_of_readDirective name _ _ (isKeyword_of_mem_wordListNames name listed) line read

end TextAdventure.Grammar
