import TextAdventure.Pattern.Printer
import TextAdventure.Proofs.Except
import TextAdventure.Proofs.Pattern.Matching
import TextAdventure.Proofs.Pattern.Spelling
import TextAdventure.Proofs.Text.Folding

/-!
The canonical spelling of a pattern is read back as that pattern, and every pattern that is read is
one that has a canonical spelling. So the canonical spelling may stand for whatever the author
wrote: it compiles to the same expression under every lexicon, and no two patterns share it.
-/
namespace TextAdventure

namespace Pattern

/-! ### Folded words -/

/-- The characters of spelled words. -/
def IsSpelledChar (c : Char) : Prop := c.isAlphanum = true ∨ c = '\x27' ∨ c = '-'

instance (c : Char) : Decidable (IsSpelledChar c) := inferInstanceAs (Decidable (_ ∨ _))

/-- Lower-case letters and digits of the first 128 code points, apostrophes and hyphens. -/
def IsFoldedChar (c : Char) : Prop := c.isLower = true ∨ c.isDigit = true ∨ c = '\x27' ∨ c = '-'

instance (c : Char) : Decidable (IsFoldedChar c) := inferInstanceAs (Decidable (_ ∨ _))

def IsFoldedWord (w : Text) : Prop := w ≠ [] ∧ ∀ c ∈ w, IsFoldedChar c

instance (w : Text) : Decidable (IsFoldedWord w) := inferInstanceAs (Decidable (_ ∧ _))

theorem isSpelledChar_of_isFoldedChar (c : Char) (folded : IsFoldedChar c) : IsSpelledChar c := by
  rcases folded with lower | digit | other
  · left
    unfold Char.isAlphanum Char.isAlpha
    simp only [lower, Bool.or_true, Bool.true_or]
  · left
    unfold Char.isAlphanum
    simp only [digit, Bool.or_true]
  · exact .inr other

theorem toNat_lt_of_isSpelledChar (c : Char) (spelled : IsSpelledChar c) : c.toNat < 128 := by
  rcases spelled with alphanumeric | rfl | rfl
  · unfold Char.isAlphanum Char.isAlpha Char.isUpper Char.isLower Char.isDigit at alphanumeric
    simp only [Bool.or_eq_true, Bool.and_eq_true, decide_eq_true_eq, UInt32.le_iff_toNat_le,
      ge_iff_le, Char.reduceVal, UInt32.reduceToNat] at alphanumeric
    have code : c.toNat = c.val.toNat := rfl
    omega
  · decide
  · decide

theorem foldChar_of_isSpelledChar (c : Char) (spelled : IsSpelledChar c) :
    ∃ d, Text.foldChar c = [d] ∧ IsFoldedChar d ∧ (IsFoldedChar c → d = c) := by
  have ascii := toNat_lt_of_isSpelledChar c spelled
  have entry : (IsSpelledChar c → IsFoldedChar c.toLower) ∧ (IsFoldedChar c → c.toLower = c) :=
    Text.forall_ascii (by decide) c ascii
  exact ⟨c.toLower, if_pos ascii, entry.1 spelled, entry.2⟩

theorem isSpelledWord_of_isFoldedWord (w : Text) (folded : IsFoldedWord w) : IsSpelledWord w :=
  ⟨folded.1, fun c member => isSpelledChar_of_isFoldedChar c (folded.2 c member)⟩

theorem isFoldedWord_casefold (w : Text) (spelled : IsSpelledWord w) :
    IsFoldedWord (Text.casefold w) := by
  obtain ⟨nonempty, inside⟩ := spelled
  constructor
  · obtain ⟨c, w, rfl⟩ := List.exists_cons_of_ne_nil nonempty
    obtain ⟨d, image, -⟩ := foldChar_of_isSpelledChar c (inside c List.mem_cons_self)
    simp [Text.casefold, image]
  · intro d member
    obtain ⟨c, source, image⟩ := List.mem_flatMap.mp member
    obtain ⟨d', single, folded, -⟩ := foldChar_of_isSpelledChar c (inside c source)
    rw [single] at image
    exact List.mem_singleton.mp image ▸ folded

theorem casefold_of_isFoldedWord (w : Text) (folded : IsFoldedWord w) : Text.casefold w = w := by
  refine Text.casefold_of_fixed w fun c member => ?_
  have inWord := folded.2 c member
  obtain ⟨d, image, -, same⟩ := foldChar_of_isSpelledChar c (isSpelledChar_of_isFoldedChar c inWord)
  rw [image, same inWord]

end Pattern

/-! ### Well-formed patterns -/

/-- Whether the element names folded words, and captures under a name. -/
structure Element.IsWellFormed (e : Element) : Prop where
  words : ∀ w ∈ e.words, Pattern.IsFoldedWord w
  name : ∀ n ∈ e.slot?, Pattern.IsSlotName n

/-- Whether all elements are well-formed. That slots differ and something must be said is part of
being a pattern, and that there is something to choose from is part of being an element. -/
def Pattern.IsWellFormed (p : Pattern) : Prop := ∀ e ∈ p.elements, e.IsWellFormed

namespace Pattern

/-! ### Canonical spellings -/

theorem spellsChoice_text (c : Choice) (folded : ∀ w ∈ c.words, IsFoldedWord w) :
    SpellsChoice c c.text := by
  have proper : ∀ w ∈ c.words, IsSpelledWord w := fun w member =>
    isSpelledWord_of_isFoldedWord w (folded w member)
  -- a spelling denotes the folded words, and these are folded already
  have fixed : c.words.map Text.casefold = c.words := by
    rw [List.map_congr_left fun w member => casefold_of_isFoldedWord w (folded w member),
      List.map_id']
  obtain ⟨w, ws⟩ := c
  obtain ⟨first, others⟩ := List.cons.inj fixed
  have spelled := SpellsChoice.words w ws proper
  rwa [first, others] at spelled

theorem spellsRow_join {α : Type} (spells : α → Text → Prop) (text : α → Text) (as : List α)
    (nonempty : as ≠ []) (each : ∀ a ∈ as, spells a (text a)) :
    SpellsRow spells as (Text.join [' '] (as.map text)) := by
  induction as with
  | nil => exact absurd rfl nonempty
  | cons a as ih =>
    obtain ⟨first, rest⟩ := List.forall_mem_cons.mp each
    cases as with
    | nil => exact .last a _ first
    | cons a' as =>
      have space : IsBlanks [' '] := List.forall_mem_singleton.mpr rfl
      exact .next a _ _ [' '] _ first (List.cons_ne_nil _ _) space (ih (List.cons_ne_nil _ _) rest)

theorem spellsElement_text (e : Element) (proper : e.IsWellFormed) : SpellsElement e e.text := by
  cases e with
  | choice c => exact .choice c _ (spellsChoice_text c proper.words)
  | optional c cs =>
    have items := spellsRow_join SpellsChoice Choice.text (c :: cs) (List.cons_ne_nil _ _)
      fun d member => spellsChoice_text d fun w inside =>
        proper.words w (List.mem_flatMap.mpr ⟨d, member, inside⟩)
    have spelled := SpellsElement.optional c cs [] _ [] isBlanks_nil items isBlanks_nil
    rwa [List.append_nil, List.nil_append] at spelled
  | capture n =>
    have spelled := SpellsElement.capture n [] [] isBlanks_nil (proper.name n rfl) isBlanks_nil
    rwa [List.append_nil, List.nil_append] at spelled
  | wildcard => exact .wildcard

theorem spells_text (p : Pattern) (proper : p.IsWellFormed) : Spells p.text p.elements := by
  have row := spellsRow_join SpellsElement Element.text p.elements p.elements_ne_nil
    fun e member => spellsElement_text e (proper e member)
  exact ⟨[], p.text, [], isBlanks_nil, row, isBlanks_nil, (List.append_nil _).symm⟩

/-! ### What is read -/

theorem isFoldedWord_of_spellsChoice (c : Choice) (t : Text) (spells : SpellsChoice c t) :
    ∀ w ∈ c.words, IsFoldedWord w := by
  cases spells with
  | words w ws proper =>
    intro v member
    obtain ⟨u, source, rfl⟩ : ∃ u ∈ w :: ws, Text.casefold u = v := List.mem_map.mp member
    exact isFoldedWord_casefold u (proper u source)

theorem isWellFormed_of_spellsElement (e : Element) (t : Text) (spells : SpellsElement e t) :
    e.IsWellFormed := by
  cases spells with
  | choice c _ spelled =>
    exact ⟨isFoldedWord_of_spellsChoice c t spelled, fun n none => by cases none⟩
  | optional c cs _ v _ _ items _ =>
    refine ⟨fun w member => ?_, fun n none => by cases none⟩
    obtain ⟨d, among, inside⟩ := List.mem_flatMap.mp member
    obtain ⟨v', spelled⟩ := items.exists_of_mem _ _ v d among
    exact isFoldedWord_of_spellsChoice d v' spelled w inside
  | capture n _ _ _ named _ =>
    refine ⟨List.forall_mem_nil _, fun m same => ?_⟩
    cases same
    exact named
  | wildcard => exact ⟨List.forall_mem_nil _, fun n none => by cases none⟩

theorem isWellFormed_of_parse (source : Text) (p : Pattern) (parsed : parse source = .ok p) :
    p.IsWellFormed := by
  obtain ⟨_, t, _, _, row, -, -⟩ := (parse_eq_ok_iff source p).mp parsed
  intro e member
  obtain ⟨u, spells⟩ := row.exists_of_mem _ _ t e member
  exact isWellFormed_of_spellsElement e u spells

theorem parse_text_of_isWellFormed (p : Pattern) (proper : p.IsWellFormed) : parse p.text = .ok p :=
  (parse_eq_ok_iff p.text p).mpr (spells_text p proper)

/-- Patterns and their canonical spellings correspond: a well-formed pattern is read back from its
spelling, and whatever is read is well-formed. So the canonical spelling of a source compiles to
the expression that the source compiles to, and patterns that are spelled alike are the same. -/
theorem parse_canonical :
    (∀ p : Pattern, p.IsWellFormed → parse p.text = .ok p) ∧
      (∀ source p, parse source = .ok p → p.IsWellFormed ∧
        ∀ spell action, ∃ r r', Rule.compile spell ⟨source, action⟩ = .ok r ∧
          Rule.compile spell ⟨p.text, action⟩ = .ok r' ∧ r.regex = r'.regex) ∧
      ∀ p p' : Pattern, p.IsWellFormed → p'.IsWellFormed → p.text = p'.text → p = p' := by
  refine ⟨parse_text_of_isWellFormed, fun source p parsed => ?_, fun p p' proper proper' same => ?_⟩
  · have proper := isWellFormed_of_parse source p parsed
    have back := parse_text_of_isWellFormed p proper
    refine ⟨proper, fun spell action => ?_⟩
    refine ⟨⟨⟨source, action⟩, p, p.regex spell⟩, ⟨⟨p.text, action⟩, p, p.regex spell⟩, ?_, ?_, rfl⟩
    · exact (Rule.compile_eq_ok spell _ _).mpr ⟨parsed, rfl, rfl⟩
    · exact (Rule.compile_eq_ok spell _ _).mpr ⟨back, rfl, rfl⟩
  · have first := parse_text_of_isWellFormed p proper
    rw [same, parse_text_of_isWellFormed p' proper'] at first
    exact (Except.ok.inj first).symm

/-- Two sources of one pattern, in capitals and with blanks to spare. -/
def giveSource : Text := "  Give [ THE/a\tBig ] < item >  to/TOWARD <character> *".toList

def giveSource' : Text := "GIVE [the/A big] <item> to/toward <character>   * ".toList

theorem giveSource_canonical :
    ∃ p p', parse giveSource = .ok p ∧ parse giveSource' = .ok p' ∧
      p.text = "give [the/a big] <item> to/toward <character> *".toList ∧
      p.IsWellFormed ∧ parse p.text = .ok p ∧ p = p' ∧
      ∃ r r', Rule.compile Text.casefold ⟨giveSource, "GIVE".toList⟩ = .ok r ∧
        Rule.compile Text.casefold ⟨p.text, "GIVE".toList⟩ = .ok r' ∧ r.regex = r'.regex := by
  have text : (parse giveSource).map Pattern.text =
      .ok "give [the/a big] <item> to/toward <character> *".toList := by decide +kernel
  have text' : (parse giveSource').map Pattern.text =
      .ok "give [the/a big] <item> to/toward <character> *".toList := by decide +kernel
  obtain ⟨p, parsed, spelled⟩ := (map_eq_ok _ _ _).mp text
  obtain ⟨p', parsed', spelled'⟩ := (map_eq_ok _ _ _).mp text'
  obtain ⟨back, read, unique⟩ := parse_canonical
  obtain ⟨proper, compiles⟩ := read giveSource p parsed
  obtain ⟨proper', -⟩ := read giveSource' p' parsed'
  exact ⟨p, p', parsed, parsed', spelled, proper, back p proper,
    unique p p' proper proper' (spelled.trans spelled'.symm), compiles Text.casefold _⟩

end Pattern

end TextAdventure
