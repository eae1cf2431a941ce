import Mathlib.Data.List.Chain
import TextAdventure.Proofs.Pattern.Parsing
import TextAdventure.Proofs.Text.Case
import TextAdventure.Proofs.Text.Trim

/-!
Reading a pattern is deciding its grammar. Tokens that stand in a text and that the reader takes
spell what it makes of them, because two words in a row never touch (`spells_of_rowTokens`); and
every spelling is tiled by tokens that the reader takes (`rowTokens_of_spells`). Hence `parse` gives
exactly the rows of elements that its text spells, and no text spells two of them.
-/
namespace TextAdventure

namespace Pattern

/-! ### From tokens to text -/

/-- The text that tokens are read from. -/
def lexemes (us : List Token) : Text := us.flatMap Token.lexeme

/-- Words that follow each other would be one word, and blanks one stretch of blanks. -/
def Apart : Token → Token → Prop
  | .word _, .word _ => False
  | .space _, .space _ => False
  | _, _ => True

/-- Tokens as they stand in a text. -/
structure IsTiling (us : List Token) : Prop where
  proper : ∀ u ∈ us, u.IsProper
  apart : us.IsChain Apart

theorem isTiling_append (us us' : List Token) (tiling : IsTiling (us ++ us')) :
    IsTiling us ∧ IsTiling us' ∧ ∀ u ∈ us.getLast?, ∀ u' ∈ us'.head?, Apart u u' := by
  obtain ⟨proper, proper'⟩ := List.forall_mem_append.1 tiling.proper
  obtain ⟨apart, apart', between⟩ := List.isChain_append.1 tiling.apart
  exact ⟨⟨proper, apart⟩, ⟨proper', apart'⟩, between⟩

theorem lexemes_append (us us' : List Token) : lexemes (us ++ us') = lexemes us ++ lexemes us' :=
  List.flatMap_append

theorem not_startsOutside (q : Char → Bool) (w s : Text) (nonempty : w ≠ [])
    (inside : ∀ c ∈ w, q c = true) : ¬ StartsOutside q (w ++ s) := by
  obtain ⟨c, w, rfl⟩ := List.exists_cons_of_ne_nil nonempty
  intro outside
  have first : q c = false := outside c rfl
  rw [inside c List.mem_cons_self] at first
  cases first

/-- A token that stops where the next one begins is apart from it. -/
theorem apart_of_stopsAt (token next : Token) (s : Text) (proper : next.IsProper)
    (stops : token.StopsAt (next.lexeme ++ s)) : Apart token next := by
  cases token with
  | word w =>
    cases next with
    | word v => exact not_startsOutside _ v s proper.1 proper.2 stops
    | _ => trivial
  | space b =>
    cases next with
    | space b' => exact not_startsOutside _ b' s proper.1 proper.2 stops
    | _ => trivial
  | _ => trivial

theorem isTiling_of_scans (us : List Token) (s : Text) (scans : Scans us s) :
    IsTiling us ∧ s = lexemes us := by
  induction scans with
  | nil => exact ⟨⟨List.forall_mem_nil _, .nil⟩, rfl⟩
  | cons token us s proper stops scans ih =>
    obtain ⟨⟨properRest, apart⟩, rfl⟩ := ih
    refine ⟨⟨List.forall_mem_cons.2 ⟨proper, properRest⟩, List.isChain_cons.2 ⟨?_, apart⟩⟩, rfl⟩
    -- a word in front of a word would have been read as one with it, and likewise blanks
    intro next member
    cases us with
    | nil => cases member
    | cons u us =>
      obtain rfl : u = next := Option.some.inj member
      exact apart_of_stopsAt token u (lexemes us) (properRest u List.mem_cons_self) stops

theorem isSpelledWord_iff (w : Text) : IsSpelledWord w ↔ (Token.word w).IsProper := by
  unfold IsSpelledWord Token.IsProper Token.isPatternWordChar
  simp only [Bool.or_eq_true, beq_iff_eq, or_assoc]

theorem join_cons_cons (b t u : Text) (us : List Text) :
    Text.join b (t :: u :: us) = t ++ b ++ Text.join b (u :: us) := rfl

theorem lexemes_slashed (w : Text) (ws : List Text) :
    lexemes (.word w :: slashed ws) = Text.join ['/'] (w :: ws) := by
  induction ws generalizing w with
  | nil => exact List.append_nil w
  | cons v ws ih =>
    rw [join_cons_cons, ← ih v, List.append_assoc]
    rfl

theorem getLast?_slashed (w : Text) (ws : List Text) :
    ∃ v, (Token.word w :: slashed ws).getLast? = some (.word v) := by
  induction ws generalizing w with
  | nil => exact ⟨w, rfl⟩
  | cons v ws ih =>
    have step : Token.word w :: slashed (v :: ws) =
        .word w :: .slash :: .word v :: slashed ws := rfl
    rw [step, List.getLast?_cons_cons, List.getLast?_cons_cons]
    exact ih v

theorem mem_slashed (w : Text) (ws : List Text) : .word w ∈ slashed ws ↔ w ∈ ws := by
  simp [slashed]

theorem spellsChoice_of_tokens (c : Choice) (us : List Token) (choice : ChoiceTokens c us)
    (tiling : IsTiling us) : SpellsChoice c (lexemes us) := by
  cases choice with
  | words w ws =>
    rw [lexemes_slashed]
    refine .words w ws fun v member => (isSpelledWord_iff v).2 (tiling.proper _ ?_)
    rcases List.mem_cons.1 member with rfl | later
    · exact List.mem_cons_self
    · exact List.mem_cons_of_mem _ ((mem_slashed v ws).2 later)

theorem spellsRow_of_items (cs : List Choice) (us : List Token) (items : ItemTokens cs us)
    (tiling : IsTiling us) : (cs = [] ∧ IsBlanks (lexemes us)) ∨
      ∃ b t b', IsBlanks b ∧ SpellsRow SpellsChoice cs t ∧ IsBlanks b' ∧
        lexemes us = b ++ t ++ b' ∧ (b = [] → ∃ w, us.head? = some (.word w)) := by
  -- the blanks in front are empty only where a word comes first
  induction items with
  | nil => exact .inl ⟨rfl, isBlanks_nil⟩
  | space b₀ cs us _ ih =>
    obtain ⟨nonempty, blanks⟩ := tiling.proper _ List.mem_cons_self
    obtain ⟨-, rest, -⟩ := isTiling_append [.space b₀] us tiling
    rcases ih rest with ⟨rfl, blanks'⟩ | ⟨b, t, b', front, row, back, split, -⟩
    · exact .inl ⟨rfl, (isBlanks_append _ _).2 ⟨blanks, blanks'⟩⟩
    · refine .inr ⟨b₀ ++ b, t, b', (isBlanks_append _ _).2 ⟨blanks, front⟩, row, back, ?_, ?_⟩
      · change b₀ ++ lexemes us = _
        rw [split, List.append_assoc, List.append_assoc, List.append_assoc]
      · exact fun empty => absurd (List.append_eq_nil_iff.1 empty).1 nonempty
  | choice c cs us us' choice _ ih =>
    obtain ⟨tilingChoice, rest, between⟩ := isTiling_append us us' tiling
    have spells := spellsChoice_of_tokens c us choice tilingChoice
    obtain ⟨⟨w, begins⟩, v, ends⟩ :
        (∃ w, (us ++ us').head? = some (.word w)) ∧ ∃ v, us.getLast? = some (.word v) := by
      cases choice with
      | words w ws => exact ⟨⟨w, rfl⟩, getLast?_slashed w ws⟩
    refine .inr ⟨[], ?_⟩
    rcases ih rest with ⟨rfl, blanks⟩ | ⟨b, t, b', front, row, back, split, adjacent⟩
    · exact ⟨lexemes us, lexemes us', isBlanks_nil, .last c _ spells, blanks, lexemes_append us us',
        fun _ => ⟨w, begins⟩⟩
    · -- without blanks here, the last word of this choice would touch the first of the next one
      have separated : b ≠ [] := by
        intro empty
        obtain ⟨v', begins'⟩ := adjacent empty
        exact between _ ends _ begins'
      refine ⟨lexemes us ++ b ++ t, b', isBlanks_nil, .next c cs _ b t spells separated front row,
        back, ?_, fun _ => ⟨w, begins⟩⟩
      rw [lexemes_append, split, List.nil_append]
      simp only [List.append_assoc]

theorem spellsElement_of_tokens (e : Element) (us : List Token) (inside : ElementTokens e us)
    (tiling : IsTiling us) : SpellsElement e (lexemes us) := by
  cases inside with
  | choice c us choice => exact .choice c _ (spellsChoice_of_tokens c us choice tiling)
  | optional c cs us items =>
    obtain ⟨-, tail, -⟩ := isTiling_append [.openBracket] _ tiling
    obtain ⟨tilingItems, -, -⟩ := isTiling_append us [.closeBracket] tail
    rcases spellsRow_of_items (c :: cs) us items tilingItems with
      ⟨empty, -⟩ | ⟨b, t, b', front, row, back, split, -⟩
    · cases empty
    · have whole : lexemes (.openBracket :: (us ++ [.closeBracket]))
          = '[' :: (b ++ t ++ b' ++ [']']) := by
        rw [← split, ← List.singleton_append, lexemes_append, lexemes_append]
        rfl
      rw [whole]
      exact .optional c cs b t b' front row back
  | capture inner named =>
    obtain ⟨b, b', front, back, split⟩ := Text.trim_split inner
    have whole : lexemes [.capture inner] = '<' :: (b ++ Text.trim inner ++ b' ++ ['>']) := by
      rw [← split]
      exact List.append_nil _
    rw [whole]
    exact .capture _ b b' front named back
  | wildcard => exact .wildcard

theorem spells_of_rowTokens (es : List Element) (us : List Token)
    (row : RowTokens ElementTokens es us) (tiling : IsTiling us) :
    ∃ t b, lexemes us = t ++ b ∧ IsBlanks b ∧
      (es = [] ∧ t = [] ∨ SpellsRow SpellsElement es t) := by
  induction row with
  | nil => exact ⟨[], [], rfl, isBlanks_nil, .inl ⟨rfl, rfl⟩⟩
  | last e us inside =>
    have spells := spellsElement_of_tokens e us inside tiling
    exact ⟨lexemes us, [], (List.append_nil _).symm, isBlanks_nil, .inr (.last e _ spells)⟩
  | next e es us us' b inside _ ih =>
    obtain ⟨tilingElement, tail, -⟩ := isTiling_append us _ tiling
    obtain ⟨-, rest, -⟩ := isTiling_append [.space b] us' tail
    obtain ⟨nonempty, blanks⟩ := tail.proper _ List.mem_cons_self
    have spells := spellsElement_of_tokens e us inside tilingElement
    have whole : lexemes (us ++ .space b :: us') = lexemes us ++ (b ++ lexemes us') := by
      rw [lexemes_append]
      rfl
    obtain ⟨t, b', split, blanks', ⟨rfl, rfl⟩ | row⟩ := ih rest
    · -- the blank behind the last element belongs to no row
      refine ⟨lexemes us, b ++ b', ?_, (isBlanks_append _ _).2 ⟨blanks, blanks'⟩,
        .inr (.last e _ spells)⟩
      rw [whole, split, List.nil_append]
    · refine ⟨lexemes us ++ b ++ t, b', ?_, blanks',
        .inr (.next e es _ b t spells nonempty blanks row)⟩
      rw [whole, split]
      simp only [List.append_assoc]

/-! ### From text to tokens -/

/-- The token of blanks that need not be there. -/
def blankTokens (b : Text) : List Token := if b = [] then [] else [.space b]

/-- Whether the tokens are read from the text wherever no word goes on behind it. -/
def Tiles (us : List Token) (t : Text) : Prop :=
  ∀ ts s, Scans ts s → StartsOutside Token.isPatternWordChar s → Scans (us ++ ts) (t ++ s)

def StartsSolid (t : Text) : Prop := ∃ c u, t = c :: u ∧ Text.isBlank c = false

theorem StartsSolid.startsOutside (t s : Text) (solid : StartsSolid t) :
    StartsOutside Text.isBlank (t ++ s) := by
  obtain ⟨c, u, rfl, solid⟩ := solid
  intro d member
  obtain rfl : c = d := Option.some.inj member
  exact solid

theorem startsOutside_nil (q : Char → Bool) : StartsOutside q [] := by
  intro c member
  cases member

theorem startsOutside_cons (q : Char → Bool) (c : Char) (t : Text) :
    StartsOutside q (c :: t) ↔ q c = false := by
  simp [StartsOutside]

theorem startsOutside_blanks_append (b s : Text) (blanks : IsBlanks b)
    (outside : StartsOutside Token.isPatternWordChar s) :
    StartsOutside Token.isPatternWordChar (b ++ s) := by
  cases b with
  | nil => exact outside
  | cons c b =>
    rw [List.cons_append, startsOutside_cons]
    exact isPatternWordChar_of_isBlank c (blanks c List.mem_cons_self)

theorem scans_blankTokens (b s : Text) (ts : List Token) (blanks : IsBlanks b) (scans : Scans ts s)
    (outside : StartsOutside Text.isBlank s) : Scans (blankTokens b ++ ts) (b ++ s) := by
  unfold blankTokens
  split
  next empty =>
    rw [empty]
    exact scans
  next nonempty => exact .cons (.space b) ts s ⟨nonempty, blanks⟩ outside scans

theorem choiceTokens_of_spells (c : Choice) (t : Text) (spells : SpellsChoice c t) :
    StartsSolid t ∧ ∃ us, ChoiceTokens c us ∧ Tiles us t := by
  cases spells with
  | words w ws proper =>
    constructor
    · obtain ⟨nonempty, inside⟩ := (isSpelledWord_iff w).1 (proper w List.mem_cons_self)
      obtain ⟨d, w, rfl⟩ := List.exists_cons_of_ne_nil nonempty
      refine ⟨d, ?_, ?_, isBlank_of_isPatternWordChar d (inside d List.mem_cons_self)⟩
      · exact (Text.join ['/'] ((d :: w) :: ws)).tail
      · cases ws <;> rfl
    · refine ⟨_, .words w ws, fun ts s scans outside => ?_⟩
      -- each slash ends the word in front of it
      induction ws generalizing w with
      | nil =>
        exact .cons (.word w) ts s ((isSpelledWord_iff w).1 (proper w List.mem_cons_self)) outside
          scans
      | cons v ws ih =>
        obtain ⟨properFirst, properRest⟩ := List.forall_mem_cons.1 proper
        rw [join_cons_cons, List.append_assoc, List.append_assoc]
        exact .cons (.word w) _ _ ((isSpelledWord_iff w).1 properFirst)
          ((startsOutside_cons _ _ _).2 (by decide))
          (.cons .slash _ _ trivial trivial (ih v properRest))

/-- Rows are tiled if their members are, with or without blanks behind the last one. -/
theorem rowTokens_of_spellsRow {α : Type} (spells : α → Text → Prop)
    (tokens : α → List Token → Prop) (as : List α) (t : Text) (row : SpellsRow spells as t)
    (member : ∀ a u, spells a u → StartsSolid u ∧ ∃ us, tokens a us ∧ Tiles us u) :
    StartsSolid t ∧ ∃ us, (∀ b, RowTokens tokens as (us ++ blankTokens b)) ∧ Tiles us t := by
  induction row with
  | last a t spelled =>
    obtain ⟨solid, us, inside, tiles⟩ := member a t spelled
    refine ⟨solid, us, fun b => ?_, tiles⟩
    unfold blankTokens
    split
    · rw [List.append_nil]
      exact .last a us inside
    · exact .next a [] us [] b inside .nil
  | next a as t b u spelled nonempty blanks _ ih =>
    obtain ⟨solid, us, inside, tiles⟩ := member a t spelled
    obtain ⟨solid', us', row, tiles'⟩ := ih
    constructor
    · obtain ⟨c, v, rfl, solid⟩ := solid
      exact ⟨c, v ++ b ++ u, by simp, solid⟩
    · refine ⟨us ++ .space b :: us', fun b' => ?_, fun ts s scans outside => ?_⟩
      · rw [List.append_assoc]
        exact .next a as us _ b inside (row b')
      · rw [List.append_assoc, List.append_assoc, List.append_assoc]
        have later := tiles' ts s scans outside
        have spaced : Scans (.space b :: (us' ++ ts)) (b ++ (u ++ s)) :=
          .cons (.space b) _ _ ⟨nonempty, blanks⟩ (solid'.startsOutside u s) later
        refine tiles _ _ spaced ?_
        cases b with
        | nil => exact absurd rfl nonempty
        | cons d b =>
          rw [List.cons_append, startsOutside_cons]
          exact isPatternWordChar_of_isBlank d (blanks d List.mem_cons_self)

theorem itemTokens_of_rowTokens (cs : List Choice) (us : List Token)
    (row : RowTokens ChoiceTokens cs us) : ItemTokens cs us := by
  induction row with
  | nil => exact .nil
  | last c us choice => exact List.append_nil us ▸ .choice c [] us [] choice .nil
  | next c cs us us' b choice _ ih => exact .choice c cs us _ choice (.space b cs us' ih)

theorem itemTokens_blankTokens (b : Text) (cs : List Choice) (us : List Token)
    (items : ItemTokens cs us) : ItemTokens cs (blankTokens b ++ us) := by
  unfold blankTokens
  split
  · exact items
  · exact .space b cs us items

theorem isBlank_of_isSlotName (n : Text) (named : IsSlotName n) :
    n ≠ [] ∧ ∀ c ∈ n, Text.isBlank c = false ∧ c ≠ '<' ∧ c ≠ '>' := by
  obtain ⟨c, t, rfl, first, later⟩ := named
  refine ⟨List.cons_ne_nil c t, fun d member => ?_⟩
  have inName : d.isAlphanum = true ∨ d = '_' := by
    rcases List.mem_cons.1 member with rfl | member
    · exact first.imp_left fun alpha => by simp [Char.isAlphanum, alpha]
    · exact later d member
  rcases inName with alphanum | rfl
  · have inWord : Token.isPatternWordChar d = true := by simp [Token.isPatternWordChar, alphanum]
    refine ⟨isBlank_of_isPatternWordChar d inWord, ?_, ?_⟩ <;> rintro rfl <;> cases inWord
  · decide

theorem elementTokens_of_spells (e : Element) (t : Text) (spells : SpellsElement e t) :
    StartsSolid t ∧ ∃ us, ElementTokens e us ∧ Tiles us t := by
  cases spells with
  | choice c t spelled =>
    obtain ⟨solid, us, choice, tiles⟩ := choiceTokens_of_spells c t spelled
    exact ⟨solid, us, .choice c us choice, tiles⟩
  | optional c cs b t b' front row back =>
    obtain ⟨solid, us, items, tiles⟩ := rowTokens_of_spellsRow _ _ _ t row choiceTokens_of_spells
    have inside := itemTokens_blankTokens b _ _ (itemTokens_of_rowTokens _ _ (items b'))
    refine ⟨⟨_, _, rfl, by decide⟩, _, .optional c cs _ inside, fun ts s scans _ => ?_⟩
    -- the text is scanned from its end, each piece in front of what was scanned so far
    have closed : Scans (.closeBracket :: ts) (']' :: s) :=
      .cons .closeBracket ts s trivial trivial scans
    have outside (q : Char → Bool) (bracket : q ']' = false) : StartsOutside q (']' :: s) :=
      (startsOutside_cons q _ s).2 bracket
    have behind := scans_blankTokens b' _ _ back closed (outside _ (by decide))
    have middle := tiles _ _ behind (startsOutside_blanks_append b' _ back (outside _ (by decide)))
    have whole := scans_blankTokens b _ _ front middle (solid.startsOutside t _)
    have opened := Scans.cons .openBracket _ _ trivial trivial whole
    simpa [Token.lexeme] using opened
  | capture n b b' front named back =>
    obtain ⟨nonempty, inside⟩ := isBlank_of_isSlotName n named
    have trimmed : Text.trim (b ++ n ++ b') = n :=
      Text.trim_blanks_append b n b' front (fun c member => (inside c member).1) back nonempty
    have tokens : ElementTokens (.capture n) [.capture (b ++ n ++ b')] := by
      have captured := ElementTokens.capture (b ++ n ++ b')
      rw [trimmed] at captured
      exact captured named
    refine ⟨⟨_, _, rfl, by decide⟩, _, tokens, fun ts s scans _ => ?_⟩
    have proper : (Token.capture (b ++ n ++ b')).IsProper := by
      have ofBlank (c : Char) (blank : Text.isBlank c = true) : c ≠ '<' ∧ c ≠ '>' := by
        constructor <;> rintro rfl <;> cases blank
      intro c member
      rcases List.mem_append.1 member with member | member
      · rcases List.mem_append.1 member with member | member
        · exact ofBlank c (front c member)
        · exact (inside c member).2
      · exact ofBlank c (back c member)
    have captured := Scans.cons (.capture (b ++ n ++ b')) ts s proper trivial scans
    simpa [Token.lexeme] using captured
  | wildcard =>
    exact ⟨⟨_, _, rfl, by decide⟩, _, .wildcard, fun ts s scans _ =>
      .cons .star ts s trivial trivial scans⟩

/-! ### Spellings and tokens -/

theorem spells_iff_tokens (source : Text) (es : List Element) (nonempty : es ≠ []) :
    Spells source es ↔ ∃ ts, RowTokens ElementTokens es ts ∧
      (Scans ts source ∨ ∃ b, Scans (.space b :: ts) source) := by
  constructor
  · rintro ⟨b, t, b', front, row, back, rfl⟩
    obtain ⟨solid, us, row, tiles⟩ :=
      rowTokens_of_spellsRow _ _ _ t row elementTokens_of_spells
    have behind := scans_blankTokens b' [] [] back .nil (startsOutside_nil _)
    have outside := startsOutside_blanks_append b' [] back (startsOutside_nil _)
    have whole := scans_blankTokens b _ _ front (tiles _ _ behind outside) (solid.startsOutside t _)
    refine ⟨us ++ blankTokens b', row b', ?_⟩
    simp only [List.append_nil, ← List.append_assoc] at whole
    by_cases empty : b = []
    · have noToken : blankTokens b = [] := if_pos empty
      rw [noToken] at whole
      exact .inl whole
    · have oneToken : blankTokens b = [.space b] := if_neg empty
      rw [oneToken] at whole
      exact .inr ⟨b, whole⟩
  · -- the blanks in front are the text of a token or there are none
    have spelled (b : Text) (ts : List Token) (blanks : IsBlanks b) (tiling : IsTiling ts)
        (row : RowTokens ElementTokens es ts) : Spells (b ++ lexemes ts) es := by
      obtain ⟨t, b', split, back, ⟨empty, -⟩ | row⟩ := spells_of_rowTokens es ts row tiling
      · exact absurd empty nonempty
      · exact ⟨b, t, b', blanks, row, back, by rw [split, List.append_assoc]⟩
    rintro ⟨ts, row, scans | ⟨b, scans⟩⟩
    · obtain ⟨tiling, rfl⟩ := isTiling_of_scans ts source scans
      exact spelled [] ts isBlanks_nil tiling row
    · obtain ⟨tiling, rfl⟩ := isTiling_of_scans _ source scans
      obtain ⟨-, rest, -⟩ := isTiling_append [.space b] ts tiling
      exact spelled b ts (tiling.proper _ List.mem_cons_self).2 rest row

theorem parse_eq_ok_iff (source : Text) (p : Pattern) :
    parse source = .ok p ↔ Spells source p.elements := by
  rw [parse_eq_ok_iff_tokens, spells_iff_tokens source _ p.elements_ne_nil]

/-! ### The words of a pattern -/

theorem SpellsRow.exists_of_mem {α : Type} (spells : α → Text → Prop) (as : List α) (t : Text)
    (row : SpellsRow spells as t) : ∀ a ∈ as, ∃ u, spells a u := by
  induction row with
  | last a t spelled => exact fun _ member => List.mem_singleton.1 member ▸ ⟨t, spelled⟩
  | next a as t b u spelled _ _ _ ih => exact List.forall_mem_cons.2 ⟨⟨t, spelled⟩, ih⟩

theorem isWord_of_spellsChoice (c : Choice) (t : Text) (spells : SpellsChoice c t) :
    ∀ w ∈ c.words, Text.IsWord w := by
  cases spells with
  | words w ws proper =>
    intro v member
    obtain ⟨u, source, rfl⟩ : ∃ u ∈ w :: ws, Text.casefold u = v := List.mem_map.1 member
    obtain ⟨nonempty, inside⟩ := (isSpelledWord_iff u).1 (proper u source)
    exact Text.isWord_casefold u
      ⟨nonempty, fun c inWord => isBlank_of_isPatternWordChar c (inside c inWord)⟩

theorem isWord_of_parse (source : Text) (p : Pattern) (parsed : parse source = .ok p) :
    ∀ e ∈ p.elements, ∀ w ∈ e.words, Text.IsWord w := by
  obtain ⟨_, t, _, _, row, -, -⟩ := (parse_eq_ok_iff source p).1 parsed
  intro e member
  obtain ⟨u, spells⟩ := row.exists_of_mem _ _ t e member
  cases spells with
  | choice c _ spelled => exact isWord_of_spellsChoice c u spelled
  | optional c cs _ v _ _ items _ =>
    intro w inside
    obtain ⟨d, among, inside⟩ := List.mem_flatMap.1 inside
    obtain ⟨v', spelled⟩ := items.exists_of_mem _ _ v d among
    exact isWord_of_spellsChoice d v' spelled w inside
  | capture => exact List.forall_mem_nil _
  | wildcard => exact List.forall_mem_nil _

/-! ### What is parsed -/

theorem any_isRequired_iff (es : List Element) :
    es.any Element.isRequired = true ↔
      ∃ e ∈ es, (∃ c, e = .choice c) ∨ ∃ n, e = .capture n := by
  rw [List.any_eq_true]
  refine exists_congr fun e => and_congr_right fun _ => ?_
  cases e <;> simp [Element.isRequired]

/-- Parsing gives a row of elements exactly if the text spells it, no slot comes twice and something
must be said: a word, alternatives or a capture. -/
theorem parse_iff_spells (source : Text) (es : List Element) :
    (∃ p, parse source = .ok p ∧ p.elements = es) ↔
      Spells source es ∧ (slotNames es).Nodup ∧
        ∃ e ∈ es, (∃ c, e = .choice c) ∨ ∃ n, e = .capture n := by
  rw [← any_isRequired_iff]
  constructor
  · rintro ⟨p, parsed, rfl⟩
    exact ⟨(parse_eq_ok_iff source p).1 parsed, p.nodup_slots, p.has_required⟩
  · rintro ⟨spells, nodup, required⟩
    exact ⟨⟨es, required, nodup⟩, (parse_eq_ok_iff source _).2 spells, rfl⟩

end Pattern

end TextAdventure
