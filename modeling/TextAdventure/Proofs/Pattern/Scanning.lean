import TextAdventure.Pattern.Token
import TextAdventure.Proofs.Except

/-!
What scanning a pattern gives. `Scans` relates tokens to the text that they tile: each token is
well formed, and no longer token of its kind begins at the same place. Scanning finds exactly
the tokens in this relation and fails if there are none (`scanFrom_iff`).
-/
namespace TextAdventure

/-- Whether the text does not begin with a character of the class. -/
def StartsOutside (q : Char → Bool) (s : Text) : Prop := ∀ c ∈ s.head?, q c = false

namespace Token

/-- Whether the token can be read from its own lexeme. -/
def IsProper : Token → Prop
  | space b => b ≠ [] ∧ ∀ c ∈ b, Text.isBlank c = true
  | capture inner => ∀ c ∈ inner, c ≠ '<' ∧ c ≠ '>'
  | word w => w ≠ [] ∧ ∀ c ∈ w, isPatternWordChar c = true
  | _ => True

/-- Whether the token is not longer when the text `s` follows it. -/
def StopsAt : Token → Text → Prop
  | space _, s => StartsOutside Text.isBlank s
  | word _, s => StartsOutside isPatternWordChar s
  | _, _ => True

end Token

/-- Tokens one after another, each as long as it can be. -/
inductive Scans : List Token → Text → Prop
  | nil : Scans [] []
  | cons (token : Token) (ts : List Token) (s : Text) : token.IsProper → token.StopsAt s →
    Scans ts s → Scans (token :: ts) (token.lexeme ++ s)

/-! ### Classes of characters -/

theorem isBlank_of_isPatternWordChar (c : Char) (inWord : Token.isPatternWordChar c = true) :
    Text.isBlank c = false := by
  unfold Token.isPatternWordChar Char.isAlphanum Char.isAlpha Char.isUpper Char.isLower
    Char.isDigit at inWord
  simp only [Bool.or_eq_true, beq_iff_eq, Bool.and_eq_true, decide_eq_true_eq,
    UInt32.le_iff_toNat_le, ge_iff_le, Char.reduceVal, UInt32.reduceToNat] at inWord
  have code : c.val.toNat = c.toNat := rfl
  rw [code] at inWord
  rcases inWord with (range | rfl) | rfl
  · -- letters and digits are below 128, and no code below 128 but 9 to 13 and 28 to 32 is blank
    simp only [Text.isBlank, Bool.or_eq_false_iff, Bool.and_eq_false_iff, decide_eq_false_iff_not,
      beq_eq_false_iff_ne]
    omega
  · decide
  · decide

theorem isPatternWordChar_of_isBlank (c : Char) (blank : Text.isBlank c = true) :
    Token.isPatternWordChar c = false := by
  rw [← Bool.not_eq_true]
  intro inWord
  rw [isBlank_of_isPatternWordChar c inWord] at blank
  cases blank

theorem head?_dropWhile {α : Type} (q : α → Bool) (xs : List α) :
    ∀ x ∈ (xs.dropWhile q).head?, q x = false := by
  intro x member
  have boundary := List.head?_dropWhile_not q xs
  rw [Option.mem_def.1 member] at boundary
  exact boundary

theorem cons_takeWhile {α : Type} (q : α → Bool) (x : α) (xs : List α) (inside : q x = true) :
    (∀ y ∈ x :: xs.takeWhile q, q y = true) ∧ x :: xs = x :: xs.takeWhile q ++ xs.dropWhile q := by
  constructor
  · rw [← List.takeWhile_cons_of_pos inside]
    exact List.all_eq_true.1 List.all_takeWhile
  · rw [List.cons_append, List.takeWhile_append_dropWhile]

theorem getElem?_length_takeWhile {α : Type} (q : α → Bool) (xs : List α) :
    xs[(xs.takeWhile q).length]? = (xs.dropWhile q).head? := by
  have split : xs = xs.takeWhile q ++ xs.dropWhile q := List.takeWhile_append_dropWhile.symm
  have entry : (xs.takeWhile q ++ xs.dropWhile q)[(xs.takeWhile q).length]?
      = (xs.dropWhile q).head? := by
    rw [List.getElem?_append_right (Nat.le_refl _), Nat.sub_self, List.head?_eq_getElem?]
  rwa [← split] at entry

theorem takeWhile_of_stop {α : Type} (q : α → Bool) (xs ys : List α) (inside : ∀ x ∈ xs, q x = true)
    (stop : ∀ y ∈ ys.head?, q y = false) : (xs ++ ys).takeWhile q = xs := by
  rw [List.takeWhile_append_of_pos inside]
  cases ys with
  | nil => exact List.append_nil xs
  | cons y ys =>
    have out : q y = false := stop y rfl
    rw [List.takeWhile_cons_of_neg (by simp [out]), List.append_nil]

/-! ### One token -/

theorem Token.lexeme_ne_nil (token : Token) (proper : token.IsProper) : token.lexeme ≠ [] := by
  cases token with
  | space b => exact proper.1
  | word w => exact proper.1
  | _ => exact List.cons_ne_nil _ _

/-- What is left of a text when as many characters are dropped as the token has, the first one
apart. -/
theorem Token.drop_lexeme (token : Token) (c : Char) (t s : Text) (proper : token.IsProper)
    (split : c :: t = token.lexeme ++ s) : t.drop (token.lexeme.length - 1) = s := by
  have positive : 0 < token.lexeme.length := List.length_pos_iff.2 (token.lexeme_ne_nil proper)
  have dropped : (c :: t).drop token.lexeme.length = s := by rw [split, List.drop_left]
  rwa [← Nat.sub_add_cancel positive, List.drop_succ_cons] at dropped

theorem Token.leading_sound (c : Char) (t : Text) (token : Token)
    (leads : Token.leading c t = .ok token) :
    token.IsProper ∧ ∃ s, c :: t = token.lexeme ++ s ∧ token.StopsAt s := by
  unfold Token.leading at leads
  split at leads
  next blank =>
    cases leads
    obtain ⟨inside, split⟩ := cons_takeWhile Text.isBlank c t blank
    exact ⟨⟨List.cons_ne_nil _ _, inside⟩, _, split, head?_dropWhile _ _⟩
  split at leads
  next inWord =>
    cases leads
    obtain ⟨inside, split⟩ := cons_takeWhile Token.isPatternWordChar c t inWord
    exact ⟨⟨List.cons_ne_nil _ _, inside⟩, _, split, head?_dropWhile _ _⟩
  -- the tokens of one character
  iterate 4
    split at leads
    next same =>
      cases leads
      exact ⟨trivial, t, by rw [same]; rfl, trivial⟩
  split at leads
  next same =>
    simp only at leads
    split at leads
    next closed =>
      cases leads
      -- what stops the reader inside the brackets is the closing one
      rw [getElem?_length_takeWhile] at closed
      obtain ⟨s, rest⟩ := List.head?_eq_some_iff.1 closed
      refine ⟨fun d member => ?_, s, ?_, trivial⟩
      · have inside := List.all_eq_true.1 List.all_takeWhile d member
        simpa using inside
      · have split : t.takeWhile (fun d => d != '<' && d != '>') ++ '>' :: s = t := by
          rw [← rest, List.takeWhile_append_dropWhile]
        simp only [Token.lexeme, List.append_assoc, List.cons_append, List.nil_append, same, split]
    · cases leads
  split at leads
  · cases leads
  · cases leads

theorem Token.leading_complete (c : Char) (t s : Text) (token : Token) (proper : token.IsProper)
    (split : c :: t = token.lexeme ++ s) (stops : token.StopsAt s) :
    Token.leading c t = .ok token := by
  unfold Token.leading
  cases token with
  | space b =>
    obtain ⟨nonempty, inside⟩ := proper
    obtain ⟨d, b, rfl⟩ := List.exists_cons_of_ne_nil nonempty
    obtain ⟨rfl, rfl⟩ : c = d ∧ t = b ++ s := List.cons.inj split
    have blank : Text.isBlank c = true := inside c List.mem_cons_self
    have run := takeWhile_of_stop _ b s
      (fun e later => inside e (List.mem_cons_of_mem c later)) stops
    rw [if_pos blank, run]
  | word w =>
    obtain ⟨nonempty, inside⟩ := proper
    obtain ⟨d, w, rfl⟩ := List.exists_cons_of_ne_nil nonempty
    obtain ⟨rfl, rfl⟩ : c = d ∧ t = w ++ s := List.cons.inj split
    have inWord : Token.isPatternWordChar c = true := inside c List.mem_cons_self
    -- a word is tried after blanks, so it matters that the classes are disjoint
    have solid := isBlank_of_isPatternWordChar c inWord
    have run := takeWhile_of_stop _ w s
      (fun e later => inside e (List.mem_cons_of_mem c later)) stops
    rw [if_neg (by simp [solid]), if_pos inWord, run]
  | capture inner =>
    simp only [Token.lexeme, List.cons_append, List.append_assoc, List.nil_append] at split
    obtain ⟨rfl, rfl⟩ := List.cons.inj split
    have run := takeWhile_of_stop (fun d => d != '<' && d != '>') inner ('>' :: s)
      (fun d member => by simp [proper d member]) (by simp)
    have closed : (inner ++ '>' :: s)[inner.length]? = some '>' := by simp
    simp only [run, closed]
    rfl
  | slash =>
    obtain ⟨rfl, rfl⟩ := List.cons.inj split
    rfl
  | openBracket =>
    obtain ⟨rfl, rfl⟩ := List.cons.inj split
    rfl
  | closeBracket =>
    obtain ⟨rfl, rfl⟩ := List.cons.inj split
    rfl
  | star =>
    obtain ⟨rfl, rfl⟩ := List.cons.inj split
    rfl

/-! ### All tokens -/

theorem scans_of_scanFrom (position : Nat) (s : Text) (ls : List Lexeme)
    (scanned : Lexeme.scanFrom position s = .ok ls) : Scans (ls.map Lexeme.token) s := by
  fun_induction Lexeme.scanFrom position s generalizing ls with
  | case1 =>
    cases scanned
    exact .nil
  | case2 => cases scanned
  | case3 position c t token leads n ih =>
    obtain ⟨rest, scannedRest, last⟩ := (bind_eq_ok _ _ _).1 scanned
    cases last
    obtain ⟨proper, s, split, stops⟩ := Token.leading_sound c t token leads
    have later : t.drop (n - 1) = s := token.drop_lexeme c t s proper split
    rw [split]
    exact .cons token _ s proper stops (later ▸ ih rest scannedRest)

theorem scanFrom_of_scans (ts : List Token) (s : Text) (scans : Scans ts s) (position : Nat) :
    ∃ ls, Lexeme.scanFrom position s = .ok ls ∧ ls.map Lexeme.token = ts := by
  induction scans generalizing position with
  | nil => exact ⟨[], by unfold Lexeme.scanFrom; rfl, rfl⟩
  | cons token ts s proper stops _ ih =>
    obtain ⟨c, t, split⟩ := List.exists_cons_of_ne_nil (token.lexeme_ne_nil proper)
    have leads : Token.leading c (t ++ s) = .ok token :=
      Token.leading_complete c (t ++ s) s token proper (by rw [split]; rfl) stops
    have later : (t ++ s).drop (token.lexeme.length - 1) = s := by
      rw [split, List.length_cons, Nat.add_sub_cancel, List.drop_left]
    obtain ⟨rest, scannedRest, tokens⟩ := ih (position + token.lexeme.length)
    refine ⟨⟨token, position⟩ :: rest, ?_, by rw [List.map_cons, tokens]⟩
    rw [split, List.cons_append]
    unfold Lexeme.scanFrom
    simp only [leads, later]
    exact (bind_eq_ok _ _ _).2 ⟨rest, scannedRest, rfl⟩

/-- Scanning gives the tokens that tile the text, each as long as it can be, and fails if the text
cannot be tiled. -/
theorem scan_iff (ts : List Token) (s : Text) :
    (∃ ls, Lexeme.scan s = .ok ls ∧ ls.map Lexeme.token = ts) ↔ Scans ts s := by
  constructor
  · rintro ⟨ls, scanned, rfl⟩
    exact scans_of_scanFrom 0 s ls scanned
  · exact fun scans => scanFrom_of_scans ts s scans 0

end TextAdventure
