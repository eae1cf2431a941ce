import TextAdventure.Proofs.Pattern.Spelling

/-!
Where tokens stand in the source of a pattern. Scanning either tiles the source (`Lexeme.Tile`), or
it stops where no token begins, with all in front of that place tiled (`Lexeme.IsStuckAt`). Blanks in
a row are one token and every element ends with a token of its own, so the reader finds something
other than blanks wherever it looks for an element (`Pattern.LooksAt`), and what it would say of
blanks there is never said.
-/
namespace TextAdventure

open Pattern (IsTiling lexemes)

/-! ### One token -/

theorem Token.stopsAt_of_append (token : Token) (s u : Text) (stops : token.StopsAt (s ++ u)) :
    token.StopsAt s := by
  have front (q : Char → Bool) (outside : StartsOutside q (s ++ u)) : StartsOutside q s := by
    intro c first
    obtain ⟨t, rfl⟩ := List.head?_eq_some_iff.1 first
    exact outside c rfl
  cases token with
  | space b => exact front _ stops
  | word w => exact front _ stops
  | _ => trivial

/-- Where reading a token fails, none of any kind begins, be it as long as it can be or not. -/
theorem Token.not_isPrefix_of_leading (c : Char) (t : Text) (fault : Fault)
    (fails : Token.leading c t = .error fault) (token : Token) (proper : token.IsProper) :
    ¬token.lexeme <+: c :: t := by
  rintro ⟨s, split⟩
  -- blanks and words may go on behind the token, so it is their first character that decides
  have unread (found : Token) : Token.leading c t ≠ .ok found := by simp [fails]
  cases token with
  | space b =>
    obtain ⟨nonempty, inside⟩ := proper
    obtain ⟨d, b, rfl⟩ := List.exists_cons_of_ne_nil nonempty
    obtain ⟨rfl, -⟩ := List.cons.inj split
    exact unread _ (if_pos (inside d List.mem_cons_self))
  | word w =>
    obtain ⟨nonempty, inside⟩ := proper
    obtain ⟨d, w, rfl⟩ := List.exists_cons_of_ne_nil nonempty
    obtain ⟨rfl, -⟩ := List.cons.inj split
    have inWord := inside d List.mem_cons_self
    have solid := isBlank_of_isPatternWordChar d inWord
    exact unread _ ((if_neg (by simp [solid])).trans (if_pos inWord))
  | _ => exact unread _ (leading_complete c t s _ proper split.symm trivial)

/-- What reading a token can find wrong with a character. -/
theorem Token.fault_of_leading (c : Char) (t : Text) (fault : Fault)
    (fails : Token.leading c t = .error fault) :
    fault = .unterminatedCapture ∨ fault = .unbalancedAngle ∨ fault = .unexpectedCharacter c := by
  unfold Token.leading at fails
  -- blanks, words and the tokens of one character do not fail
  iterate 6
    split at fails
    · cases fails
  split at fails
  · simp only at fails
    split at fails
    · cases fails
    · cases fails
      exact .inl rfl
  split at fails
  · cases fails
    exact .inr (.inl rfl)
  · cases fails
    exact .inr (.inr rfl)

namespace Lexeme

/-- Whether the second lexeme begins where the first one ends. -/
def Adjoins (l l' : Lexeme) : Prop := l'.position = l.position + l.token.lexeme.length

/-- Whether the lexemes tile the text, which begins at `start`: they are read from it one behind the
other, and no two neighbours are both words or both blanks. -/
structure Tile (start : Nat) (ls : List Lexeme) (s : Text) : Prop where
  first : ∀ l ∈ ls.head?, l.position = start
  adjoin : ls.IsChain Adjoins
  tokens : IsTiling (ls.map token)
  whole : lexemes (ls.map token) = s

/-- Whether the text is tiled up to the place `p` in it and no token begins there. -/
structure IsStuckAt (s : Text) (p : Nat) : Prop where
  inside : p < s.length
  front : ∃ ls, scan (s.take p) = .ok ls
  stuck : ∀ token : Token, token.IsProper → ¬token.lexeme <+: s.drop p

/-! ### Where scanning gets through -/

theorem positions_of_scanFrom (position : Nat) (s : Text) (ls : List Lexeme)
    (scanned : scanFrom position s = .ok ls) :
    (∀ l ∈ ls.head?, l.position = position) ∧ ls.IsChain Adjoins := by
  fun_induction scanFrom position s generalizing ls with
  | case1 =>
    cases scanned
    exact ⟨by simp, .nil⟩
  | case2 => cases scanned
  | case3 position c t token leads n ih =>
    obtain ⟨rest, scannedRest, last⟩ := (bind_eq_ok _ _ _).1 scanned
    cases last
    obtain ⟨next, adjoin⟩ := ih rest scannedRest
    refine ⟨fun l first => ?_, List.isChain_cons.2 ⟨next, adjoin⟩⟩
    obtain rfl := Option.some.inj first
    rfl

theorem tile_of_scan (s : Text) (ls : List Lexeme) (scanned : scan s = .ok ls) : Tile 0 ls s := by
  obtain ⟨first, adjoin⟩ := positions_of_scanFrom 0 s ls scanned
  obtain ⟨tokens, whole⟩ := Pattern.isTiling_of_scans _ s (scans_of_scanFrom 0 s ls scanned)
  exact ⟨first, adjoin, tokens, whole.symm⟩

/-! ### Where scanning stops -/

/-- Scanning fails where reading a token does, behind tokens that it has read. -/
theorem scanFrom_eq_error (position : Nat) (s : Text) (fault : Fault) (p : Nat)
    (failed : scanFrom position s = .error (fault, p)) :
    ∃ ts front c t, s = front ++ c :: t ∧ p = position + front.length ∧ Scans ts front ∧
      Token.leading c t = .error fault := by
  fun_induction scanFrom position s with
  | case1 => cases failed
  | case2 position c t fault' fails =>
    cases failed
    exact ⟨[], [], c, t, rfl, rfl, .nil, fails⟩
  | case3 position c t token leads n ih =>
    rcases (bind_eq_error _ _ _).1 failed with failedRest | ⟨rest, -, last⟩
    · obtain ⟨proper, s, split, stops⟩ := Token.leading_sound c t token leads
      obtain ⟨ts, front, d, u, later, place, scans, fails⟩ := ih failedRest
      rw [token.drop_lexeme c t s proper split] at later
      subst later
      -- what is cut off at the fault does not make the token longer
      refine ⟨token :: ts, token.lexeme ++ front, d, u, ?_, ?_,
        .cons token ts front proper (token.stopsAt_of_append front _ stops) scans, fails⟩
      · rw [split, List.append_assoc]
      · rw [place, List.length_append, Nat.add_assoc]
    · cases last

theorem isStuckAt_of_scan (s : Text) (fault : Fault) (p : Nat)
    (failed : scan s = .error (fault, p)) : IsStuckAt s p := by
  obtain ⟨ts, front, c, t, rfl, rfl, scans, fails⟩ := scanFrom_eq_error 0 s fault p failed
  obtain ⟨ls, scanned, -⟩ := (scan_iff ts front).2 scans
  rw [Nat.zero_add]
  refine ⟨by simp, ⟨ls, ?_⟩, ?_⟩
  · rwa [List.take_left]
  · rw [List.drop_left]
    exact Token.not_isPrefix_of_leading c t fault fails

end Lexeme

namespace Pattern

/-! ### Where the reader looks for elements -/

/-- Whether `elementsOf` comes to look for an element at the token `l`, with `ts` behind it: at the
first token, and behind the blanks that follow an element. -/
inductive LooksAt : List Lexeme → Lexeme → List Lexeme → Prop
  | first (l : Lexeme) (ts : List Lexeme) : LooksAt (l :: ts) l ts
  | next (l : Lexeme) (ts : List Lexeme) (e : Element) (b : Text) (p : Nat) (rest : List Lexeme)
    (l' : Lexeme) (ts' : List Lexeme) : element l ts = .ok (e, ⟨.space b, p⟩ :: rest) →
    LooksAt rest l' ts' → LooksAt (l :: ts) l' ts'

/-- Reading elements fails where one is looked for and none is read, or where no blanks follow. -/
theorem elementsOf_eq_error (ls : List Lexeme) (fault : Fault) (p : Nat)
    (failed : elementsOf ls = .error (fault, p)) :
    fault = .missingBlank ∨
      ∃ l ts, LooksAt ls l ts ∧ element l ts = .error (fault, p) := by
  fun_induction elementsOf ls with
  | case1 => cases failed
  | case2 l ts e fails =>
    cases failed
    exact .inr ⟨l, ts, .first l ts, fails⟩
  | case3 => cases failed
  | case4 l ts e b q rest taken ih =>
    rcases (bind_eq_error _ _ _).1 failed with failedRest | ⟨es, -, last⟩
    · rcases ih failedRest with missing | ⟨l', ts', looks, fails⟩
      · exact .inl missing
      · exact .inr ⟨l', ts', .next l ts e b q rest l' ts' taken looks, fails⟩
    · cases last
  | case5 =>
    cases failed
    exact .inl rfl

/-- No element is looked for at blanks, unless the row begins with them. -/
theorem LooksAt.ne_space (ls : List Lexeme) (l : Lexeme) (ts : List Lexeme)
    (looks : LooksAt ls l ts) (tiling : IsTiling (ls.map Lexeme.token))
    (solid : ∀ b, (ls.map Lexeme.token).head? ≠ some (.space b)) (b : Text) :
    l.token ≠ .space b := by
  induction looks with
  | first l ts => exact fun blanks => solid b (congrArg some blanks)
  | next l ts e b' p rest l' ts' taken _ ih =>
    obtain ⟨us, tokens, -⟩ := element_sound l ts _ e taken
    rw [tokens] at tiling
    -- the blanks behind the element are one token, so that more of them do not follow it
    obtain ⟨-, behind, -⟩ := isTiling_append us _ tiling
    obtain ⟨-, later, between⟩ := isTiling_append [.space b'] _ behind
    refine ih later fun b'' first => ?_
    exact between (.space b') rfl (.space b'') first

/-- Behind the blanks that may come first there are none. -/
theorem isTiling_dropSpace (ls : List Lexeme) (tiling : IsTiling (ls.map Lexeme.token)) :
    IsTiling ((dropSpace ls).map Lexeme.token) ∧
      ∀ b, ((dropSpace ls).map Lexeme.token).head? ≠ some (.space b) := by
  unfold dropSpace
  split
  next b p ls =>
    obtain ⟨-, later, between⟩ := isTiling_append [.space b] _ tiling
    exact ⟨later, fun b' first => between (.space b) rfl (.space b') first⟩
  next other =>
    refine ⟨tiling, fun b first => ?_⟩
    cases ls with
    | nil => cases first
    | cons l ls =>
      obtain ⟨token, p⟩ := l
      obtain rfl : token = .space b := Option.some.inj first
      exact other b p ls rfl

/-! ### What the reader never says -/

theorem fault_of_alternatives (ls : List Lexeme) (fault : Fault) (p : Nat)
    (failed : alternatives ls = .error (fault, p)) : fault = .danglingSlash := by
  fun_induction alternatives ls with
  | case1 _ w _ ls ih =>
    rcases (bind_eq_error _ _ _).1 failed with failedRest | ⟨taken, -, last⟩
    · exact ih failedRest
    · cases last
  | case2 =>
    cases failed
    rfl
  | case3 => cases failed

theorem optionalItems_ne_unexpected (start : Nat) (ls : List Lexeme) (b : Text) (p : Nat) :
    optionalItems start ls ≠ .error (.unexpected b, p) := by
  intro failed
  fun_induction optionalItems start ls with
  | case2 _ _ ls ih => exact ih failed
  | case4 w _ ls e failedWords =>
    cases failed
    cases fault_of_alternatives ls _ p failedWords
  | case5 w _ ls ws mid _ ih =>
    rcases (bind_eq_error _ _ _).1 failed with failedItems | ⟨taken, -, last⟩
    · exact ih failedItems
    · cases last
  | _ => cases failed

/-- Only of blanks the reader says that they are unexpected. -/
theorem token_of_element_unexpected (l : Lexeme) (ls : List Lexeme) (b : Text) (p : Nat)
    (failed : element l ls = .error (.unexpected b, p)) : l.token = .space b := by
  have taken (e : Element) (start : Nat) : unlessSlash e start ls ≠ .error (.unexpected b, p) := by
    unfold unlessSlash
    split <;> simp
  obtain ⟨token, q⟩ := l
  cases token with
  | space b' =>
    cases failed
    rfl
  | word w =>
    rcases (bind_eq_error _ _ _).1 failed with failedWords | ⟨ws, -, last⟩
    · cases fault_of_alternatives ls _ p failedWords
    · cases last
  | openBracket =>
    rcases (bind_eq_error _ _ _).1 failed with failedItems | ⟨⟨items, rest⟩, -, last⟩
    · exact absurd failedItems (optionalItems_ne_unexpected q ls b p)
    · cases items <;> cases last
  | capture inner =>
    simp only [element] at failed
    split at failed
    · cases failed
    split at failed
    · exact absurd failed (taken _ _)
    · cases failed
  | star => exact absurd failed (taken _ _)
  | closeBracket => cases failed
  | slash => cases failed

theorem read_ne_unexpected (s b : Text) (p : Nat) : read s ≠ .error (.unexpected b, p) := by
  intro failed
  rcases (bind_eq_error _ _ _).1 failed with failedScan | ⟨ls, scanned, failedRead⟩
  · obtain ⟨-, -, c, t, -, -, -, fails⟩ := Lexeme.scanFrom_eq_error 0 s _ p failedScan
    rcases Token.fault_of_leading c t _ fails with other | other | other <;> cases other
  · obtain ⟨tiling, solid⟩ := isTiling_dropSpace ls (Lexeme.tile_of_scan s ls scanned).tokens
    cases row : dropSpace ls with
    | nil =>
      rw [row] at failedRead
      cases failedRead
    | cons l ts =>
      rw [row] at failedRead tiling solid
      rcases (bind_eq_error _ _ _).1 failedRead with failedElements | ⟨es, -, failedPattern⟩
      · rcases elementsOf_eq_error _ _ p failedElements with missing | ⟨l', ts', looks, fails⟩
        · cases missing
        · exact looks.ne_space _ l' ts' tiling solid b (token_of_element_unexpected l' ts' b p fails)
      · unfold ofElements at failedPattern
        split at failedPattern
        · cases failedPattern
        split at failedPattern
        · cases failedPattern
        · cases failedPattern

/-- Every source is scanned, either into tokens that tile it, among which the reader never looks for
an element at blanks, or up to a place where no token begins, with all in front of it tiled. So the
reader never says of blanks that they are unexpected. -/
theorem scan_tiles (s : Text) :
    ((∃ ls, Lexeme.scan s = .ok ls ∧ Lexeme.Tile 0 ls s ∧
        ∀ b p ts, ¬LooksAt (dropSpace ls) ⟨.space b, p⟩ ts) ∨
      ∃ fault p, Lexeme.scan s = .error (fault, p) ∧ Lexeme.IsStuckAt s p) ∧
    ∀ b p source, parse s ≠ .error ⟨.unexpected b, p, source⟩ := by
  refine ⟨?_, fun b p source failed => ?_⟩
  · cases scanned : Lexeme.scan s with
    | ok ls =>
      have tile := Lexeme.tile_of_scan s ls scanned
      obtain ⟨tiling, solid⟩ := isTiling_dropSpace ls tile.tokens
      refine .inl ⟨ls, rfl, tile, fun b p ts looks => ?_⟩
      exact looks.ne_space _ _ ts tiling solid b rfl
    | error e =>
      obtain ⟨fault, p⟩ := e
      exact .inr ⟨fault, p, rfl, Lexeme.isStuckAt_of_scan s fault p scanned⟩
  · unfold parse at failed
    split at failed
    · cases failed
    next fault q failedRead =>
      cases failed
      exact read_ne_unexpected s b p failedRead

end Pattern

end TextAdventure
