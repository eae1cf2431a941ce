import TextAdventure.Pattern.Parser
import TextAdventure.Proofs.Except
import TextAdventure.Proofs.Pattern.Grammar
import TextAdventure.Proofs.Pattern.Scanning

/-!
What the reader of patterns makes of a row of tokens. The relations below give the tokens of each
part of a pattern, positions aside, and every function of the reader has two lemmas: what it takes
from its tokens stands in its relation (`…_sound`), and tokens in the relation are taken
(`…_complete`).
-/
namespace TextAdventure

namespace Pattern

/-- The tokens of alternatives, each behind a slash. -/
def slashed (ws : List Text) : List Token := ws.flatMap fun w => [.slash, .word w]

inductive ChoiceTokens : Choice → List Token → Prop
  | words (w : Text) (ws : List Text) :
    ChoiceTokens ⟨Text.casefold w, ws.map Text.casefold⟩ (.word w :: slashed ws)

/-- The tokens between the brackets of an optional text. -/
inductive ItemTokens : List Choice → List Token → Prop
  | nil : ItemTokens [] []
  | space (b : Text) (cs : List Choice) (us : List Token) : ItemTokens cs us →
    ItemTokens cs (.space b :: us)
  | choice (c : Choice) (cs : List Choice) (us us' : List Token) : ChoiceTokens c us →
    ItemTokens cs us' → ItemTokens (c :: cs) (us ++ us')

inductive ElementTokens : Element → List Token → Prop
  | choice (c : Choice) (us : List Token) : ChoiceTokens c us → ElementTokens (.choice c) us
  | optional (c : Choice) (cs : List Choice) (us : List Token) : ItemTokens (c :: cs) us →
    ElementTokens (.optional c cs) (.openBracket :: (us ++ [.closeBracket]))
  | capture (inner : Text) : IsSlotName (Text.trim inner) →
    ElementTokens (.capture (Text.trim inner)) [.capture inner]
  | wildcard : ElementTokens .wildcard [.star]

/-- Tokens of one thing after another, with a blank between any two neighbours and perhaps one
behind the last. -/
inductive RowTokens {α : Type} (tokens : α → List Token → Prop) : List α → List Token → Prop
  | nil : RowTokens tokens [] []
  | last (a : α) (us : List Token) : tokens a us → RowTokens tokens [a] us
  | next (a : α) (as : List α) (us us' : List Token) (b : Text) : tokens a us →
    RowTokens tokens as us' → RowTokens tokens (a :: as) (us ++ .space b :: us')

/-! ### Alternatives -/

theorem alternatives_sound (ls rest : List Lexeme) (ws : List Text)
    (taken : alternatives ls = .ok (ws, rest)) :
    ∃ us, ws = us.map Text.casefold ∧ ls.map Lexeme.token = slashed us ++ rest.map Lexeme.token ∧
      (rest.map Lexeme.token).head? ≠ some .slash := by
  fun_induction alternatives ls generalizing ws with
  | case1 _ w _ ls ih =>
    obtain ⟨⟨vs, rest'⟩, takenRest, last⟩ := (bind_eq_ok _ _ _).1 taken
    cases last
    obtain ⟨us, rfl, tokens, stops⟩ := ih vs takenRest
    exact ⟨w :: us, rfl, by simp [slashed, tokens], stops⟩
  | case2 => cases taken
  | case3 ls noWord noSlash =>
    cases taken
    refine ⟨[], rfl, rfl, ?_⟩
    intro begins
    cases rest with
    | nil => cases begins
    | cons l ls =>
      obtain ⟨token, p⟩ := l
      have slash : token = .slash := Option.some.inj begins
      exact noSlash p ls (by rw [slash])

theorem alternatives_complete (us : List Text) (ls : List Lexeme) (ts : List Token)
    (tokens : ls.map Lexeme.token = slashed us ++ ts) (stops : ts.head? ≠ some .slash) :
    ∃ rest, alternatives ls = .ok (us.map Text.casefold, rest) ∧ rest.map Lexeme.token = ts := by
  induction us generalizing ls with
  | nil =>
    -- a slash here would be in front of `ts`
    have same : ls.map Lexeme.token = ts := tokens
    refine ⟨ls, ?_, same⟩
    unfold alternatives
    split
    · exact absurd (by rw [← same]; rfl) stops
    · exact absurd (by rw [← same]; rfl) stops
    · rfl
  | cons w us ih =>
    obtain ⟨⟨_, p⟩, _, rfl, rfl, behind⟩ := List.map_eq_cons_iff.1 tokens
    obtain ⟨⟨_, q⟩, ls, rfl, rfl, later⟩ := List.map_eq_cons_iff.1 behind
    obtain ⟨rest, taken, tail⟩ := ih ls later
    refine ⟨rest, ?_, tail⟩
    rw [alternatives, taken]
    rfl

/-! ### Optional text -/

theorem optionalItems_word (start : Nat) (w : Text) (p : Nat) (ls : List Lexeme) :
    optionalItems start (⟨.word w, p⟩ :: ls) = (do
      let (ws, rest) ← alternatives ls
      let (items, rest') ← optionalItems start rest
      .ok (⟨Text.casefold w, ws⟩ :: items, rest')) := by
  rw [optionalItems]
  split
  next fails => rw [fails]; rfl
  next taken => rw [taken]; rfl

theorem ItemTokens.head_ne_slash (cs : List Choice) (us ts : List Token)
    (items : ItemTokens cs us) : (us ++ .closeBracket :: ts).head? ≠ some .slash := by
  cases items with
  | nil => simp
  | space b => simp
  | choice c cs us us' choice =>
    cases choice with
    | words w ws => simp

theorem optionalItems_sound (start : Nat) (ls rest : List Lexeme) (items : List Choice)
    (taken : optionalItems start ls = .ok (items, rest)) :
    ∃ us, ls.map Lexeme.token = us ++ .closeBracket :: rest.map Lexeme.token ∧
      ItemTokens items us := by
  fun_induction optionalItems start ls generalizing items with
  | case2 b _ ls ih =>
    obtain ⟨us, tokens, inside⟩ := ih items taken
    exact ⟨.space b :: us, by rw [List.map_cons, tokens]; rfl, .space b items us inside⟩
  | case3 =>
    cases taken
    exact ⟨[], rfl, .nil⟩
  | case5 w _ ls ws mid takenWords ih =>
    obtain ⟨⟨cs, rest'⟩, takenItems, last⟩ := (bind_eq_ok _ _ _).1 taken
    cases last
    obtain ⟨us, rfl, words, -⟩ := alternatives_sound ls mid ws takenWords
    obtain ⟨us', tokens, inside⟩ := ih cs takenItems
    refine ⟨(.word w :: slashed us) ++ us', ?_, .choice _ cs _ us' (.words w us) inside⟩
    rw [List.map_cons, words, tokens, List.append_assoc]
    rfl
  | _ => cases taken

theorem optionalItems_complete (start : Nat) (cs : List Choice) (us : List Token)
    (inside : ItemTokens cs us) (ls : List Lexeme) (ts : List Token)
    (tokens : ls.map Lexeme.token = us ++ .closeBracket :: ts) :
    ∃ rest, optionalItems start ls = .ok (cs, rest) ∧ rest.map Lexeme.token = ts := by
  induction inside generalizing ls with
  | nil =>
    obtain ⟨⟨_, p⟩, ls, rfl, rfl, tail⟩ := List.map_eq_cons_iff.1 tokens
    exact ⟨ls, by rw [optionalItems], tail⟩
  | space b cs us _ ih =>
    obtain ⟨⟨_, p⟩, ls, rfl, rfl, later⟩ := List.map_eq_cons_iff.1 tokens
    rw [optionalItems]
    exact ih ls later
  | choice c cs us us' choice inside ih =>
    cases choice with
    | words w ws =>
      -- behind the words stand a blank, a further word or the bracket, but no slash
      rw [List.append_assoc] at tokens
      obtain ⟨⟨_, p⟩, ls, rfl, rfl, behind⟩ := List.map_eq_cons_iff.1 tokens
      obtain ⟨mid, takenWords, later⟩ :=
        alternatives_complete ws ls _ behind (inside.head_ne_slash cs us' ts)
      obtain ⟨rest, takenItems, tail⟩ := ih mid later
      refine ⟨rest, ?_, tail⟩
      rw [optionalItems_word, takenWords]
      change (optionalItems start mid >>= _) = _
      rw [takenItems]
      rfl

/-! ### Elements -/

theorem isName_iff (n : Text) : isName n = true ↔ IsSlotName n := by
  cases n with
  | nil => simp [isName, IsSlotName]
  | cons c t =>
    simp only [isName, Bool.and_eq_true, Bool.or_eq_true, beq_iff_eq, List.all_eq_true]
    constructor
    · exact fun named => ⟨c, t, rfl, named⟩
    · rintro ⟨_, _, same, named⟩
      cases same
      exact named

theorem unlessSlash_sound (e e' : Element) (start : Nat) (ls rest : List Lexeme)
    (taken : unlessSlash e start ls = .ok (e', rest)) : e' = e ∧ rest = ls := by
  unfold unlessSlash at taken
  split at taken
  · cases taken
  · cases taken
    exact ⟨rfl, rfl⟩

theorem unlessSlash_complete (e : Element) (start : Nat) (ls : List Lexeme)
    (stops : (ls.map Lexeme.token).head? ≠ some .slash) :
    unlessSlash e start ls = .ok (e, ls) := by
  unfold unlessSlash
  split
  · exact absurd rfl stops
  · rfl

theorem element_sound (l : Lexeme) (ls rest : List Lexeme) (e : Element)
    (taken : element l ls = .ok (e, rest)) :
    ∃ us, (l :: ls).map Lexeme.token = us ++ rest.map Lexeme.token ∧ ElementTokens e us := by
  obtain ⟨token, p⟩ := l
  cases token with
  | word w =>
    obtain ⟨⟨ws, mid⟩, takenWords, last⟩ := (bind_eq_ok _ _ _).1 taken
    cases last
    obtain ⟨us, rfl, tokens, -⟩ := alternatives_sound ls rest ws takenWords
    exact ⟨.word w :: slashed us, by rw [List.map_cons, tokens]; rfl, .choice _ _ (.words w us)⟩
  | openBracket =>
    obtain ⟨⟨items, mid⟩, takenItems, last⟩ := (bind_eq_ok _ _ _).1 taken
    obtain ⟨us, tokens, inside⟩ := optionalItems_sound p ls mid items takenItems
    cases items with
    | nil => cases last
    | cons c cs =>
      cases last
      refine ⟨.openBracket :: (us ++ [.closeBracket]), ?_, .optional c cs us inside⟩
      rw [List.map_cons, tokens, List.cons_append, List.append_assoc]
      rfl
  | capture inner =>
    simp only [element] at taken
    split at taken
    · cases taken
    split at taken
    next named =>
      obtain ⟨rfl, rfl⟩ := unlessSlash_sound _ e p ls rest taken
      exact ⟨[.capture inner], rfl, .capture inner ((isName_iff _).1 named)⟩
    · cases taken
  | star =>
    obtain ⟨rfl, rfl⟩ := unlessSlash_sound _ e p ls rest taken
    exact ⟨[.star], rfl, .wildcard⟩
  | _ => cases taken

theorem element_complete (e : Element) (us ts : List Token) (inside : ElementTokens e us)
    (l : Lexeme) (ls : List Lexeme) (tokens : (l :: ls).map Lexeme.token = us ++ ts)
    (stops : ts.head? ≠ some .slash) :
    ∃ rest, element l ls = .ok (e, rest) ∧ rest.map Lexeme.token = ts := by
  obtain ⟨token, p⟩ := l
  cases inside with
  | choice c us choice =>
    cases choice with
    | words w ws =>
      obtain ⟨rfl, later⟩ : token = .word w ∧ ls.map Lexeme.token = slashed ws ++ ts :=
        List.cons.inj tokens
      obtain ⟨rest, taken, tail⟩ := alternatives_complete ws ls ts later stops
      refine ⟨rest, ?_, tail⟩
      simp only [element, taken]
      rfl
  | optional c cs us inside =>
    rw [List.cons_append, List.append_assoc] at tokens
    obtain ⟨rfl, later⟩ : token = .openBracket ∧
        ls.map Lexeme.token = us ++ .closeBracket :: ts := List.cons.inj tokens
    obtain ⟨rest, taken, tail⟩ := optionalItems_complete p (c :: cs) us inside ls ts later
    refine ⟨rest, ?_, tail⟩
    simp only [element, taken]
    rfl
  | capture inner named =>
    obtain ⟨rfl, later⟩ : token = .capture inner ∧ ls.map Lexeme.token = ts :=
      List.cons.inj tokens
    have nonempty : (Text.trim inner).isEmpty = false := by
      obtain ⟨c, t, split, -⟩ := named
      rw [split]
      rfl
    refine ⟨ls, ?_, later⟩
    rw [← later] at stops
    simp only [element, nonempty, Bool.false_eq_true, if_false, (isName_iff _).2 named, if_true,
      unlessSlash_complete _ p ls stops]
  | wildcard =>
    obtain ⟨rfl, later⟩ : token = .star ∧ ls.map Lexeme.token = ts := List.cons.inj tokens
    rw [← later] at stops
    exact ⟨ls, unlessSlash_complete _ p ls stops, later⟩

/-! ### Rows of elements -/

theorem elementsOf_sound (ls : List Lexeme) (es : List Element) (taken : elementsOf ls = .ok es) :
    RowTokens ElementTokens es (ls.map Lexeme.token) := by
  fun_induction elementsOf ls generalizing es with
  | case1 =>
    cases taken
    exact .nil
  | case2 => cases taken
  | case3 l ls e takenElement =>
    cases taken
    obtain ⟨us, tokens, inside⟩ := element_sound l ls [] e takenElement
    rw [tokens, List.map_nil, List.append_nil]
    exact .last e us inside
  | case4 l ls e b _ rest takenElement ih =>
    obtain ⟨es, takenRest, last⟩ := (bind_eq_ok _ _ _).1 taken
    cases last
    obtain ⟨us, tokens, inside⟩ := element_sound l ls _ e takenElement
    rw [tokens]
    exact .next e es us _ b inside (ih es takenRest)
  | case5 => cases taken

theorem elementsOf_last (l : Lexeme) (ls : List Lexeme) (e : Element)
    (taken : element l ls = .ok (e, [])) : elementsOf (l :: ls) = .ok [e] := by
  rw [elementsOf]
  split <;> simp_all

theorem elementsOf_next (l : Lexeme) (ls rest : List Lexeme) (e : Element) (b : Text) (p : Nat)
    (taken : element l ls = .ok (e, ⟨.space b, p⟩ :: rest)) :
    elementsOf (l :: ls) = (do let es ← elementsOf rest; .ok (e :: es)) := by
  rw [elementsOf]
  split <;> simp_all

theorem ElementTokens.ne_nil (e : Element) (us : List Token) (inside : ElementTokens e us) :
    us ≠ [] := by
  cases inside with
  | choice c us choice =>
    cases choice with
    | words => exact List.cons_ne_nil _ _
  | _ => exact List.cons_ne_nil _ _

theorem elementsOf_complete (es : List Element) (ts : List Token)
    (row : RowTokens ElementTokens es ts) (ls : List Lexeme) (tokens : ls.map Lexeme.token = ts) :
    elementsOf ls = .ok es := by
  induction row generalizing ls with
  | nil =>
    obtain rfl := List.map_eq_nil_iff.1 tokens
    rw [elementsOf]
  | last e us inside =>
    obtain ⟨u, us', rfl⟩ := List.exists_cons_of_ne_nil (inside.ne_nil e us)
    obtain ⟨l, ls, rfl, rfl, -⟩ := List.map_eq_cons_iff.1 tokens
    obtain ⟨rest, taken, tail⟩ := element_complete e _ [] inside l ls
      (by rw [tokens, List.append_nil]) (by simp)
    obtain rfl := List.map_eq_nil_iff.1 tail
    exact elementsOf_last l ls e taken
  | next e es us us' b inside _ ih =>
    obtain ⟨u, us, rfl⟩ := List.exists_cons_of_ne_nil (inside.ne_nil e us)
    obtain ⟨l, ls, rfl, rfl, -⟩ := List.map_eq_cons_iff.1 tokens
    obtain ⟨_, taken, tail⟩ := element_complete e _ (.space b :: us') inside l ls tokens
      (by simp)
    obtain ⟨⟨_, p⟩, rest, rfl, rfl, later⟩ := List.map_eq_cons_iff.1 tail
    rw [elementsOf_next l ls rest e b p taken, ih rest later]
    rfl

/-! ### Whole patterns -/

theorem firstRepeat_eq_none_iff (seen ns : List Text) :
    firstRepeat seen ns = none ↔ ns.Nodup ∧ ∀ n ∈ ns, n ∉ seen := by
  constructor
  · exact nodup_of_firstRepeat
  · intro different
    induction ns generalizing seen with
    | nil => rfl
    | cons n ns ih =>
      obtain ⟨nodup, fresh⟩ := different
      obtain ⟨first, later⟩ := List.nodup_cons.1 nodup
      have tail : firstRepeat (n :: seen) ns = none := by
        apply ih (n :: seen)
        refine ⟨later, ?_⟩
        intro m member
        rw [List.mem_cons, not_or]
        exact ⟨fun same => first (same ▸ member), fresh m (List.mem_cons_of_mem n member)⟩
      rw [firstRepeat, if_neg (fresh n List.mem_cons_self), tail]

theorem ofElements_iff (es : List Element) (stop : Nat) (p : Pattern) :
    ofElements es stop = .ok p ↔ p.elements = es := by
  unfold ofElements
  constructor
  · intro made
    split at made
    · cases made
    split at made
    · cases made
      rfl
    · cases made
  · rintro rfl
    have different := (firstRepeat_eq_none_iff [] _).2 ⟨p.nodup_slots, fun _ _ => List.not_mem_nil⟩
    split
    next repeated => rw [different] at repeated; cases repeated
    next => rw [dif_pos p.has_required]

theorem RowTokens.head_ne_space (es : List Element) (ts : List Token)
    (row : RowTokens ElementTokens es ts) (b : Text) : ts.head? ≠ some (.space b) := by
  have head (e : Element) (us us' : List Token) (inside : ElementTokens e us) :
      (us ++ us').head? ≠ some (.space b) := by
    cases inside with
    | choice c us choice =>
      cases choice with
      | words => simp
    | _ => simp
  cases row with
  | nil => simp
  | last e _ inside => exact List.append_nil ts ▸ head e ts [] inside
  | next e es us us' b inside => exact head e us _ inside

theorem elements_ne_nil (p : Pattern) : p.elements ≠ [] := by
  intro empty
  have required := p.has_required
  rw [empty] at required
  cases required

theorem read_eq_ok_iff (source : Text) (p : Pattern) :
    read source = .ok p ↔ ∃ ls, Lexeme.scan source = .ok ls ∧
      elementsOf (dropSpace ls) = .ok p.elements := by
  simp only [read, bind_eq_ok]
  refine exists_congr fun ls => and_congr_right fun _ => ?_
  cases dropSpace ls with
  | nil =>
    -- no elements could be read either, but a pattern has some
    constructor
    · intro failed
      cases failed
    · intro taken
      rw [elementsOf] at taken
      exact absurd (Except.ok.inj taken).symm p.elements_ne_nil
  | cons l ls =>
    simp only [bind_eq_ok, ofElements_iff]
    constructor
    · rintro ⟨es, taken, rfl⟩
      exact taken
    · exact fun taken => ⟨p.elements, taken, rfl⟩

theorem dropSpace_of_tokens (ls : List Lexeme) (b : Text) (ts : List Token)
    (tokens : ls.map Lexeme.token = .space b :: ts) : (dropSpace ls).map Lexeme.token = ts := by
  obtain ⟨⟨_, p⟩, ls, rfl, rfl, later⟩ := List.map_eq_cons_iff.1 tokens
  exact later

theorem dropSpace_of_head (ls : List Lexeme)
    (solid : ∀ b, (ls.map Lexeme.token).head? ≠ some (.space b)) : dropSpace ls = ls := by
  unfold dropSpace
  split
  next b p ls => exact absurd rfl (solid b)
  · rfl

/-- A pattern is read from the texts that its tokens tile, perhaps behind blanks. -/
theorem parse_eq_ok_iff_tokens (source : Text) (p : Pattern) :
    parse source = .ok p ↔ ∃ ts, RowTokens ElementTokens p.elements ts ∧
      (Scans ts source ∨ ∃ b, Scans (.space b :: ts) source) := by
  have same : parse source = .ok p ↔ read source = .ok p := by
    unfold parse
    cases read source with
    | error e => simp
    | ok q => simp
  rw [same, read_eq_ok_iff]
  constructor
  · rintro ⟨ls, scanned, taken⟩
    refine ⟨_, elementsOf_sound _ _ taken, ?_⟩
    have scans := (scan_iff _ source).1 ⟨ls, scanned, rfl⟩
    cases ls with
    | nil => exact .inl scans
    | cons l ls =>
      obtain ⟨token, p⟩ := l
      cases token with
      | space b => exact .inr ⟨b, scans⟩
      | _ => exact .inl scans
  · rintro ⟨ts, row, scans | ⟨b, scans⟩⟩
    · obtain ⟨ls, scanned, tokens⟩ := (scan_iff ts source).2 scans
      refine ⟨ls, scanned, elementsOf_complete _ ts row _ ?_⟩
      rw [dropSpace_of_head ls (tokens ▸ row.head_ne_space _ ts), tokens]
    · obtain ⟨ls, scanned, tokens⟩ := (scan_iff _ source).2 scans
      exact ⟨ls, scanned, elementsOf_complete _ ts row _ (dropSpace_of_tokens ls b ts tokens)⟩

end Pattern

end TextAdventure
