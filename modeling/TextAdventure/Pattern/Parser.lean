import TextAdventure.Pattern.Basic
import TextAdventure.Pattern.Token
import TextAdventure.Text.CaseFolding

/-!
Reading patterns. Elements are separated by blanks; alternatives are words joined by slashes,
optional text stands in brackets and a capture is a name in angle brackets. Words are case-folded,
so that a pattern does not depend on how its author wrote them. Faults are reported left to right,
those of single characters before all others.
-/
namespace TextAdventure

namespace Pattern

/-- A capture name: a letter or underscore, then letters, digits and underscores, all of the first
128 code points. -/
def isName : Text → Bool
  | [] => false
  | c :: t => (c.isAlpha || c == '_') && t.all fun d => d.isAlphanum || d == '_'

/-- The alternatives after the first word, each behind a slash, and what follows them. -/
def alternatives : List Lexeme → Except (Fault × Nat) (List Text × List Lexeme)
  | ⟨.slash, _⟩ :: ⟨.word w, _⟩ :: ts => do
    let (ws, rest) ← alternatives ts
    .ok (Text.casefold w :: ws, rest)
  | ⟨.slash, p⟩ :: _ => .error (.danglingSlash, p)
  | ts => .ok ([], ts)

theorem length_alternatives {ts rest : List Lexeme} {ws : List Text}
    (h : alternatives ts = .ok (ws, rest)) : rest.length ≤ ts.length := by
  fun_induction alternatives ts generalizing ws with
  | case1 _ w _ ts ih =>
    cases hr : alternatives ts with
    | error e => simp [hr, bind, Except.bind] at h
    | ok r =>
      obtain ⟨us, rest'⟩ := r
      simp only [hr, bind, Except.bind, Except.ok.injEq, Prod.mk.injEq] at h
      obtain ⟨-, rfl⟩ := h
      exact Nat.le_trans (ih hr) (by simp only [List.length_cons]; omega)
  | case2 => cases h
  | case3 => cases h; exact Nat.le_refl _

/-- The choices up to the closing bracket of an optional text that was opened at `start`, and what
follows the bracket. -/
def optionalItems (start : Nat) :
    List Lexeme → Except (Fault × Nat) (List Choice × List Lexeme)
  | [] => .error (.unclosedOptional, start)
  | ⟨.space _, _⟩ :: ts => optionalItems start ts
  | ⟨.closeBracket, _⟩ :: ts => .ok ([], ts)
  | ⟨.word w, _⟩ :: ts =>
    match _h : alternatives ts with
    | .error e => .error e
    | .ok (ws, rest) => do
      let (items, rest') ← optionalItems start rest
      .ok (⟨Text.casefold w, ws⟩ :: items, rest')
  | ⟨.openBracket, p⟩ :: _ => .error (.nestedOptional, p)
  | ⟨.capture _, p⟩ :: _ => .error (.slotInOptional, p)
  | ⟨.star, p⟩ :: _ => .error (.slotInOptional, p)
  | ⟨.slash, p⟩ :: _ => .error (.unexpectedInOptional ['/'], p)
termination_by ts => ts.length
decreasing_by
  · simp
  · have := length_alternatives _h
    simp only [List.length_cons]
    omega

/-- An element without alternatives, unless a slash follows it. -/
def unlessSlash (e : Element) (start : Nat) :
    List Lexeme → Except (Fault × Nat) (Element × List Lexeme)
  | ⟨.slash, _⟩ :: _ => .error (.slashAfterSlot, start)
  | ts => .ok (e, ts)

/-- The element that begins with the token `l`, and what follows it. -/
def element (l : Lexeme) (ts : List Lexeme) : Except (Fault × Nat) (Element × List Lexeme) :=
  match l.token with
  | .word w => do
    let (ws, rest) ← alternatives ts
    .ok (.choice ⟨Text.casefold w, ws⟩, rest)
  | .openBracket => do
    match ← optionalItems l.position ts with
    | ([], _) => .error (.emptyOptional, l.position)
    | (c :: cs, rest) => .ok (.optional c cs, rest)
  | .capture inner =>
    let name := Text.trim inner
    if name.isEmpty then .error (.emptyCapture, l.position)
    else if isName name then unlessSlash (.capture name) l.position ts
    else .error (.invalidName name, l.position)
  | .star => unlessSlash .wildcard l.position ts
  | .closeBracket => .error (.unbalancedBracket, l.position)
  | .slash => .error (.danglingSlash, l.position)
  | .space t => .error (.unexpected t, l.position)

theorem length_optionalItems {start : Nat} {ts rest : List Lexeme} {items : List Choice}
    (h : optionalItems start ts = .ok (items, rest)) : rest.length ≤ ts.length := by
  fun_induction optionalItems start ts generalizing items rest with
  | case2 _ _ ts ih => exact Nat.le_succ_of_le (ih h)
  | case3 => cases h; exact Nat.le_succ _
  | case5 w _ ts ws mid hm ih =>
    cases hr : optionalItems start mid with
    | error e => simp [hr, bind, Except.bind] at h
    | ok r =>
      obtain ⟨us, rest'⟩ := r
      simp only [hr, bind, Except.bind, Except.ok.injEq, Prod.mk.injEq] at h
      obtain ⟨-, rfl⟩ := h
      exact Nat.le_succ_of_le (Nat.le_trans (ih hr) (length_alternatives hm))
  | _ => cases h

theorem length_unlessSlash {e e' : Element} {start : Nat} {ts rest : List Lexeme}
    (h : unlessSlash e start ts = .ok (e', rest)) : rest.length ≤ ts.length := by
  unfold unlessSlash at h
  split at h
  · cases h
  · cases h; exact Nat.le_refl _

theorem length_element {l : Lexeme} {ts rest : List Lexeme} {e : Element}
    (h : element l ts = .ok (e, rest)) : rest.length ≤ ts.length := by
  unfold element at h
  split at h
  · cases ha : alternatives ts with
    | error e => simp [ha, bind, Except.bind] at h
    | ok r =>
      simp only [ha, bind, Except.bind, Except.ok.injEq, Prod.mk.injEq] at h
      obtain ⟨-, rfl⟩ := h
      exact length_alternatives ha
  · cases ho : optionalItems l.position ts with
    | error e => simp [ho, bind, Except.bind] at h
    | ok r =>
      obtain ⟨items, mid⟩ := r
      cases items with
      | nil => simp [ho, bind, Except.bind] at h
      | cons c cs =>
        simp only [ho, bind, Except.bind, Except.ok.injEq, Prod.mk.injEq] at h
        obtain ⟨-, rfl⟩ := h
        exact length_optionalItems ho
  · simp only at h
    split at h
    · cases h
    · split at h
      · exact length_unlessSlash h
      · cases h
  · exact length_unlessSlash h
  all_goals cases h

/-- The elements of a row of tokens that begins with none of its blanks. -/
def elementsOf : List Lexeme → Except (Fault × Nat) (List Element)
  | [] => .ok []
  | l :: ts =>
    match _h : element l ts with
    | .error e => .error e
    | .ok (e, []) => .ok [e]
    | .ok (e, ⟨.space _, _⟩ :: rest) => do
      let es ← elementsOf rest
      .ok (e :: es)
    | .ok (_, l' :: _) => .error (.missingBlank, l'.position)
termination_by ts => ts.length
decreasing_by
  have := length_element _h
  simp only [List.length_cons] at this ⊢
  omega

/-- The first name that came before, given the names that came so far. -/
def firstRepeat (seen : List Text) : List Text → Option Text
  | [] => none
  | n :: ns => if n ∈ seen then some n else firstRepeat (n :: seen) ns

theorem nodup_of_firstRepeat {seen ns : List Text} (h : firstRepeat seen ns = none) :
    ns.Nodup ∧ ∀ n ∈ ns, n ∉ seen := by
  induction ns generalizing seen with
  | nil => simp
  | cons n ns ih =>
    unfold firstRepeat at h
    split at h
    · cases h
    next fresh =>
      obtain ⟨nodup, later⟩ := ih h
      refine ⟨List.nodup_cons.2 ⟨fun hn => later n hn List.mem_cons_self, nodup⟩, fun m hm => ?_⟩
      rcases List.mem_cons.1 hm with rfl | hm
      · exact fresh
      · exact fun hs => later m hm (List.mem_cons_of_mem _ hs)

/-- The tokens without the blank that may come first. -/
def dropSpace : List Lexeme → List Lexeme
  | ⟨.space _, _⟩ :: ts => ts
  | ts => ts

/-- A row of elements as a pattern, if its slots differ and something in it must be said; faults are
placed at `stop`. -/
def ofElements (es : List Element) (stop : Nat) : Except (Fault × Nat) Pattern :=
  match h : firstRepeat [] (slotNames es) with
  | some name => .error (.duplicateCapture name, stop)
  | none =>
    if required : es.any Element.isRequired = true then
      .ok ⟨es, required, (nodup_of_firstRepeat h).1⟩
    else .error (.nothingRequired, stop)

/-- Reads a pattern, or finds its first fault and where that is. -/
def read (source : Text) : Except (Fault × Nat) Pattern := do
  let tokens ← Lexeme.scan source
  match dropSpace tokens with
  | [] => .error (.emptyPattern, source.length)
  | l :: ts =>
    let es ← elementsOf (l :: ts)
    ofElements es source.length

/-- Reads a pattern. -/
def parse (source : Text) : Except Malformed Pattern :=
  match read source with
  | .ok p => .ok p
  | .error (fault, position) => .error ⟨fault, position, source⟩

end Pattern

end TextAdventure
