import TextAdventure.Proofs.Regex.WordSearch

/-!
Expressions that are written alike match alike. An expression is a row of items, where sequences are
laid flat and words are taken letter by letter; the row says what the expression matches
(`run_ofItems`). The row can be read back from the written form: a reader with a stack of open
brackets turns the written form of an expression into its items, whatever stands behind it
(`read_source`). So two expressions with one written form have one row, and with it the same matches
(`run_eq_of_source_eq`) and as many captures (`groups_eq_of_source_eq`).
-/
namespace TextAdventure.Regex

/-! ### Rows of items -/

/-- Whether each choice between words has a word to choose. -/
def HasChoices : Regex → Prop
  | oneOf ws => ws ≠ []
  | cat r s => r.HasChoices ∧ s.HasChoices
  | opt r => r.HasChoices
  | lazyMany r => r.HasChoices
  | notAhead r => r.HasChoices
  | capture r => r.HasChoices
  | _ => True

def ofItems (is : List Regex) : Regex := is.foldr cat empty

/-- The letters of a word, each as an item. -/
def letters (w : Text) : List Regex := w.map fun c => literal [c]

/-- The expression as a row of items, with rows inside its brackets. -/
def items : Regex → List Regex
  | empty => []
  | literal w => letters w
  | cat r s => r.items ++ s.items
  | opt r => [opt (ofItems r.items)]
  | lazyMany r => [lazyMany (ofItems r.items)]
  | notAhead r => [notAhead (ofItems r.items)]
  | capture r => [capture (ofItems r.items)]
  | r => [r]

theorem run_ofItems_singleton (r : Regex) : run (ofItems [r]) = run r := rfl

theorem run_ofItems_append (is js : List Regex) (c : Cursor) (k : Cursor → Option Cursor) :
    run (ofItems (is ++ js)) c k = run (ofItems is) c fun d => run (ofItems js) d k := by
  induction is generalizing c with
  | nil => rfl
  | cons r is ih =>
    change run r c (fun d => run (ofItems (is ++ js)) d k) = _
    simp only [ih]
    rfl

theorem run_ofItems_letters (w : Text) (c : Cursor) (k : Cursor → Option Cursor) :
    run (ofItems (letters w)) c k = runWord w c k := by
  induction w generalizing c with
  | nil => rfl
  | cons d w ih =>
    obtain ⟨rest, position, captured⟩ := c
    change runWord [d] _ (fun c => run (ofItems (letters w)) c k) = _
    simp only [ih]
    cases rest with
    | nil => rfl
    | cons e t =>
      rw [runWord_cons, runWord_cons]
      rfl

/-- The row matches what the expression matches, with the same captures. -/
theorem run_ofItems (r : Regex) : run (ofItems r.items) = run r := by
  induction r with
  | literal w => exact funext fun c => funext fun k => run_ofItems_letters w c k
  | cat r s ihr ihs =>
    funext c k
    rw [items, run_ofItems_append, ihr, ihs, run_cat]
  | opt r ih | lazyMany r ih | notAhead r ih | capture r ih =>
    funext c k
    simp only [items, run_ofItems_singleton, run, ih]
  | _ => rfl

/-- The number of captures. -/
def groups : Regex → Nat
  | cat r s => r.groups + s.groups
  | opt r => r.groups
  | lazyMany r => r.groups
  | notAhead r => r.groups
  | capture r => r.groups + 1
  | _ => 0

theorem groups_ofItems_append (is js : List Regex) :
    (ofItems (is ++ js)).groups = (ofItems is).groups + (ofItems js).groups := by
  induction is with
  | nil => exact (Nat.zero_add _).symm
  | cons r is ih =>
    change r.groups + (ofItems (is ++ js)).groups = r.groups + (ofItems is).groups + _
    rw [ih, Nat.add_assoc]

theorem groups_ofItems_letters (w : Text) : (ofItems (letters w)).groups = 0 := by
  induction w with
  | nil => rfl
  | cons c w ih => exact (Nat.zero_add _).trans ih

theorem groups_ofItems (r : Regex) : (ofItems r.items).groups = r.groups := by
  induction r with
  | literal w => exact groups_ofItems_letters w
  | cat r s ihr ihs => rw [items, groups_ofItems_append, ihr, ihs, groups]
  | opt r ih | lazyMany r ih | notAhead r ih => exact ih
  | capture r ih => exact congrArg (· + 1) ih
  | _ => rfl

/-! ### Reading the written form -/

/-- What an opening bracket begins. -/
inductive Bracket where
  | group
  | lookahead
  | capture

/-- What was read since a bracket was opened: the words in front of bars, and the items behind the
last bar. -/
structure Frame where
  bracket : Bracket
  words : List Text
  items : List Regex

namespace Frame

def opened (b : Bracket) : Frame := ⟨b, [], []⟩

def push (f : Frame) (is : List Regex) : Frame := { f with items := f.items ++ is }

/-- The word that the items spell. -/
def word (f : Frame) : Text :=
  f.items.flatMap fun r => match r with
    | literal w => w
    | _ => []

/-- The frame behind a bar. -/
def next (f : Frame) : Frame := ⟨f.bracket, f.words ++ [f.word], []⟩

/-- What the brackets hold if no repetition stands behind them. -/
def closed (f : Frame) : Regex :=
  match f.bracket with
  | .group => oneOf (f.words ++ [f.word])
  | .lookahead => notAhead (ofItems f.items)
  | .capture => Regex.capture (ofItems f.items)

theorem push_nil (f : Frame) : f.push [] = f := by simp [push]

theorem push_push (f : Frame) (is js : List Regex) : (f.push is).push js = f.push (is ++ js) := by
  simp [push]

theorem word_letters (b : Bracket) (us : List Text) (w : Text) :
    (push ⟨b, us, []⟩ (letters w)).word = w := by
  induction w with
  | nil => rfl
  | cons c w ih => exact congrArg (c :: ·) ih

end Frame

/-- Reads a written form into the frame of the innermost bracket, inside the outer ones. -/
def read : Frame → List Frame → Text → List Regex
  | f, _, [] => f.items
  | f, outer, '\\' :: 's' :: '+' :: t => read (f.push [blanks]) outer t
  | f, outer, '\\' :: c :: t => read (f.push [literal [c]]) outer t
  | f, outer, '[' :: '\\' :: 'w' :: '\x27' :: '-' :: ']' :: '+' :: t => read (f.push [name]) outer t
  | f, outer, '[' :: '\\' :: 'w' :: '\x27' :: '-' :: ']' :: t => read (f.push [nameChar]) outer t
  | f, outer, '.' :: '+' :: '?' :: t => read (f.push [anything]) outer t
  | f, outer, '|' :: t => read f.next outer t
  -- what stands behind an opening bracket tells what it begins
  | f, outer, '(' :: '?' :: ':' :: t => read (.opened .group) (f :: outer) t
  | f, outer, '(' :: '?' :: '!' :: t => read (.opened .lookahead) (f :: outer) t
  | f, outer, '(' :: t => read (.opened .capture) (f :: outer) t
  | f, g :: outer, ')' :: '?' :: t => read (g.push [opt (ofItems f.items)]) outer t
  | f, g :: outer, ')' :: '*' :: '?' :: t => read (g.push [lazyMany (ofItems f.items)]) outer t
  | f, g :: outer, ')' :: t => read (g.push [f.closed]) outer t
  | f, outer, c :: t => read (f.push [literal [c]]) outer t

/-- Whether the text does not begin with a sign of repetition. -/
def Unrepeated (t : Text) : Prop := ∀ c ∈ t.head?, c ≠ '?' ∧ c ≠ '*' ∧ c ≠ '+'

theorem unrepeated_nil : Unrepeated [] := fun _ none => by cases none

theorem unrepeated_cons (c : Char) (t : Text) (other : c ≠ '?' ∧ c ≠ '*' ∧ c ≠ '+') :
    Unrepeated (c :: t) := by
  intro d first
  obtain rfl : c = d := Option.some.inj first
  exact other

theorem unrepeated_close (t : Text) : Unrepeated (')' :: t) := unrepeated_cons _ _ (by decide)

theorem escape_cons (c : Char) (w : Text) :
    escape (c :: w) = (if isSpecial c then ['\\', c] else [c]) ++ escape w := rfl

/-- No expression is written with a sign of repetition in front. -/
theorem unrepeated_source (r : Regex) (t : Text) (behind : Unrepeated t) :
    Unrepeated (r.source ++ t) := by
  induction r generalizing t with
  | empty => exact behind
  | literal w =>
    cases w with
    | nil => exact behind
    | cons c w =>
      change Unrepeated (escape (c :: w) ++ t)
      rw [escape_cons]
      split
      · exact unrepeated_cons _ _ (by decide)
      next plain =>
        refine unrepeated_cons _ _ ⟨?_, ?_, ?_⟩ <;> rintro rfl <;> exact plain rfl
  | cat r s ihr ihs =>
    change Unrepeated (r.source ++ s.source ++ t)
    rw [List.append_assoc]
    exact ihr _ (ihs t behind)
  | _ => exact unrepeated_cons _ _ (by decide)

section

variable (f : Frame) (outer : List Frame)

theorem read_letter (c : Char) (t : Text) :
    read f outer (escape [c] ++ t) = read (f.push [literal [c]]) outer t := by
  cases special : isSpecial c with
  | true =>
    simp only [isSpecial, List.contains_cons, Bool.or_eq_true, beq_iff_eq, List.contains_nil,
      Bool.false_eq_true, or_false] at special
    rcases special with rfl | rfl | rfl | rfl | rfl | rfl | rfl | rfl | rfl | rfl | rfl | rfl |
      rfl | rfl | rfl | rfl | rfl | rfl | rfl | rfl | rfl | rfl | rfl | rfl <;> rfl
  | false =>
    -- a character without a backslash is a letter unless it is one of the special ones
    have written : escape [c] = [c] := by simp [escape, special]
    rw [written, List.singleton_append, read]
    all_goals
      intros
      subst_vars
      cases special

theorem read_escape (w t : Text) :
    read f outer (escape w ++ t) = read (f.push (letters w)) outer t := by
  induction w generalizing f with
  | nil => exact congrArg (read · outer t) f.push_nil.symm
  | cons c w ih =>
    have split : escape (c :: w) ++ t = escape [c] ++ (escape w ++ t) := by simp [escape]
    calc read f outer (escape (c :: w) ++ t)
        = read f outer (escape [c] ++ (escape w ++ t)) := congrArg _ split
      _ = read (f.push [literal [c]]) outer (escape w ++ t) := read_letter f outer c _
      _ = read ((f.push [literal [c]]).push (letters w)) outer t := ih _
      _ = read (f.push (letters (c :: w))) outer t := congrArg (read · outer t) (f.push_push _ _)

theorem read_close (g : Frame) (t : Text) (plain : Unrepeated t) :
    read f (g :: outer) (')' :: t) = read (g.push [f.closed]) outer t := by
  cases t with
  | nil => rfl
  | cons c t =>
    obtain ⟨question, star, -⟩ := plain c rfl
    rw [read]
    · rintro u same
      exact question (List.cons.inj same).1
    · rintro u same
      exact star (List.cons.inj same).1

theorem read_open (t : Text) (plain : Unrepeated t) :
    read f outer ('(' :: t) = read (.opened .capture) (f :: outer) t := by
  cases t with
  | nil => rfl
  | cons c t =>
    obtain ⟨question, -, -⟩ := plain c rfl
    rw [read]
    all_goals
      rintro u same
      exact question (List.cons.inj same).1

/-- Behind a bracket that opens a choice, the words up to the closing bracket are one item. -/
theorem read_words (us : List Text) (w : Text) (ws : List Text) (t : Text) (plain : Unrepeated t) :
    read ⟨.group, us, []⟩ (f :: outer) (Text.join ['|'] ((w :: ws).map escape) ++ ')' :: t) =
      read (f.push [oneOf (us ++ w :: ws)]) outer t := by
  have word (us : List Text) (w : Text) := Frame.word_letters .group us w
  induction ws generalizing us w with
  | nil =>
    calc read ⟨.group, us, []⟩ (f :: outer) (escape w ++ ')' :: t)
        = read (Frame.push ⟨.group, us, []⟩ (letters w)) (f :: outer) (')' :: t) :=
          read_escape _ _ w _
      _ = read (f.push [(Frame.push ⟨.group, us, []⟩ (letters w)).closed]) outer t :=
          read_close _ outer f t plain
      _ = read (f.push [oneOf (us ++ [w])]) outer t :=
          congrArg (fun v => read (f.push [oneOf (us ++ [v])]) outer t) (word us w)
  | cons v ws ih =>
    have written : Text.join ['|'] ((w :: v :: ws).map escape) ++ ')' :: t =
        escape w ++ '|' :: (Text.join ['|'] ((v :: ws).map escape) ++ ')' :: t) := by
      simp [Text.join]
    have rest := ih (us ++ [w]) v
    rw [List.append_assoc, List.singleton_append] at rest
    rw [written, read_escape _ _ w, ← rest]
    exact congrArg (fun x => read ⟨.group, us ++ [x], []⟩ (f :: outer) _) (word us w)

theorem append_brackets (front body back t : Text) :
    front ++ body ++ back ++ t = front ++ (body ++ (back ++ t)) := by
  rw [List.append_assoc, List.append_assoc]

/-- The written form of an expression is read as its items, and then what stands behind it. -/
theorem read_source (r : Regex) (t : Text) (choices : r.HasChoices) (plain : Unrepeated t) :
    read f outer (r.source ++ t) = read (f.push r.items) outer t := by
  -- in brackets the induction hypothesis is about a new frame, which the last bracket closes
  induction r generalizing f outer t with
  | empty => exact congrArg (read · outer t) f.push_nil.symm
  | literal w => exact read_escape f outer w t
  | oneOf ws =>
    obtain ⟨w, ws, rfl⟩ := List.exists_cons_of_ne_nil choices
    exact (congrArg (read f outer) (append_brackets _ _ _ t)).trans
      (read_words f outer [] w ws t plain)
  | nameChar =>
    cases t with
    | nil => rfl
    | cons c t =>
      obtain ⟨-, -, plus⟩ := plain c rfl
      change read f outer ('[' :: '\\' :: 'w' :: '\x27' :: '-' :: ']' :: c :: t) = _
      rw [read]
      · rfl
      · intro u same
        exact plus (List.cons.inj same).1
  | cat r s ihr ihs =>
    obtain ⟨first, second⟩ := choices
    calc read f outer ((cat r s).source ++ t)
        = read f outer (r.source ++ (s.source ++ t)) := congrArg _ (List.append_assoc _ _ t)
      _ = read (f.push r.items) outer (s.source ++ t) :=
          ihr f outer _ first (unrepeated_source s t plain)
      _ = read ((f.push r.items).push s.items) outer t := ihs _ outer t second plain
      _ = read (f.push (cat r s).items) outer t := congrArg (read · outer t) (f.push_push _ _)
  | opt r ih =>
    exact (congrArg (read f outer) (append_brackets _ _ _ t)).trans
      (ih (.opened .group) (f :: outer) (')' :: '?' :: t) choices (unrepeated_close _))
  | lazyMany r ih =>
    exact (congrArg (read f outer) (append_brackets _ _ _ t)).trans
      (ih (.opened .group) (f :: outer) (')' :: '*' :: '?' :: t) choices (unrepeated_close _))
  | notAhead r ih =>
    calc read f outer ((notAhead r).source ++ t)
        = read (.opened .lookahead) (f :: outer) (r.source ++ ')' :: t) :=
          congrArg (read f outer) (append_brackets _ _ _ t)
      _ = read (Frame.push (.opened .lookahead) r.items) (f :: outer) (')' :: t) :=
          ih _ _ _ choices (unrepeated_close t)
      _ = read (f.push (notAhead r).items) outer t := read_close _ outer f t plain
  | capture r ih =>
    calc read f outer ((capture r).source ++ t)
        = read f outer ('(' :: (r.source ++ ')' :: t)) :=
          congrArg (fun u => read f outer ('(' :: u)) (List.append_assoc r.source _ t)
      _ = read (.opened .capture) (f :: outer) (r.source ++ ')' :: t) :=
          read_open f outer _ (unrepeated_source r _ (unrepeated_close t))
      _ = read (Frame.push (.opened .capture) r.items) (f :: outer) (')' :: t) :=
          ih _ _ _ choices (unrepeated_close t)
      _ = read (f.push (capture r).items) outer t := read_close _ outer f t plain
  | _ => rfl

end

theorem items_eq_of_source_eq (r r' : Regex) (choices : r.HasChoices) (choices' : r'.HasChoices)
    (same : r.source = r'.source) : r.items = r'.items := by
  have back (s : Regex) (choices : s.HasChoices) : read (.opened .group) [] s.source = s.items := by
    have whole := read_source (.opened .group) [] s [] choices unrepeated_nil
    rwa [List.append_nil] at whole
  rw [← back r choices, same, back r' choices']

/-- The written form determines what an expression matches and captures. -/
theorem run_eq_of_source_eq (r r' : Regex) (choices : r.HasChoices) (choices' : r'.HasChoices)
    (same : r.source = r'.source) : run r = run r' := by
  rw [← run_ofItems r, items_eq_of_source_eq r r' choices choices' same, run_ofItems]

theorem groups_eq_of_source_eq (r r' : Regex) (choices : r.HasChoices) (choices' : r'.HasChoices)
    (same : r.source = r'.source) : r.groups = r'.groups := by
  rw [← groups_ofItems r, items_eq_of_source_eq r r' choices choices' same, groups_ofItems]

end TextAdventure.Regex
