import TextAdventure.Proofs.Pattern.Expression
import TextAdventure.Proofs.Pattern.RoundTrip

/-!
Shapes of patterns. What the expression of a pattern keeps of it is its shape: the words as they are
spelled, each alternative once, without the names of the slots. Patterns of one shape have one
expression (`Pattern.regex_congr`). Conversely the shape can be read off the row of items that the
written form stands for: letters never run into what stands behind a word, so the first element can
be taken off the row, and what remains is the row of the others (`map_shape_of_items`). Hence two
patterns are written alike exactly if they have one shape (`Pattern.source_eq_iff`).
-/
namespace TextAdventure

open Regex (letters ofItems)

/-! ### Lists without repetitions -/

section

variable {α β : Type} [BEq α] [LawfulBEq α]

theorem eraseDups_filter (keep : α → Bool) (as : List α) :
    (as.filter keep).eraseDups = as.eraseDups.filter keep := by
  cases as with
  | nil => rfl
  | cons a as =>
    have rest := eraseDups_filter keep (as.filter fun b => !b == a)
    rw [List.filter_filter] at rest
    rw [List.eraseDups_cons, List.filter_cons, List.filter_cons, ← rest]
    split
    next kept =>
      rw [List.eraseDups_cons, List.filter_filter]
      simp only [Bool.and_comm]
    next dropped =>
      -- an item that is not kept is not among those that are
      refine congrArg List.eraseDups (List.filter_congr fun b _ => ?_)
      cases same : b == a with
      | true => simp [eq_of_beq same, dropped]
      | false => simp
termination_by as.length
decreasing_by exact Nat.lt_succ_of_le (List.length_filter_le _ _)

theorem eraseDups_eraseDups (as : List α) : as.eraseDups.eraseDups = as.eraseDups := by
  cases as with
  | nil => rfl
  | cons a as =>
    have rest := eraseDups_eraseDups (as.filter fun b => !b == a)
    rw [List.eraseDups_cons, List.eraseDups_cons, ← eraseDups_filter, List.filter_filter]
    simp only [Bool.and_self, rest]
termination_by as.length
decreasing_by exact Nat.lt_succ_of_le (List.length_filter_le _ _)

theorem eraseDups_append_congr (as as' bs bs' : List α) (front : as.eraseDups = as'.eraseDups)
    (behind : bs.eraseDups = bs'.eraseDups) :
    (as ++ bs).eraseDups = (as' ++ bs').eraseDups := by
  have members (b : α) : as.elem b = as'.elem b := by
    rw [Bool.eq_iff_iff, List.elem_iff, List.elem_iff, ← List.mem_eraseDups, front,
      List.mem_eraseDups]
  simp only [List.eraseDups_append, List.removeAll, eraseDups_filter, front, behind, members]

theorem eraseDups_flatMap_congr (f g : β → List α) (xs : List β)
    (same : ∀ x ∈ xs, (f x).eraseDups = (g x).eraseDups) :
    (xs.flatMap f).eraseDups = (xs.flatMap g).eraseDups := by
  induction xs with
  | nil => rfl
  | cons x xs ih =>
    obtain ⟨first, rest⟩ := List.forall_mem_cons.mp same
    rw [List.flatMap_cons, List.flatMap_cons]
    exact eraseDups_append_congr _ _ _ _ first (ih rest)

end

/-! ### Shapes -/

/-- The words of the choice as they are spelled, each at the first place where it comes. -/
def Choice.shape (spell : Text → Text) (c : Choice) : Choice :=
  ⟨spell c.first, ((c.others.map spell).filter fun w => !w == spell c.first).eraseDups⟩

/-- The element with its words as they are spelled, and without the name of a slot. -/
def Element.shape (spell : Text → Text) : Element → Element
  | choice c => choice (c.shape spell)
  | optional c cs => optional (c.shape spell) (cs.map (Choice.shape spell))
  | capture _ => capture []
  | wildcard => wildcard

def Pattern.shape (p : Pattern) (spell : Text → Text) : List Element :=
  p.elements.map (Element.shape spell)

section

variable (spell : Text → Text)

theorem Choice.words_shape (c : Choice) :
    (c.shape spell).words = (c.words.map spell).eraseDups := by
  rw [words, words, List.map_cons, List.eraseDups_cons]
  rfl

theorem Choice.regex_shape (c : Choice) : (c.shape spell).regex id = c.regex spell := by
  rw [regex, regex, List.map_id, words_shape, eraseDups_eraseDups]

@[simp] theorem Element.isRequired_shape (e : Element) :
    (e.shape spell).isRequired = e.isRequired := by
  cases e <;> rfl

theorem any_isRequired_shape (es : List Element) :
    (es.map (Element.shape spell)).any Element.isRequired = es.any Element.isRequired := by
  simp [List.any_map, Function.comp_def]

/-! ### Patterns of one shape -/

theorem Element.eraseDups_words_shape (e : Element) :
    (e.words.map spell).eraseDups = (e.shape spell).words.eraseDups := by
  cases e with
  | choice c =>
    change (c.words.map spell).eraseDups = (c.shape spell).words.eraseDups
    rw [Choice.words_shape, eraseDups_eraseDups]
  | optional c cs =>
    change (((c :: cs).flatMap Choice.words).map spell).eraseDups =
      (((c :: cs).map (Choice.shape spell)).flatMap Choice.words).eraseDups
    rw [List.map_flatMap, List.flatMap_map]
    refine eraseDups_flatMap_congr _ _ _ fun d _ => ?_
    rw [Choice.words_shape, eraseDups_eraseDups]
  | capture name => rfl
  | wildcard => rfl

/-- The words that a capture may not take depend on the shapes of the elements in front of it. -/
theorem eraseDups_excludedWords (before : List Element) :
    ((excludedWords before).map spell).eraseDups =
      (excludedWords (before.map (Element.shape spell))).eraseDups := by
  have omitted : (fun e : Element => !e.isRequired) ∘ Element.shape spell =
      fun e => !e.isRequired := by
    funext e
    simp
  unfold excludedWords
  rw [List.dropWhile_map, List.takeWhile_map, omitted]
  cases before.dropWhile fun e => !e.isRequired with
  | nil => rfl
  | cons e rest =>
    cases e with
    | capture name =>
      change (List.map spell (List.flatMap _ _)).eraseDups = (List.flatMap _ _).eraseDups
      rw [List.map_flatMap, List.flatMap_map]
      exact eraseDups_flatMap_congr _ _ _ fun e _ => e.eraseDups_words_shape spell
    | _ => rfl

theorem Regex.nameExcept_congr (us ws : List Text) (same : us.eraseDups = ws.eraseDups) :
    nameExcept us = nameExcept ws := by
  have empty (vs : List Text) : vs.isEmpty = vs.eraseDups.isEmpty := by
    cases vs with
    | nil => rfl
    | cons v vs => rw [List.eraseDups_cons, List.isEmpty_cons, List.isEmpty_cons]
  rw [nameExcept, nameExcept, empty us, empty ws, same]

theorem Element.regex_shape (before : List Element) (e : Element) :
    (e.shape spell).regex id (before.map (Element.shape spell)) = e.regex spell before := by
  cases e with
  | choice c => exact c.regex_shape spell
  | optional c cs =>
    change Regex.spaced (((c :: cs).map (Choice.shape spell)).map (Choice.regex id)) = _
    rw [List.map_map]
    exact congrArg Regex.spaced (List.map_congr_left fun d _ => d.regex_shape spell)
  | capture name =>
    have excluded := Regex.nameExcept_congr _ _ (eraseDups_excludedWords spell before)
    change Regex.phrase ((excludedWords (before.map (Element.shape spell))).map id) = _
    rw [List.map_id, Element.regex, Regex.phrase, Regex.phrase, excluded]
  | wildcard => rfl

/-- Elements are laid out as their shapes are without a spelling. -/
theorem layout_shape (before es : List Element) :
    layout id (before.map (Element.shape spell)) (es.map (Element.shape spell)) =
      layout spell before es := by
  induction es generalizing before with
  | nil => rfl
  | cons e es ih =>
    have rest := ih (e :: before)
    rw [List.map_cons] at rest
    rw [List.map_cons, layout, layout, rest]
    simp only [Element.regex_shape, any_isRequired_shape, Element.isRequired_shape]

end

/-- Patterns of one shape have one expression. -/
theorem Pattern.regex_congr (spell : Text → Text) (p p' : Pattern)
    (same : p.shape spell = p'.shape spell) : p.regex spell = p'.regex spell := by
  have compiled (q : Pattern) : q.regex spell = layout id [] (q.shape spell) :=
    (layout_shape spell [] q.elements).symm
  rw [compiled, compiled, same]

/-! ### Reading a shape off a row of items -/

namespace Regex

/-- Whether the row does not begin with a letter. -/
def Unlettered (is : List Regex) : Prop := ∀ r ∈ is.head?, ∀ w, r ≠ literal w

theorem unlettered_nil : Unlettered [] := fun _ none => by cases none

theorem unlettered_cons (r : Regex) (is : List Regex) (other : ∀ w, r ≠ literal w) :
    Unlettered (r :: is) := by
  intro q first
  obtain rfl : r = q := Option.some.inj first
  exact other

/-- In front of a row that does not begin with a letter, the letters are those of one word. -/
theorem letters_append_inj (w w' : Text) (is is' : List Regex) (plain : Unlettered is)
    (plain' : Unlettered is') (same : letters w ++ is = letters w' ++ is') : w = w' ∧ is = is' := by
  -- a longer word would go on with a letter where the other row has none
  induction w generalizing w' with
  | nil =>
    cases w' with
    | nil => exact ⟨rfl, same⟩
    | cons c w' =>
      change is = literal [c] :: _ at same
      subst same
      exact absurd rfl (plain (literal [c]) rfl [c])
  | cons c w ih =>
    cases w' with
    | nil =>
      change literal [c] :: _ = is' at same
      subst same
      exact absurd rfl (plain' (literal [c]) rfl [c])
    | cons c' w' =>
      obtain ⟨first, rest⟩ := List.cons.inj same
      obtain ⟨rfl, behind⟩ := ih w' rest
      cases first
      exact ⟨rfl, behind⟩

theorem ofItems_inj (is is' : List Regex) (same : ofItems is = ofItems is') : is = is' := by
  induction is generalizing is' with
  | nil =>
    cases is' with
    | nil => rfl
    | cons r is' => cases same
  | cons r is ih =>
    cases is' with
    | nil => cases same
    | cons r' is' =>
      obtain ⟨rfl, rest⟩ := cat.inj same
      rw [ih is' rest]

/-- The row of an element with its blanks, given whether something required stands in front of it
and whether it is required itself. -/
def framed (started required : Bool) (body : List Regex) : List Regex :=
  match started, required with
  | false, false => [opt (ofItems (body ++ [blanks]))]
  | false, true => body
  | true, true => blanks :: body
  | true, false => [opt (ofItems (blanks :: body))]

end Regex

open Regex (Unlettered framed unlettered_cons unlettered_nil)

section

variable (spell : Text → Text)

theorem items_layout_cons (before es : List Element) (e : Element) :
    (layout spell before (e :: es)).items =
      framed (before.any Element.isRequired) e.isRequired (e.regex spell before).items ++
        (layout spell (e :: before) es).items := by
  rw [layout]
  cases before.any Element.isRequired <;> cases e.isRequired <;> rfl

/-- Behind something required, each element begins with its blanks or its bracket. -/
theorem unlettered_layout (before es : List Element)
    (started : before.any Element.isRequired = true) :
    Unlettered (layout spell before es).items := by
  cases es with
  | nil => exact unlettered_nil
  | cons e es =>
    rw [items_layout_cons, started]
    cases e.isRequired <;> exact unlettered_cons _ _ (by simp)

/-! ### Choices -/

theorem Choice.regex_cases (c : Choice) :
    (c.shape spell = ⟨spell c.first, []⟩ ∧ c.regex spell = .literal (spell c.first)) ∨
      ∃ w ws, c.shape spell = ⟨spell c.first, w :: ws⟩ ∧
        c.regex spell = .oneOf (spell c.first :: w :: ws) := by
  have shape : c.shape spell = ⟨spell c.first, (c.shape spell).others⟩ := rfl
  rw [regex, ← c.words_shape spell]
  cases others : (c.shape spell).others with
  | nil =>
    rw [others] at shape
    exact .inl ⟨shape, by rw [shape]; rfl⟩
  | cons w ws =>
    rw [others] at shape
    exact .inr ⟨w, ws, shape, by rw [shape]; rfl⟩

/-- Whether the item is a letter or a choice between words. -/
def Regex.NamesWords : Regex → Prop
  | literal _ => True
  | oneOf _ => True
  | _ => False

theorem Choice.exists_items_cons (c : Choice) (named : spell c.first ≠ []) :
    ∃ r is, (c.regex spell).items = r :: is ∧ r.NamesWords := by
  rcases c.regex_cases spell with ⟨-, regex⟩ | ⟨v, vs, -, regex⟩
  · obtain ⟨d, w, first⟩ := List.exists_cons_of_ne_nil named
    rw [regex, first]
    exact ⟨.literal [d], letters w, rfl, trivial⟩
  · rw [regex]
    exact ⟨_, [], rfl, trivial⟩

/-- The row of a choice begins with words, and so with none of the other items. -/
theorem Choice.items_append_ne_cons (c : Choice) (q : Regex) (js ks : List Regex)
    (named : spell c.first ≠ []) (other : ¬q.NamesWords) :
    (c.regex spell).items ++ js ≠ q :: ks := by
  obtain ⟨r, is, row, words⟩ := c.exists_items_cons spell named
  rw [row]
  intro same
  exact other ((List.cons.inj same).1 ▸ words)

theorem Choice.items_append_inj (c c' : Choice) (is is' : List Regex)
    (named : spell c.first ≠ []) (named' : spell c'.first ≠ []) (plain : Unlettered is)
    (plain' : Unlettered is')
    (same : (c.regex spell).items ++ is = (c'.regex spell).items ++ is') :
    c.shape spell = c'.shape spell ∧ is = is' := by
  obtain ⟨d, w, first⟩ := List.exists_cons_of_ne_nil named
  obtain ⟨d', w', first'⟩ := List.exists_cons_of_ne_nil named'
  rcases c.regex_cases spell with ⟨shape, regex⟩ | ⟨v, vs, shape, regex⟩ <;>
    rcases c'.regex_cases spell with ⟨shape', regex'⟩ | ⟨v', vs', shape', regex'⟩ <;>
    rw [regex, regex'] at same <;> rw [shape, shape']
  · obtain ⟨word, behind⟩ := Regex.letters_append_inj _ _ is is' plain plain' same
    exact ⟨by rw [word], behind⟩
  · -- a word begins with a letter, a choice between words does not
    rw [first] at same
    cases (List.cons.inj same).1
  · rw [first'] at same
    cases (List.cons.inj same).1
  · obtain ⟨words, behind⟩ := List.cons.inj same
    obtain ⟨one, others⟩ := List.cons.inj (Regex.oneOf.inj words)
    exact ⟨by rw [one, others], behind⟩

/-- The rows of choices, each with its blanks in front. -/
def spacedItems (cs : List Choice) : List Regex :=
  cs.flatMap fun c => .blanks :: (c.regex spell).items

theorem unlettered_spacedItems (cs : List Choice) : Unlettered (spacedItems spell cs) := by
  cases cs with
  | nil => exact unlettered_nil
  | cons c cs => exact unlettered_cons _ _ (by simp)

theorem items_spaced (c : Choice) (cs : List Choice) :
    (Regex.spaced ((c :: cs).map (Choice.regex spell))).items =
      (c.regex spell).items ++ spacedItems spell cs := by
  induction cs generalizing c with
  | nil => exact (List.append_nil _).symm
  | cons d cs ih =>
    have rest := ih d
    change (c.regex spell).items ++ (.blanks :: (Regex.spaced ((d :: cs).map _)).items) = _
    rw [rest]
    rfl

theorem spacedItems_inj (cs cs' : List Choice) (named : ∀ c ∈ cs, spell c.first ≠ [])
    (named' : ∀ c ∈ cs', spell c.first ≠ [])
    (same : spacedItems spell cs = spacedItems spell cs') :
    cs.map (Choice.shape spell) = cs'.map (Choice.shape spell) := by
  induction cs generalizing cs' with
  | nil =>
    cases cs' with
    | nil => rfl
    | cons c' cs' => cases same
  | cons c cs ih =>
    cases cs' with
    | nil => cases same
    | cons c' cs' =>
      obtain ⟨first, rest⟩ := List.forall_mem_cons.mp named
      obtain ⟨first', rest'⟩ := List.forall_mem_cons.mp named'
      have items := (List.cons.inj same).2
      obtain ⟨shape, behind⟩ := c.items_append_inj spell c' _ _ first first'
        (unlettered_spacedItems spell cs) (unlettered_spacedItems spell cs') items
      rw [List.map_cons, List.map_cons, shape, ih cs' rest rest' behind]

/-! ### Elements -/

/-- Whether the words of the element are spelled with some letters. -/
def Element.IsSpelled (e : Element) : Prop := ∀ w ∈ e.words, spell w ≠ []

theorem Element.IsSpelled.first (c : Choice) (cs : List Choice)
    (spelled : (optional c cs).IsSpelled spell) : ∀ d ∈ c :: cs, spell d.first ≠ [] :=
  fun d member => spelled d.first (List.mem_flatMap.mpr ⟨d, member, List.mem_cons_self⟩)

/-- What is required begins neither with blanks nor with a bracket that may be left out. -/
theorem Element.exists_items_cons (before : List Element) (e : Element)
    (spelled : e.IsSpelled spell) (required : e.isRequired = true) :
    ∃ r is, (e.regex spell before).items = r :: is ∧ r ≠ .blanks ∧ ∀ s, r ≠ .opt s := by
  cases e with
  | choice c =>
    obtain ⟨r, is, row, words⟩ := c.exists_items_cons spell (spelled c.first List.mem_cons_self)
    exact ⟨r, is, row, by rintro rfl; exact words, by rintro s rfl; exact words⟩
  | capture name => exact ⟨_, [], rfl, by simp, by simp⟩
  | optional c cs => cases required
  | wildcard => cases required

/-- The row of a required element determines its shape, and can be told from what stands behind. -/
theorem Element.items_append_inj (before before' : List Element) (e e' : Element)
    (is is' : List Regex) (spelled : e.IsSpelled spell) (spelled' : e'.IsSpelled spell)
    (required : e.isRequired = true) (required' : e'.isRequired = true) (plain : Unlettered is)
    (plain' : Unlettered is')
    (same : (e.regex spell before).items ++ is = (e'.regex spell before').items ++ is') :
    e.shape spell = e'.shape spell ∧ is = is' := by
  cases e with
  | choice c =>
    have named := spelled c.first List.mem_cons_self
    cases e' with
    | choice c' =>
      have named' := spelled' c'.first List.mem_cons_self
      obtain ⟨shape, behind⟩ := c.items_append_inj spell c' is is' named named' plain plain' same
      exact ⟨congrArg Element.choice shape, behind⟩
    | capture name =>
      -- a choice begins with words and a capture does not
      exact absurd same (c.items_append_ne_cons spell _ is is' named id)
    | optional | wildcard => cases required'
  | capture name =>
    cases e' with
    | choice c' =>
      have named' := spelled' c'.first List.mem_cons_self
      exact absurd same.symm (c'.items_append_ne_cons spell _ is' is named' id)
    | capture name' => exact ⟨rfl, (List.cons.inj same).2⟩
    | optional | wildcard => cases required'
  | optional | wildcard => cases required

/-- The row of an element that may be left out determines its shape. -/
theorem Element.items_inj (before before' : List Element) (e e' : Element)
    (spelled : e.IsSpelled spell) (spelled' : e'.IsSpelled spell)
    (omitted : e.isRequired = false) (omitted' : e'.isRequired = false)
    (same : (e.regex spell before).items = (e'.regex spell before').items) :
    e.shape spell = e'.shape spell := by
  have row (c : Choice) (cs : List Choice) (before : List Element) :
      ((optional c cs).regex spell before).items =
        (c.regex spell).items ++ spacedItems spell cs := items_spaced spell c cs
  cases e with
  | optional c cs =>
    obtain ⟨first, rest⟩ := List.forall_mem_cons.mp (spelled.first spell c cs)
    rw [row] at same
    cases e' with
    | optional c' cs' =>
      obtain ⟨first', rest'⟩ := List.forall_mem_cons.mp (spelled'.first spell c' cs')
      rw [row] at same
      obtain ⟨shape, behind⟩ := c.items_append_inj spell c' _ _ first first'
        (unlettered_spacedItems spell cs) (unlettered_spacedItems spell cs') same
      have shapes := spacedItems_inj spell cs cs' rest rest' behind
      exact congrArg₂ Element.optional shape shapes
    | wildcard =>
      -- an optional phrase begins with words and a wildcard does not
      exact absurd same (c.items_append_ne_cons spell _ _ [] first id)
    | choice | capture => cases omitted'
  | wildcard =>
    cases e' with
    | optional c' cs' =>
      obtain ⟨first', -⟩ := List.forall_mem_cons.mp (spelled'.first spell c' cs')
      rw [row] at same
      exact absurd same.symm (c'.items_append_ne_cons spell _ _ [] first' id)
    | wildcard => rfl
    | choice | capture => cases omitted'
  | choice | capture => cases omitted

/-! ### Rows of elements -/

/-- Where two rows begin alike, the elements that they begin with have one shape. -/
theorem Element.framed_append_inj (started : Bool) (before before' : List Element)
    (e e' : Element) (is is' : List Regex) (spelled : e.IsSpelled spell)
    (spelled' : e'.IsSpelled spell) (plain : e.isRequired = true → Unlettered is)
    (plain' : e'.isRequired = true → Unlettered is')
    (same : framed started e.isRequired (e.regex spell before).items ++ is =
      framed started e'.isRequired (e'.regex spell before').items ++ is') :
    e.shape spell = e'.shape spell ∧ is = is' := by
  -- an element that is required is not taken for one with a bracket of its own
  have apart (d : Element) (front : List Element) (js ks : List Regex) (q : Regex)
      (named : d.IsSpelled spell) (required : d.isRequired = true)
      (mixed : framed started true (d.regex spell front).items ++ js = .opt q :: ks) : False := by
    obtain ⟨r, rs, row, -, other⟩ := d.exists_items_cons spell front named required
    cases started with
    | true => cases (List.cons.inj mixed).1
    | false =>
      rw [framed, row] at mixed
      exact other q (List.cons.inj mixed).1
  cases required : e.isRequired with
  | true =>
    cases required' : e'.isRequired with
    | true =>
      have items : (e.regex spell before).items ++ is = (e'.regex spell before').items ++ is' := by
        rw [required, required'] at same
        cases started with
        | true => exact (List.cons.inj same).2
        | false => exact same
      exact e.items_append_inj spell before before' e' is is' spelled spelled' required required'
        (plain required) (plain' required') items
    | false =>
      rw [required, required'] at same
      cases started <;> exact (apart e before is is' _ spelled required same).elim
  | false =>
    cases required' : e'.isRequired with
    | true =>
      rw [required, required'] at same
      cases started <;> exact (apart e' before' is' is _ spelled' required' same.symm).elim
    | false =>
      rw [required, required'] at same
      have items : (e.regex spell before).items = (e'.regex spell before').items := by
        cases started with
        | true =>
          have row := Regex.ofItems_inj _ _ (Regex.opt.inj (List.cons.inj same).1)
          exact (List.cons.inj row).2
        | false =>
          have row := Regex.ofItems_inj _ _ (Regex.opt.inj (List.cons.inj same).1)
          exact List.append_cancel_right row
      have behind : is = is' := by cases started <;> exact (List.cons.inj same).2
      exact ⟨e.items_inj spell before before' e' spelled spelled' required required' items, behind⟩

theorem items_layout_cons_ne_nil (before es : List Element) (e : Element)
    (spelled : e.IsSpelled spell) : (layout spell before (e :: es)).items ≠ [] := by
  rw [items_layout_cons]
  apply List.append_ne_nil_of_left_ne_nil
  cases required : e.isRequired with
  | true =>
    obtain ⟨r, is, row, -⟩ := e.exists_items_cons spell before spelled required
    rw [row]
    cases before.any Element.isRequired <;> exact List.cons_ne_nil _ _
  | false => cases before.any Element.isRequired <;> exact List.cons_ne_nil _ _

/-- Rows of elements that have one row of items have one shape. -/
theorem map_shape_of_items (before before' es es' : List Element)
    (started : before.any Element.isRequired = before'.any Element.isRequired)
    (spelled : ∀ e ∈ es, e.IsSpelled spell) (spelled' : ∀ e ∈ es', e.IsSpelled spell)
    (same : (layout spell before es).items = (layout spell before' es').items) :
    es.map (Element.shape spell) = es'.map (Element.shape spell) := by
  induction es generalizing before before' es' with
  | nil =>
    cases es' with
    | nil => rfl
    | cons e' es' =>
      obtain ⟨first', -⟩ := List.forall_mem_cons.mp spelled'
      exact absurd same.symm (items_layout_cons_ne_nil spell before' es' e' first')
  | cons e es ih =>
    obtain ⟨first, rest⟩ := List.forall_mem_cons.mp spelled
    cases es' with
    | nil => exact absurd same (items_layout_cons_ne_nil spell before es e first)
    | cons e' es' =>
      obtain ⟨first', rest'⟩ := List.forall_mem_cons.mp spelled'
      -- behind a required element the next one begins with its blanks or its bracket
      have plain (d : Element) (front later : List Element) (required : d.isRequired = true) :
          Unlettered (layout spell (d :: front) later).items :=
        unlettered_layout spell (d :: front) later (by rw [List.any_cons, required, Bool.true_or])
      rw [items_layout_cons, items_layout_cons, ← started] at same
      obtain ⟨shape, behind⟩ := e.framed_append_inj spell _ before before' e' _ _ first first'
        (plain e before es) (plain e' before' es') same
      have required : e.isRequired = e'.isRequired := by
        rw [← e.isRequired_shape spell, shape, e'.isRequired_shape]
      have front : (e :: before).any Element.isRequired = (e' :: before').any Element.isRequired := by
        rw [List.any_cons, List.any_cons, required, started]
      rw [List.map_cons, List.map_cons, shape, ih _ _ es' front rest rest' behind]

end

/-- Well-formed patterns are written alike if and only if they have one shape, in every spelling
that leaves no word of them empty. -/
theorem Pattern.source_eq_iff (spell : Text → Text) (p p' : Pattern)
    (spelled : ∀ e ∈ p.elements, e.IsSpelled spell)
    (spelled' : ∀ e ∈ p'.elements, e.IsSpelled spell) :
    (p.regex spell).source = (p'.regex spell).source ↔ p.shape spell = p'.shape spell := by
  constructor
  · intro same
    exact map_shape_of_items spell [] [] _ _ rfl spelled spelled'
      (Regex.items_eq_of_source_eq _ _ (hasChoices_layout spell [] _) (hasChoices_layout spell [] _)
        same)
  · exact fun same => congrArg Regex.source (regex_congr spell p p' same)

end TextAdventure
