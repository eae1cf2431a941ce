import TextAdventure.Interpreter
import TextAdventure.Proofs.Except
import TextAdventure.Proofs.Lexicon.Lookup
import TextAdventure.Proofs.Pattern.Matching
import TextAdventure.Proofs.Pattern.Spelling

/-!
Rulebooks bound to a lexicon. A bound rulebook holds rules that were read from their sources and
spelled under the lexicon, and every way to make an interpreter gives one with a bound rulebook.
The words of such rules are spelled as words if the lexicon's canonical forms are solid, which
is all that matching asks of a spelling.
-/
namespace TextAdventure

open Text (IsWord)

structure Rulebook.IsBoundTo (b : Rulebook) (l : Lexicon) : Prop where
  lexicon_eq : b.lexicon = some l
  compiled : ∀ r ∈ b.rules, Rule.compile l.canonicalWord r.source = .ok r

/-- Whether the rules of the interpreter follow its lexicon. -/
def Interpreter.IsBound (i : Interpreter) : Prop := i.rulebook.IsBoundTo i.lexicon

/-! ### Compiled rules -/

theorem Rule.compile_bind (spell spell' : Text → Text) (r : Rule)
    (compiled : Rule.compile spell r.source = .ok r) :
    Rule.compile spell' r.source = .ok (r.bind spell') := by
  obtain ⟨parsed, -, -⟩ := (Rule.compile_eq_ok spell r.source r).mp compiled
  exact (Rule.compile_eq_ok spell' r.source _).mpr ⟨parsed, rfl, rfl⟩

theorem Rulebook.compiled_of_compileFrom (spell : Text → Text) (index : Nat)
    (sources : List RuleSource) (rules : List Rule)
    (built : compileFrom spell index sources = .ok rules) :
    ∀ r ∈ rules, Rule.compile spell r.source = .ok r := by
  induction sources generalizing index rules with
  | nil =>
    cases built
    exact List.forall_mem_nil _
  | cons s ss ih =>
    unfold compileFrom at built
    split at built
    · cases built
    next r compiled =>
      obtain ⟨rest, builtRest, last⟩ := (bind_eq_ok _ _ _).mp built
      cases last
      obtain ⟨-, source, -⟩ := (Rule.compile_eq_ok spell s r).mp compiled
      exact List.forall_mem_cons.mpr ⟨source ▸ compiled, ih (index + 1) rest builtRest⟩

/-! ### Bound rulebooks -/

namespace Rulebook

theorem eq_of_checked (b b' : Rulebook) (strict : Bool) (passed : b.checked strict = .ok b') :
    b' = b := by
  unfold checked at passed
  split at passed
  · split at passed
    · cases passed
    · cases passed
    · cases passed
      rfl
  · cases passed
    rfl

theorem isBoundTo_of_build (sources : List RuleSource) (l : Lexicon) (strict : Bool) (b : Rulebook)
    (built : build sources (some l) strict = .ok b) : b.IsBoundTo l := by
  obtain ⟨rules, compiled, passed⟩ := (bind_eq_ok _ _ _).mp built
  obtain rfl := eq_of_checked _ b strict passed
  exact ⟨rfl, compiled_of_compileFrom _ 0 sources rules compiled⟩

theorem isBoundTo_bind (b : Rulebook) (l : Lexicon)
    (compiled : ∀ r ∈ b.rules, ∃ spell, Rule.compile spell r.source = .ok r) :
    (b.bind l).IsBoundTo l := by
  refine ⟨rfl, fun r member => ?_⟩
  obtain ⟨q, source, rfl⟩ := List.mem_map.mp member
  obtain ⟨spell, compiled⟩ := compiled q source
  exact Rule.compile_bind spell l.canonicalWord q compiled

theorem isBoundTo_of_extended (b b' : Rulebook) (l : Lexicon) (sources : List RuleSource)
    (strict : Bool) (bound : b.IsBoundTo l) (built : b.extended sources strict = .ok b') :
    b'.IsBoundTo l := by
  obtain ⟨e, joined, rfl⟩ := (map_eq_ok _ _ _).mp built
  obtain ⟨added, builtAdded, checked⟩ := (bind_eq_ok _ _ _).mp joined
  obtain ⟨whole, passed, last⟩ := (bind_eq_ok _ _ _).mp checked
  cases last
  obtain rfl := eq_of_checked _ whole strict passed
  -- the added rules are built for the lexicon that the rulebook has
  rw [bound.lexicon_eq] at builtAdded
  have further := (isBoundTo_of_build sources l strict added builtAdded).compiled
  exact ⟨bound.lexicon_eq, List.forall_mem_append.mpr ⟨bound.compiled, further⟩⟩

theorem IsBoundTo.spelledAsWords (b : Rulebook) (l : Lexicon) (bound : b.IsBoundTo l)
    (solid : l.HasSolidForms) (r : Rule) (member : r ∈ b.rules) :
    SpelledAsWords l.canonicalWord r.pattern.elements := by
  obtain ⟨parsed, -, -⟩ := (Rule.compile_eq_ok _ _ r).mp (bound.compiled r member)
  intro e inPattern w inElement
  exact l.isWord_canonicalWord solid w (Pattern.isWord_of_parse _ _ parsed e inPattern w inElement)

end Rulebook

/-! ### Bound interpreters -/

namespace Interpreter

theorem isBound_ofRulebook (l : Lexicon) (b : Rulebook) (stripFillers : Bool)
    (compiled : ∀ r ∈ b.rules, ∃ spell, Rule.compile spell r.source = .ok r) :
    (ofRulebook l b stripFillers).IsBound := b.isBoundTo_bind l compiled

theorem isBound_of_ofSources (l : Lexicon) (sources : List RuleSource) (stripFillers strict : Bool)
    (i : Interpreter) (made : ofSources l sources stripFillers strict = .ok i) : i.IsBound := by
  obtain ⟨b, built, last⟩ := (bind_eq_ok _ _ _).mp made
  cases last
  exact Rulebook.isBoundTo_of_build sources l strict b built

theorem isBound_of_extended (i j : Interpreter) (sources : List RuleSource) (strict : Bool)
    (bound : i.IsBound) (made : i.extended sources strict = .ok j) : j.IsBound := by
  obtain ⟨b, built, last⟩ := (bind_eq_ok _ _ _).mp made
  cases last
  exact Rulebook.isBoundTo_of_extended i.rulebook b i.lexicon sources strict bound built

end Interpreter

/-! ### Searching a rulebook -/

namespace Rulebook

/-- What is found is one of the rules, with the spans at which it fits, and it is acceptable. -/
theorem find?_spec (b : Rulebook) (t : Text) (accept : Found → Bool) (f : Found)
    (found : b.find? t accept = some f) : f.rule ∈ b.rules ∧ f.rule.spans? t = some f.spans ∧
      f.captures = Rule.phrasesAt t f.spans ∧ accept f = true := by
  obtain ⟨⟨r, n⟩, member, chosen⟩ := List.exists_of_findSome?_eq_some found
  obtain ⟨fits, accepted⟩ := Option.filter_eq_some_iff.mp chosen
  obtain ⟨spans, taken, rfl⟩ := Option.map_eq_some_iff.mp fits
  exact ⟨(List.mem_zipIdx' member).2 ▸ List.getElem_mem _, taken, rfl, accepted⟩

end Rulebook

end TextAdventure
