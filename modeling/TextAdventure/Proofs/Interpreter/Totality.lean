import TextAdventure.Command
import TextAdventure.Explanation
import TextAdventure.Grammar.Interpreter
import TextAdventure.Proofs.Grammar.RoundTrip
import TextAdventure.Proofs.Interpreter.Probing
import TextAdventure.Proofs.Rulebook.Assembly

/-!
Nothing fails once a game is loaded. The patterns of a grammar are read with it, so its rules can be
built. After that the only steps that could go wrong are the search for a verb, which needs a word
in each expanded word, and the look-up of a message, which needs a template under its key; lines
come with the one and replies with the other, whatever the tables of the lexicon hold.
-/
namespace TextAdventure

/-! ### Loading -/

theorem Rulebook.exists_compiled (spell : Text → Text) (sources : List RuleSource)
    (readable : ∀ s ∈ sources, ∃ p, Pattern.parse s.pattern = .ok p) :
    ∃ rules, List.Forall₂ (fun s r => Rule.compile spell s = .ok r) sources rules := by
  induction sources with
  | nil => exact ⟨[], .nil⟩
  | cons s ss ih =>
    obtain ⟨⟨p, parsed⟩, later⟩ := List.forall_mem_cons.mp readable
    obtain ⟨rules, compiled⟩ := ih later
    exact ⟨⟨s, p, p.regex spell⟩ :: rules, .cons (by rw [Rule.compile, parsed]) compiled⟩

/-- Rules that can be read make an interpreter for any lexicon. -/
theorem Interpreter.exists_ofSources (l : Lexicon) (sources : List RuleSource) (stripFillers : Bool)
    (readable : ∀ s ∈ sources, ∃ p, Pattern.parse s.pattern = .ok p) :
    ∃ i, ofSources l sources stripFillers false = .ok i := by
  obtain ⟨rules, compiled⟩ := Rulebook.exists_compiled l.canonicalWord sources readable
  have built : Rulebook.build sources (some l) false = .ok ⟨rules, some l⟩ :=
    (bind_eq_ok _ _ _).mpr
      ⟨rules, (Rulebook.compileFrom_eq_ok_iff _ 0 _ _).mpr compiled, Rulebook.checked_false _⟩
  exact ⟨_, (bind_eq_ok _ _ _).mpr ⟨_, built, rfl⟩⟩

theorem Grammar.exists_interpreter (t : Text) (d : Document) (stripFillers : Bool)
    (parsed : parse t = .ok d) : ∃ i, d.interpreter stripFillers false = .ok i := by
  refine Interpreter.exists_ofSources d.lexicon d.rules stripFillers fun s member => ?_
  obtain ⟨-, -, readable⟩ := (wellFormed_of_parse t d parsed).rules s member
  exact readable

/-! ### Replies -/

namespace Lexicon

variable (l : Lexicon)

/-- Whether the reply is a message that a template under a key gives. -/
def IsMessage (reply : Text) : Prop := ∃ m d, l.message? (MessageKind.key m) d = some reply

/-- Every kind of message has a template under its key. -/
theorem isMessage_message (m : MessageKind) (d : Details) : l.IsMessage (l.message m d) := by
  refine ⟨m, d, ?_⟩
  rw [message?, l.template?_key m]
  rfl

theorem isMessage_replyToVerb (verb : Option Text) (text : Text) (d : Details) :
    l.IsMessage (l.replyToVerb verb text d) := by
  unfold replyToVerb
  simp only
  split
  · exact l.isMessage_message _ _
  · split
    · exact l.isMessage_message _ _
    · exact l.isMessage_message _ _

theorem explain?_refused (hint : Hint) (verb : Option Text) (text : Text) (d : Details) :
    ∃ reply, l.explain? (.refused hint verb text) d = some reply ∧ l.IsMessage reply := by
  unfold explain?
  simp only
  split
  · exact ⟨_, rfl, l.isMessage_message _ _⟩
  · cases hint with
    | noVerbRecognized => exact ⟨_, rfl, l.isMessage_message _ _⟩
    | verbRecognizedNoPatternMatch => exact ⟨_, rfl, l.isMessage_replyToVerb _ _ _⟩

end Lexicon

namespace Interpreter

/-- A document that can be read makes an interpreter. An interpreter whose lexicon is made from
tables, whatever they hold, and whose rulebook was built, in whatever steps, reads every line: there
is an outcome, one probe for each rule, a reply with a template if the line is refused and a command
if it is accepted. -/
theorem total_after_loading :
    (∀ t d stripFillers, Grammar.parse t = .ok d → ∃ i, d.interpreter stripFillers false = .ok i) ∧
      ∀ (v : Vocabulary) (sources : List RuleSource) (i : Interpreter) (raw : Option Text),
        i.AssembledFrom sources → i.lexicon = .ofVocabulary v →
        (∀ r ∈ i.rulebook.rules, ∃ e ∈ r.pattern.elements, e.isRequired = true) ∧
        (i.probes (raw.getD [])).map Probe.rule = sources ∧
        ∃ o, i.interpret (raw.getD []) = .ok o ∧
          (∀ d, if o.matched then i.explain? o d = none else
            ∃ reply, i.explain? o d = some reply ∧ i.lexicon.IsMessage reply) ∧
          (Command.ofOutcome? o (some i.lexicon)).isSome = o.matched := by
  refine ⟨fun t d stripFillers => Grammar.exists_interpreter t d stripFillers, ?_⟩
  intro v sources i raw assembled lexicon
  obtain ⟨steps, -⟩ := assembled.rulebook i sources
  have compiled := steps.isCompiledFrom i.rulebook sources
  have required : ∀ r ∈ i.rulebook.rules, ∃ e ∈ r.pattern.elements, e.isRequired = true :=
    fun r _ => List.any_eq_true.mp r.pattern.has_required
  have forms : i.lexicon.FormsHaveWords := lexicon ▸ Lexicon.formsHaveWords_ofVocabulary v
  obtain ⟨o, interpreted⟩ := i.interpret_total forms (raw.getD [])
  refine ⟨required, ?_, o, interpreted, fun d => ?_, ?_⟩
  · exact (i.rulebook.map_rule_probes _).trans (compiled.map_source i.rulebook sources)
  · -- a line that is accepted has no reply
    cases o with
    | accepted action captures verb text => rfl
    | refused hint verb text => exact i.lexicon.explain?_refused hint verb text d
  · cases o <;> rfl

end Interpreter

/-- An interpreter over tables that overlap, with empty forms and phrases without words. -/
def tangled : Interpreter :=
  .ofRulebook
    (.ofVocabulary
      { verbs := .ofPairs
          [([], ["x".toList, "  ".toList]), ("take".toList, ["get".toList, "x".toList]),
            ("pick up".toList, ["take".toList])]
        directions := .ofPairs
          [(" ".toList, ["n".toList]), ("north".toList, ["n".toList, "get".toList])]
        multiWordVerbs := [[], "  ".toList, "pick up".toList] })
    ⟨[giveRule], none⟩ true

/-- The search for a verb fails on a word that is empty, but no line comes with one. -/
theorem tangled_total :
    (∃ d i, Grammar.parse Grammar.crookedGrammar = .ok d ∧ d.interpreter true false = .ok i) ∧
      tangled.AssembledFrom [giveRule.source] ∧
      tangled.lexicon.findVerb [[]] = .error .blankPhrase ∧
      (∀ line, ∃ o, tangled.interpret line = .ok o) ∧
      ∃ o, tangled.interpret "get x n".toList = .ok o ∧
        ∀ d, ∃ reply, tangled.explain? o d = some reply ∧ tangled.lexicon.IsMessage reply := by
  obtain ⟨loads, runs⟩ := Interpreter.total_after_loading
  have loaded : ∃ d i, Grammar.parse Grammar.crookedGrammar = .ok d ∧
      d.interpreter true false = .ok i := by
    have readable : (Grammar.parse Grammar.crookedGrammar).isOk = true := by decide +kernel
    cases parsed : Grammar.parse Grammar.crookedGrammar with
    | error fault =>
      rw [parsed] at readable
      cases readable
    | ok d =>
      obtain ⟨i, made⟩ := loads Grammar.crookedGrammar d true parsed
      exact ⟨d, i, rfl, made⟩
  have first : Rulebook.build [giveRule.source] none false = .ok ⟨[giveRule], none⟩ := by
    decide +kernel
  have assembled : tangled.AssembledFrom [giveRule.source] :=
    .ofRulebook _ _ _ _ (.built _ none false _ first)
  have all (line : Text) := runs _ _ tangled (some line) assembled rfl
  obtain ⟨-, -, o, interpreted, replies, -⟩ := all "get x n".toList
  have refused : (tangled.interpret "get x n".toList).map Outcome.matched = .ok false := by
    decide +kernel
  obtain ⟨o', again, unmatched⟩ := (map_eq_ok _ _ _).mp refused
  obtain rfl : o = o' := Except.ok.inj (interpreted.symm.trans again)
  refine ⟨loaded, assembled, by decide +kernel, fun line => ?_, o, interpreted, fun d => ?_⟩
  · obtain ⟨-, -, o, interpreted, -⟩ := all line
    exact ⟨o, interpreted⟩
  · have reply := replies d
    rwa [unmatched] at reply

end TextAdventure
