import TextAdventure.Text.Blank
import TextAdventure.Text.WordChar
import TextAdventure.Text.Quoted
import TextAdventure.Text.CaseFolding
import TextAdventure.Text.CaseKey
import TextAdventure.Text.Lowercase
import TextAdventure.Text.Uppercase
import TextAdventure.Table
import TextAdventure.WordSet
import TextAdventure.Pattern.Compile
import TextAdventure.Lexicon.Defect
import TextAdventure.Explanation
import TextAdventure.Command
import TextAdventure.Grammar.Printer
import TextAdventure.Grammar.BuiltIn
import TextAdventure.Grammar.Interpreter
import TextAdventure.Service.Basic
import TextAdventure.CommandLine.Markup
import TextAdventure.CommandLine.Arguments
import TextAdventure.CommandLine.Report
import TextAdventure.Main
import TextAdventure.Proofs.Text.Case
import TextAdventure.Proofs.Regex.WordSearch
import TextAdventure.Proofs.Pattern.Reading
import TextAdventure.Proofs.Pattern.Matching
import TextAdventure.Proofs.Except
import TextAdventure.Proofs.Pattern.Grammar
import TextAdventure.Proofs.Pattern.Scanning
import TextAdventure.Proofs.Pattern.Parsing
import TextAdventure.Proofs.Pattern.Spelling
import TextAdventure.Proofs.Pattern.Tiling
import TextAdventure.Proofs.Lexicon.Lookup
import TextAdventure.Proofs.Rulebook.Binding
import TextAdventure.Proofs.Interpreter.Captures
import TextAdventure.Proofs.Interpreter.Synonyms
import TextAdventure.Proofs.Grammar.Lexicon
import TextAdventure.Proofs.Table
import TextAdventure.Proofs.Text.Trim
import TextAdventure.Proofs.Text.Lines
import TextAdventure.Proofs.Grammar.Phrases
import TextAdventure.Proofs.Grammar.WellFormed
import TextAdventure.Proofs.Grammar.Lines
import TextAdventure.Proofs.Grammar.RoundTrip
import TextAdventure.Proofs.Rulebook.Assembly
import TextAdventure.Proofs.Pattern.EmptyText
import TextAdventure.Proofs.Interpreter.Probing
import TextAdventure.Proofs.Interpreter.Totality
import TextAdventure.Proofs.Regex.WrittenForm
import TextAdventure.Proofs.Regex.Moves
import TextAdventure.Proofs.Pattern.Expression
import TextAdventure.Proofs.Rulebook.Shadows
import TextAdventure.Proofs.Pattern.RoundTrip
import TextAdventure.Proofs.Rulebook.Collisions
import TextAdventure.Proofs.Lexicon.Ambiguity
import TextAdventure.Proofs.Lexicon.Phrases
import TextAdventure.Proofs.Interpreter.Phrases
import TextAdventure.Proofs.Pattern.Alignment
import TextAdventure.Proofs.Interpreter.Wholeness
import TextAdventure.Proofs.CommandLine.Trace
import TextAdventure.Proofs.Rulebook.Phrases
import TextAdventure.Proofs.Rulebook.Separation
import TextAdventure.Proofs.Rulebook.Omission
import TextAdventure.Proofs.Rulebook.Expansion
import TextAdventure.Proofs.Text.Spacing
import TextAdventure.Proofs.Regex.Spacing
import TextAdventure.Proofs.Rulebook.Spacing
import TextAdventure.Proofs.Lexicon.RoundTrip
import TextAdventure.Proofs.Lexicon.LongestPhrase
import TextAdventure.Proofs.Lexicon.Validation
import TextAdventure.Proofs.Rulebook.Folding
import TextAdventure.Proofs.Grammar.Composition
import TextAdventure.Proofs.Interpreter.Expansion
import TextAdventure.Proofs.Interpreter.Replies
import TextAdventure.Proofs.Lexicon.Templates
import TextAdventure.Proofs.Text.Replacing
import TextAdventure.Proofs.Interpreter.Messages
import TextAdventure.Proofs.Pattern.Shape
import TextAdventure.Proofs.Rulebook.Strict
import TextAdventure.Proofs.Interpreter.Outcomes
import TextAdventure.Proofs.Command.Objects
