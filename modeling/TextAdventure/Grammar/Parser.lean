import TextAdventure.Grammar.Basic
import TextAdventure.Grammar.Phrases
import TextAdventure.Pattern.Parser
import TextAdventure.Text.WordChar

/-!
Reading grammars. Each line is read by itself, whatever came before: a blank line or a comment says
nothing, any other line is a directive or a fault. The first fault ends the reading and is reported
with the number of its line.
-/
namespace TextAdventure.Grammar

/-- What can be wrong with a line. -/
inductive LineFault where
  | expectedEntry
  | expectedAbbreviation
  | expectedPhrase
  | expectedTemplate
  | expectedRule
  | unknownDirective (keyword : Text)
  | malformed (cause : Malformed)
  deriving DecidableEq, Repr

/-- The first fault of a grammar, with the line on which it stands, counted from 1. -/
structure ReadFault where
  lineNumber : Nat
  line : Text
  fault : LineFault
  deriving DecidableEq, Repr

/-- The report of a fault. -/
def ReadFault.message (f : ReadFault) : String :=
  let label := "Line " ++ toString f.lineNumber ++ ": "
  let report (cause : String) := label ++ cause ++ "\n  " ++ String.ofList f.line
  match f.fault with
  | .expectedEntry => report "Expected: <canonical>: <synonym> ..."
  | .expectedAbbreviation => report "Expected: abbrev <token> = <phrase>"
  | .expectedPhrase => report "Expected: multiword <phrase>"
  | .expectedTemplate => report "Expected: error <key> = <template>"
  | .expectedRule => report "Expected: pattern <ACTION>: <pattern>"
  | .unknownDirective keyword => report ("Unknown directive: " ++ String.ofList keyword)
  | .malformed cause => cause.message label

/-- A key of at least one character that satisfies `p`, then the mark, blanks around it allowed, and
what follows. -/
def splitKey? (p : Char → Bool) (mark : Char) (t : Text) : Option (Text × Text) :=
  let key := t.takeWhile p
  match Text.trimStart (t.drop key.length) with
  | c :: rest => if !key.isEmpty && c == mark then some (key, Text.trimStart rest) else none
  | [] => none

/-- Splits a word at the last equals sign that has something in front of it and, here or in the text
`after`, something behind it. -/
def splitEquals? (after : Text) : Text → Option (Text × Text)
  | [] => none
  | c :: w =>
    match splitEquals? after w with
    | some (token, rest) => some (c :: token, rest)
    | none =>
      match w with
      | '=' :: rest => if (rest ++ after).isEmpty then none else some ([c], rest ++ after)
      | _ => none

/-- An abbreviation and what it stands for. The abbreviation reaches as far as it can: it is the
whole first word if an equals sign follows, else it ends before an equals sign in that word. -/
def splitAbbreviation? (t : Text) : Option (Text × Text) :=
  let word := t.takeWhile fun c => !Text.isBlank c
  let after := t.drop word.length
  match word, Text.trimStart after with
  | [], _ => none
  | _ :: _, '=' :: d :: rest => some (word, Text.trim (d :: rest))
  | _ :: _, _ => (splitEquals? after word).map fun r => (r.1, Text.trim r.2)

/-- The directive of a line with the given first word and rest. -/
def readDirective (keyword rest : Text) : Except LineFault Directive :=
  if keyword = "verb".toList then
    match splitKey? (fun c => !Text.isBlank c && c != ':') ':' rest with
    | some (canonical, synonyms) => .ok (.verb canonical (splitPhrases synonyms))
    | none => .error .expectedEntry
  else if keyword = "direction".toList then
    match splitKey? (fun c => !Text.isBlank c && c != ':') ':' rest with
    | some (canonical, synonyms) => .ok (.direction canonical (splitPhrases synonyms))
    | none => .error .expectedEntry
  else if keyword = "abbrev".toList then
    match splitAbbreviation? rest with
    | some (token, phrase) => .ok (.abbreviation token phrase)
    | none => .error .expectedAbbreviation
  else if keyword = "multiword".toList then
    if rest.isEmpty then .error .expectedPhrase else .ok (.multiWordVerb rest)
  else if wordListNames.contains keyword then .ok (.wordList keyword (Text.words rest))
  else if keyword = "error".toList then
    match splitKey? Text.isWordChar '=' rest with
    | some (key, c :: template) => .ok (.error key (Text.trim (c :: template)))
    | _ => .error .expectedTemplate
  else if keyword = "pattern".toList then
    match splitKey? Text.isWordChar ':' rest with
    | some (action, c :: pattern) =>
      let source := Text.trim (c :: pattern)
      match Pattern.parse source with
      | .ok _ => .ok (.rule ⟨source, action⟩)
      | .error m => .error (.malformed m)
    | _ => .error .expectedRule
  else .error (.unknownDirective keyword)

/-- What a line says, nothing if it is blank or a comment. -/
def readLine (line : Text) : Except LineFault (Option Directive) :=
  match Text.trim line with
  | [] => .ok none
  | c :: t =>
    if c = '#' then .ok none
    else
      let keyword := (c :: t).takeWhile (· != ' ')
      (readDirective keyword (Text.trim ((c :: t).drop (keyword.length + 1)))).map some

/-- What lines that are numbered from `n` on say. -/
def readLines (n : Nat) : List Text → Except ReadFault (List Directive)
  | [] => .ok []
  | l :: ls =>
    match readLine l with
    | .error fault => .error ⟨n, Text.trim l, fault⟩
    | .ok directive => do
      let ds ← readLines (n + 1) ls
      .ok (directive.toList ++ ds)

/-- Reads a grammar. -/
def parse (t : Text) : Except ReadFault Document :=
  (readLines 1 (Text.lines t)).map Document.ofDirectives

end TextAdventure.Grammar
