import TextAdventure.Regex.Basic
import TextAdventure.Text.CaseKey

/-!
Backtracking search. `Regex.run` reads from a cursor and hands each way of reading, preferred ways
first, to a continuation; the first one with which the continuation succeeds is the answer. A match
of a whole text is a run whose continuation insists on the end of the text.
-/
namespace TextAdventure

/-- A stretch of a text, from `start` up to but without `stop`. -/
structure Span where
  start : Nat
  stop : Nat
  deriving DecidableEq, Repr, Inhabited

/-- The characters of the span; offsets past the end are the end. -/
def Span.slice (s : Span) (t : Text) : Text := (t.drop s.start).take (s.stop - s.start)

/-- Where a search stands: what is left of the text, how many characters were read, and what was
captured, latest first. -/
structure Cursor where
  rest : Text
  position : Nat
  captured : List Span
  deriving DecidableEq, Repr

namespace Regex

/-- What follows a word at the start of a text, case ignored. -/
def dropWord : Text → Text → Option Text
  | [], t => some t
  | _ :: _, [] => none
  | c :: w, d :: t => if Text.sameLetter c d then dropWord w t else none

/-- Reads one fixed word. -/
def runWord (w : Text) (c : Cursor) (k : Cursor → Option Cursor) : Option Cursor :=
  match dropWord w c.rest with
  | some rest => k { c with rest := rest, position := c.position + w.length }
  | none => none

/-- Reads characters that satisfy `p`, as many as possible, none included. -/
def runGreedy (p : Char → Bool) (captured : List Span) (k : Cursor → Option Cursor) :
    Text → Nat → Option Cursor
  | [], n => k ⟨[], n, captured⟩
  | d :: t, n =>
    if p d then (runGreedy p captured k t (n + 1)).orElse fun _ => k ⟨d :: t, n, captured⟩
    else k ⟨d :: t, n, captured⟩

/-- Reads characters that satisfy `p`, as few as possible, none included. -/
def runLazy (p : Char → Bool) (captured : List Span) (k : Cursor → Option Cursor) :
    Text → Nat → Option Cursor
  | [], n => k ⟨[], n, captured⟩
  | d :: t, n =>
    (k ⟨d :: t, n, captured⟩).orElse fun _ =>
      if p d then runLazy p captured k t (n + 1) else none

/-- Reads one character that satisfies `p`. -/
def runChar (p : Char → Bool) (c : Cursor) (k : Cursor → Option Cursor) : Option Cursor :=
  match c.rest with
  | [] => none
  | d :: t => if p d then k ⟨t, c.position + 1, c.captured⟩ else none

/-- Repeats a step, as few times as possible and at most `n` times. -/
def runRepeated (step : Cursor → (Cursor → Option Cursor) → Option Cursor)
    (k : Cursor → Option Cursor) : Nat → Cursor → Option Cursor
  | 0, c => k c
  | n + 1, c => (k c).orElse fun _ => step c (runRepeated step k n)

/-- The first way of reading `r` at the cursor with which `k` succeeds. A repeated body reads at
least one character each time, so what is left of the text bounds the repetitions. -/
def run : Regex → Cursor → (Cursor → Option Cursor) → Option Cursor
  | empty, c, k => k c
  | literal w, c, k => runWord w c k
  | oneOf ws, c, k => ws.findSome? fun w => runWord w c k
  | blanks, c, k =>
    runChar Text.isBlank c fun c => runGreedy Text.isBlank c.captured k c.rest c.position
  | nameChar, c, k => runChar isNameChar c k
  | name, c, k => runChar isNameChar c fun c => runGreedy isNameChar c.captured k c.rest c.position
  | anything, c, k =>
    runChar (· != '\n') c fun c => runLazy (· != '\n') c.captured k c.rest c.position
  | cat r s, c, k => run r c fun c => run s c k
  | opt r, c, k => (run r c k).orElse fun _ => k c
  | lazyMany r, c, k => runRepeated (run r) k c.rest.length c
  | notAhead r, c, k => if (run r c some).isSome then none else k c
  | capture r, c, k =>
    run r c fun d => k { d with captured := ⟨c.position, d.position⟩ :: d.captured }

/-- Accepts a cursor at the end of the text. -/
def atEnd (c : Cursor) : Option Cursor := if c.rest.isEmpty then some c else none

/-- The captured spans of a match of the whole text, in order. -/
def matchWhole? (r : Regex) (t : Text) : Option (List Span) :=
  (run r ⟨t, 0, []⟩ atEnd).map fun c => c.captured.reverse

end Regex

end TextAdventure
