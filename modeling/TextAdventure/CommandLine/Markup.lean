import TextAdventure.CommandLine.Console
import TextAdventure.Text.Lowercase
import TextAdventure.Text.Blank

/-!
The console of a plain terminal, without colours and wide enough for every line. A tag is a
lowercase letter, `#`, `/` or `@` and what follows it, in brackets; backslashes in front of a tag
are halved, and an odd one makes the tag plain text. Other tags are not shown. A tag with a slash
closes the style that it names, or the last one that was opened if it names none; a line in which
there is nothing to close is refused. Codes of pictures are not replaced.
-/
namespace TextAdventure.Markup

def isTagStart (c : Char) : Bool :=
  ('a' ≤ c && c ≤ 'z') || c == '#' || c == '/' || c == '@'

/-- The tag whose opening bracket stands in front of the text, and what follows its closing
bracket. -/
def tagBody? : Text → Option (Text × Text)
  | [] => none
  | c :: t =>
    let body := t.takeWhile fun d => d != '[' && d != ']'
    match t.drop body.length with
    | ']' :: rest => if isTagStart c then some (c :: body, rest) else none
    | _ => none

/-- The number of backslashes at the start of the text, the tag that they stand in front of, and
what follows the tag. -/
def tagAt? (t : Text) : Option (Nat × Text × Text) :=
  let slashes := t.takeWhile (· == '\\')
  match t.drop slashes.length with
  | '[' :: u => (tagBody? u).map fun tag => (slashes.length, tag)
  | _ => none

theorem length_tagBody {t body rest : Text} (h : tagBody? t = some (body, rest)) :
    rest.length < t.length := by
  unfold tagBody? at h
  split at h
  · cases h
  next c u =>
    simp only at h
    split at h
    next r hr =>
      split at h
      · simp only [Option.some.injEq, Prod.mk.injEq] at h
        obtain ⟨-, rfl⟩ := h
        have := congrArg List.length hr
        simp only [List.length_drop, List.length_cons] at this ⊢
        omega
      · cases h
    · cases h

theorem length_tagAt {t body rest : Text} {n : Nat} (h : tagAt? t = some (n, body, rest)) :
    rest.length < t.length := by
  unfold tagAt? at h
  simp only at h
  split at h
  next u hu =>
    obtain ⟨⟨b, r⟩, hb, he⟩ := Option.map_eq_some_iff.1 h
    simp only [Prod.mk.injEq] at he
    obtain ⟨-, -, rfl⟩ := he
    have inner := length_tagBody hb
    have outer := congrArg List.length hu
    simp only [List.length_drop, List.length_cons] at outer
    omega
  · cases h

/-- Doubles the backslashes in front of each tag and adds one. -/
def escapeTags : Text → Text
  | [] => []
  | c :: t =>
    match _h : tagAt? (c :: t) with
    | some (n, body, rest) =>
      List.replicate (2 * n + 1) '\\' ++ '[' :: body ++ ']' :: escapeTags rest
    | none => c :: escapeTags t
termination_by t => t.length
decreasing_by
  · exact length_tagAt _h
  · simp only [List.length_cons]; omega

/-- The text as markup for itself. A single backslash at the end is doubled, so that it does not
protect a tag behind the text. -/
def escape (t : Text) : Text :=
  let escaped := escapeTags t
  match escaped.reverse with
  | ['\\'] => escaped ++ ['\\']
  | '\\' :: c :: _ => if c = '\\' then escaped else escaped ++ ['\\']
  | _ => escaped

/-- The style that a tag names, without its parameters. -/
def styleName (tag : Text) : Text := Text.lowercase (Text.trim tag)

/-- The styles that are open behind a tag, the last one first, if the tag closes nothing or an open
one. -/
def openBehind? (opened : List Text) (tag : Text) : Option (List Text) :=
  match tag.takeWhile (· != '=') with
  | '/' :: name =>
    match opened with
    | [] => none
    | _ :: rest =>
      if (styleName name).isEmpty then some rest
      else if opened.contains (styleName name) then some (opened.erase (styleName name)) else none
  | name => some (styleName name :: opened)

/-- The text that markup shows behind tags that opened the given styles. A backslash in front of a
bracket is not shown, even where the bracket opens no tag. -/
def render? (opened : List Text) : Text → Option Text
  | [] => some []
  | c :: t =>
    match _h : tagAt? (c :: t) with
    | some (n, body, rest) =>
      let slashes := List.replicate (n / 2) '\\'
      if n % 2 = 1 then
        (render? opened rest).map fun shown => slashes ++ '[' :: body ++ ']' :: shown
      else
        (openBehind? opened body).bind fun later =>
          (render? later rest).map fun shown => slashes ++ shown
    | none =>
      if c = '\\' ∧ t.head? = some '[' then render? opened t
      else (render? opened t).map fun shown => c :: shown
termination_by t => t.length
decreasing_by
  · exact length_tagAt _h
  · exact length_tagAt _h
  · simp only [List.length_cons]; omega
  · simp only [List.length_cons]; omega

/-- Controls that a console does not get to see. -/
def isDropped (c : Char) : Bool := [7, 8, 11, 12, 13].contains c.toNat

/-- Replaces tabs by spaces up to the next multiple of eight columns. -/
def expandTabs (column : Nat) : Text → Text
  | [] => []
  | '\t' :: t =>
    let width := 8 - column % 8
    List.replicate width ' ' ++ expandTabs (column + width) t
  | '\n' :: t => '\n' :: expandTabs 0 t
  | c :: t => c :: expandTabs (column + 1) t

/-- The printed line of markup. -/
def print? (markup : Text) : Option Text :=
  (render? [] markup).map fun shown => expandTabs 0 (shown.filter fun c => !isDropped c) ++ ['\n']

/-- The console of a plain terminal. -/
def console : CommandLine.Console := ⟨escape, print?⟩

end TextAdventure.Markup
