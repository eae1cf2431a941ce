import TextAdventure.Text.Basic

/-!
Tables over code points: membership in a list of ranges, and mappings stored as runs in which
every code point moves by the same distance.
-/
namespace TextAdventure.Text

/-- Membership in one of the ranges, both ends included. -/
def inRanges (ranges : List (Nat × Nat)) (n : Nat) : Bool :=
  ranges.any fun r => Nat.ble r.1 n && Nat.ble n r.2

/-- The code points `first`, `first + step`, up to `last`, of which `first` maps to `target`. -/
structure Run where
  first : Nat
  last : Nat
  step : Nat
  target : Nat

/-- The image of a code point of the run. -/
def Run.image? (r : Run) (n : Nat) : Option Nat :=
  if Nat.ble r.first n && Nat.ble n r.last && Nat.beq ((n - r.first) % r.step) 0 then
    some (r.target + (n - r.first))
  else none

/-- The image of a code point that lies in one of the runs. -/
def mapped? (runs : List Run) (n : Nat) : Option Nat := runs.findSome? (·.image? n)

/-- Maps a character by the runs, else by the expansions, else to itself. -/
def mapCode (runs : List Run) (expansions : List (Nat × List Nat)) (c : Char) : Text :=
  match mapped? runs c.toNat with
  | some n => [Char.ofNat n]
  | none =>
    match expansions.lookup c.toNat with
    | some ns => ns.map Char.ofNat
    | none => [c]

end TextAdventure.Text
