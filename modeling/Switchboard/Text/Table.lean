import Switchboard.Text.Hex
import Switchboard.Text.Split

/-!
# Tables of characters

A property of characters is given by the places where it changes, each as its distance from the one
before, in base 16. `CharSet` is for a property that a character has or has not, `CharMap` for one
with a number as its value.
-/
namespace Switchboard.Text

/-- The number that digits of base 16 stand for. -/
def hexNumber (digits : List Char) : Nat :=
  digits.foldl (fun n c => 16 * n + (hexValue? c).getD 0) 0

/-- The numbers that stand in lines with blanks between them. -/
def hexNumbers (lines : List String) : List Nat :=
  lines.flatMap fun line => (split (· == ' ') line.toList).map hexNumber

/-- Characters given by the places where membership changes, in increasing order. The first
characters are no members. -/
structure CharSet where
  changes : List Nat

namespace CharSet

/-- The places that are given by their distances from `start` on. -/
def places (start : Nat) : List Nat → List Nat
  | [] => []
  | gap :: gaps => (start + gap) :: places (start + gap) gaps

/-- The set whose changes are given by their distances. -/
def ofLines (lines : List String) : CharSet := ⟨places 0 (hexNumbers lines)⟩

/-- Whether a character is a member: an odd number of changes lie at or below it. -/
def has (s : CharSet) (c : Char) : Bool := (s.changes.takeWhile (· ≤ c.toNat)).length % 2 = 1

end CharSet

/-- Numbers for characters, given by the places where the number changes. The first characters have
zero. -/
structure CharMap where
  runs : List (Nat × Nat)

namespace CharMap

/-- The runs that are given by their distances from `start` on, each followed by its number. -/
def runsFrom (start : Nat) : List Nat → List (Nat × Nat)
  | gap :: value :: rest => (start + gap, value) :: runsFrom (start + gap) rest
  | _ => []

/-- The map whose runs are given by their distances and numbers. -/
def ofLines (lines : List String) : CharMap := ⟨runsFrom 0 (hexNumbers lines)⟩

/-- The number of a character. -/
def value (m : CharMap) (c : Char) : Nat :=
  ((m.runs.takeWhile (·.1 ≤ c.toNat)).getLast?.map (·.2)).getD 0

end CharMap

end Switchboard.Text
