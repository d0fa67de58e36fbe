import Switchboard.Text.Table

/-!
# Direction of writing

The class of a character decides in which direction a text with it runs. `followsDirection` is the
rule for the labels of a name that has a character written from the right: each label keeps to the
direction of its first character, so that it is shown in one piece.

The table is of Unicode 17 and has the characters that host names may have.
-/
namespace Switchboard.Text

/-- The part of a character in the direction of a text. -/
inductive Direction where
  /-- A letter written from the left. -/
  | left
  /-- A letter written from the right. -/
  | right
  /-- A digit of Arabic numbers. -/
  | arabicNumber
  /-- A digit of European numbers. -/
  | europeanNumber
  /-- A mark that takes up no space. -/
  | mark
  /-- Anything else. -/
  | neutral
  deriving DecidableEq

/-- The parts of characters by number. -/
def directions : CharMap := .ofLines [
    "0 5 30 3 A 5 27 0 1A 5 64 0 18 5 1 0 1C1 5 2 0 7 5 E 0 2 5 1C 0 1 5 11 4 71 0 4 5 2 0",
    "7F 5 2 0 8B 4 8 0 FF 5 7 4 2D 1 1 4 1 1 1 4 2 1 1 4 2 1 1 4 9 1 36 5 2 1 1 5 2 1 1 5 1 1",
    "1 5 2 4 B 1 30 4 15 2 A 5 1 2 2 1 3 4 1 1 65 4 8 5 1 4 6 1 2 4 2 5 1 4 4 1 2 3 A 1 17 4",
    "1 1 1E 4 1D 1 59 4 B 1 3A 4 9 1 2 5 4 1 3 4 1 1 18 4 4 1 1 4 9 1 1 4 3 1 1 4 7 1 29 4 5 1",
    "39 4 9 1 2A 4 39 0 37 4 1 0 1 4 1 0 4 4 8 0 4 4 1 0 3 4 F 0 2 4 2 0 1D 4 1 0 3A 4 1 0 4 4",
    "6 0 6 4 1 0 14 4 4 0 C 5 2 0 7 5 1 0 2 4 5 0 39 4 2 0 3 4 1B 0 14 4 2 0 3 4 1 0 B 4 2 0",
    "39 4 1 0 4 4 8 0 4 4 3 0 12 4 4 0 B 5 8 0 1 4 8 0 3A 4 1 0 2 4 1 0 1 4 6 0 6 4 A 0 B 4",
    "4 0 1C 4 1 0 3D 4 1 0 C 4 3 0 23 5 D 4 1 0 3 4 1 0 37 4 1 0 1 4 3 0 5 4 12 0 A 4 4 0 12 5",
    "7 0 2 4 1 0 3A 4 1 0 F 4 9 0 D 4 4 0 1A 4 2 0 39 4 2 0 4 4 5 0 7 4 1 0 14 4 4 0 1B 4 1 0",
    "48 4 5 0 3 4 6 0 59 4 1 0 2 4 B 5 1 0 7 4 8 0 62 4 1 0 2 4 9 0 B 4 8 0 48 4 2 0 1B 4 1 0",
    "1 4 1 0 1 4 1 5 4 0 33 4 E 0 1 4 5 0 1 4 2 0 5 4 31 0 8 4 1 0 66 4 4 0 1 4 6 0 1 4 2 0",
    "2 4 2 0 19 4 2 0 4 4 3 0 10 4 4 0 D 4 1 0 2 4 2 0 6 4 1 0 F 4 1 0 2BF 4 3 0 30 5 10 0",
    "60 5 1 0 29A 5 5 0 72 4 3 0 1D 4 2 0 1E 4 E 0 12 4 E 0 37 4 7 0 8 4 1 0 2 4 B 0 7 5 1 0",
    "1 4 3 0 10 5 20 0 75 4 2 0 22 4 1 0 76 4 3 0 4 4 2 0 9 4 1 0 6 4 7 5 6 0 98 5 22 0 17 4",
    "2 0 2 4 3 0 38 4 1 0 1 4 9 0 1 4 1 0 2 4 8 0 6 4 D 0 30 4 54 0 30 4 1 0 1 4 5 0 1 4 1 0",
    "5 4 1 0 28 4 9 0 C 4 2 0 20 4 4 0 2 4 2 0 1 4 3 0 38 4 1 0 1 4 2 0 3 4 1 0 1 4 3 0 3A 4",
    "8 0 2 4 5 0 95 4 3 0 1 4 D 0 1 4 7 0 4 4 1 0 6 4 1 0 3 4 2 0 C6 4 41 0 20B 5 C4 4 34 5",
    "4A 0 3C 5 1AC 0 45 5 1A 0 1 5 316 0 1 5 153 0 100 5 330 0 B5 5 7 0 3 4 4 0 6 5 7 0 7F 4",
    "1 0 60 4 20 5 205 0 3 5 19 0 9 4 4 0 2 5 1 0 6 5 4 0 2 5 4 0 58 4 4 0 3 5 1 0 5A 5 1 0",
    "C4 5 30 0 1BD0 5 40 0 5690 5 40 0 13D 5 3 0 5F 4 4 5 1 4 A 5 3 0 1D 4 2 0 50 4 2 0 E 5",
    "23 0 65 5 1 0 79 4 1 0 3 4 1 0 4 4 1 0 19 4 2 0 1 5 4 4 4 0 8 5 8 0 34 5 C 0 44 4 A 0",
    "12 4 12 0 D 4 1 0 26 4 8 0 19 4 B 0 2E 4 3 0 30 4 1 0 2 4 4 0 2 4 2 0 27 4 1 0 43 4 6 0",
    "2 4 2 0 2 4 B 0 3 4 1 0 8 4 1 0 2F 4 1 0 33 4 1 0 1 4 3 0 2 4 2 0 5 4 2 0 1 4 1 0 2A 4",
    "2 0 8 4 B 0 69 5 56 0 25 4 1 0 2 4 1 0 4 4 3 0 4F2E 4 94 1 11 5 25D 4 25 5 2E 1 18D 0",
    "101 5 1 0 3E 5 4D 0 3 5 40 0 2D 4 83 0 60 4 1 3 1F 0 76 4 A 0 480 1 11F 5 1 1 E1 4 F 1",
    "28 4 8 1 A5 4 6 1 4E 5 7 1 1E4 4 C 2 10 3 A 1 1F 4 5 5 1 1 F1 2 20 1 2B 4 2 1 23 5 2A 4",
    "6 1 46 4 B 1 31 4 4 1 7A 0 1 4 1 0 36 4 F 0 B 5 14 0 A 4 1 0 2 4 2 0 A 4 3 0 31 4 4 0 2 4",
    "2 0 7 4 E 0 30 4 3 0 24 4 5 0 1 4 9 0 3D 4 1 0 C 4 2 0 34 4 9 0 A 4 4 0 2 4 1 0 5F 4 3 0",
    "2 4 1 0 1 4 2 0 6 4 1 0 2 4 3F 0 5F 4 1 0 3 4 D 0 10 4 2 0 39 4 2 0 3 4 1 0 25 4 1A 0",
    "3B 4 7 0 C 4 1 0 1 4 1 0 1 4 1 0 E 4 1F 0 38 4 8 0 2 4 3 0 1 4 1 0 17 4 1 0 54 4 6 0 1 4",
    "1 0 4 4 2 0 1 4 2 0 EE 4 6 0 4 4 2 0 1 4 2 0 1B 4 24 0 33 4 8 0 2 4 1 0 1 4 2 0 1F 5 20 0",
    "2B 4 1 0 1 4 1 0 2 4 6 0 1 4 1 0 65 4 3 0 2 4 4 0 1 4 9 0 FF 4 9 0 1 4 2 0 100 4 2 0 1 4",
    "1 0 4 4 1 0 90 4 8 0 4 4 1 0 20 4 6 0 2 4 2 0 28 4 6 0 2 4 4 0 8 4 9 0 1 4 6 0 2 4 3 0",
    "2E 4 D 0 1 4 2 0 C6 4 1 0 1 4 3 0 1 4 1 0 C9 4 E 0 54 4 17 0 1 4 7 0 1 4 2 0 1 4 4B 0",
    "31 4 15 0 1 4 9 0 40 4 3 0 2 4 1 0 1 4 1 0 15B 4 2 0 B 4 2 0 34 4 8 0 2 4 1 0 1 4 1 0",
    "17 4 56 0 25 5 2A 0 1441 4 1 0 6 4 19 0 2CBE 4 C 0 3 4 3 0 9C0 4 5 0 3B 4 7 0 418 4 1 0",
    "3F 4 4 0 4F 5 1 0 1 4 C 0 4CAD 4 2 0 F61 5 300 4 50 0 217 4 3 0 11 4 8 0 2 4 7 0 1E 4 4 0",
    "3B 5 59 4 3 5 7B 0 40 5 60 0 6A0 4 37 0 4 4 32 0 8 4 1 0 E 4 1 0 16 4 465 0 100 4 100 0",
    "30 4 7 0 177 4 12 0 2C 4 4 0 F 5 1D1 0 1C 4 4 0 FE 4 2 0 F3 4 1 0 2 4 1 0 7 4 2 0 5 4 9 0",
    "102 1 D0 4 52 1 22 4 7 1 5A5 5 260 0 1D 5 3 0 3D 5 39 0 7A 5 DA0 0"]

def direction (c : Char) : Direction :=
  match directions.value c with
  | 0 => .left
  | 1 => .right
  | 2 => .arabicNumber
  | 3 => .europeanNumber
  | 4 => .mark
  | _ => .neutral

/-- Whether a character is written from the right or belongs to a text that is. -/
def isFromRight (c : Char) : Bool := direction c = .right || direction c = .arabicNumber

/-- Whether a text keeps to the direction of its first character. -/
def followsDirection : List Char → Bool
  | [] => true
  | c :: cs =>
    let parts := (cs.reverse.map direction).dropWhile (· == .mark)
    match direction c with
    | .left =>
      parts.all (fun d => d != .right && d != .arabicNumber) &&
        parts.head?.all (fun d => d == .left || d == .europeanNumber)
    | .right =>
      parts.all (· != .left) && parts.head?.all (fun d => d != .neutral) &&
        !(parts.contains .arabicNumber && parts.contains .europeanNumber)
    | _ => false

end Switchboard.Text
