import Switchboard.Text.Canonical

/-!
# Joiners

The two joiners have no shape of their own and change how the letters around them are joined. They
are sound behind a mark that joins letters. The one that keeps letters apart is also sound between
letters that would be joined.

The table is of Unicode 17 and has the characters that host names may have.
-/
namespace Switchboard.Text

/-- How characters are joined to their neighbours, by number. -/
def joinings : CharMap := .ofLines [
    "300 1 71 0 112 1 8 0 106 1 2D 0 1 1 1 0 1 1 2 0 1 1 2 0 1 1 9 0 40 1 B 0 5 4 1 0 1 3 4 4",
    "1 3 1 4 1 3 1 4 5 3 4 4 D 0 1 4 7 3 1 4 2 1 15 0 E 4 2 1 1 3 3 0 5 4 F 3 12 4 26 3 1 4",
    "2 3 9 4 1 3 1 4 1 3 1 4 2 3 2 0 1 3 1 1 8 0 1 1 6 0 2 1 2 0 1 1 4 3 2 0 A 4 3 0 2 4 1 0",
    "10 3 1 1 1 4 3 3 5 4 4 3 1 4 9 3 1 4 1 3 1 4 1 3 1 4 2 3 1 1 1D 3 1 4 B 3 3 4 F 3 2 4 4 3",
    "1 4 1 3 2 4 3 3 2 4 6 0 26 1 B 0 19 4 21 1 9 0 9 1 1 0 18 1 4 0 1 1 9 0 1 1 3 0 1 1 7 0",
    "10 3 1 4 5 3 2 4 1 3 1 4 A 3 1 4 1 3 3 1 5 0 2 4 1 0 1 4 4 0 1 3 1 4 1 3 1A 0 3 4 1 0 2 4",
    "5 3 1 4 8 1 9 4 A 3 3 0 1 3 1 4 2 3 2 4 6 3 1 4 F 0 1 1 39 0 37 1 1 0 1 1 1 0 4 1 8 0 4 1",
    "1 0 3 1 F 0 2 1 2 0 1D 1 1 0 3A 1 1 0 4 1 6 0 6 1 1 0 14 1 4 0 18 1 5 0 39 1 2 0 3 1 1B 0",
    "14 1 2 0 3 1 1 0 B 1 2 0 39 1 1 0 4 1 8 0 4 1 3 0 12 1 4 0 14 1 8 0 3A 1 1 0 2 1 1 0 1 1",
    "6 0 6 1 A 0 B 1 4 0 1C 1 1 0 3D 1 1 0 C 1 3 0 30 1 1 0 3 1 1 0 37 1 1 0 1 1 3 0 5 1 12 0",
    "A 1 4 0 1B 1 1 0 3A 1 1 0 2 1 1 0 6 1 1 0 5 1 9 0 D 1 4 0 1A 1 2 0 39 1 2 0 4 1 5 0 7 1",
    "1 0 14 1 4 0 1B 1 1 0 48 1 5 0 3 1 6 0 59 1 1 0 2 1 B 0 8 1 8 0 62 1 1 0 2 1 9 0 B 1 8 0",
    "48 1 2 0 1B 1 1 0 1 1 1 0 1 1 1 0 37 1 E 0 1 1 5 0 1 1 2 0 5 1 31 0 8 1 1 0 66 1 4 0 1 1",
    "6 0 1 1 2 0 2 1 2 0 19 1 2 0 4 1 3 0 10 1 4 0 D 1 1 0 2 1 2 0 6 1 1 0 F 1 1 0 2BF 1 3 0",
    "3B2 1 3 0 1D 1 2 0 1E 1 E 0 12 1 E 0 37 1 7 0 8 1 1 0 2 1 B 0 9 1 3 0 27 4 1 0 18 4 60 0",
    "5 1 2 4 22 1 1 4 6 0 70 1 3 0 4 1 2 0 9 1 1 0 6 1 7 0 D7 1 2 0 2 1 3 0 38 1 1 0 1 1 9 0",
    "1 1 1 0 2 1 8 0 6 1 D 0 30 1 54 0 30 1 1 0 1 1 5 0 1 1 1 0 5 1 1 0 28 1 9 0 C 1 2 0 20 1",
    "4 0 2 1 2 0 1 1 3 0 38 1 1 0 1 1 2 0 3 1 1 0 1 1 3 0 3A 1 8 0 2 1 5 0 95 1 3 0 1 1 D 0",
    "1 1 7 0 4 1 1 0 6 1 1 0 3 1 2 0 C6 1 41 0 2CF 1 34 0 BEB 1 4 0 8C 1 1 0 60 1 20 0 22A 1",
    "4 0 6B 1 4 0 75D2 1 4 0 1 1 A 0 20 1 2 0 50 1 2 0 110 1 1 0 3 1 1 0 4 1 1 0 19 1 2 0 5 1",
    "4 0 10 4 32 2 1 0 51 1 A 0 12 1 12 0 D 1 1 0 26 1 8 0 19 1 B 0 2E 1 3 0 30 1 1 0 2 1 4 0",
    "2 1 2 0 27 1 1 0 43 1 6 0 2 1 2 0 2 1 B 0 3 1 1 0 8 1 1 0 2F 1 1 0 33 1 1 0 1 1 3 0 2 1",
    "2 0 5 1 2 0 1 1 1 0 2A 1 2 0 8 1 B 0 E4 1 1 0 2 1 1 0 4 1 3 0 4F2E 1 94 0 26E 1 25 0",
    "3B8 1 83 0 60 1 1 0 95 1 A 0 681 1 F 0 28 1 8 0 80 4 5 3 1 0 1 3 1 0 1 3 2 0 2 2 1 3 5 4",
    "4 2 1 4 5 3 1 4 3 3 1 0 2 3 1 1 6 4 4 3 1 0 90 4 1 3 1 4 1 3 3 4 3 3 1 4 2 3 1 4 1 3 2 4",
    "1 3 8 0 10 3 4 4 2 0 151 2 1 4 21 3 1 4 1 1 C 0 39 1 5 0 13D 1 2 0 15 3 1 4 2 0 1 4 A 0",
    "2A 1 6 0 30 4 3 3 1 4 11 0 1 1 B 4 3 3 1 0 1B 4 4 3 2 4 C 1 4 0 2A 4 1 0 1 4 2 3 3 0 1 4",
    "1 3 2 4 2 3 1 4 2 0 1 4 1 3 2 4 1 0 4 3 1 4 1 2 15 0 21 1 1 0 36 1 F 0 29 1 1 0 2 1 2 0",
    "A 1 3 0 31 1 4 0 2 1 2 0 7 1 E 0 30 1 3 0 24 1 5 0 1 1 9 0 3D 1 1 0 C 1 2 0 34 1 9 0 A 1",
    "4 0 2 1 1 0 5F 1 3 0 2 1 1 0 1 1 2 0 6 1 1 0 2 1 3F 0 5F 1 1 0 3 1 D 0 10 1 2 0 39 1 2 0",
    "3 1 1 0 25 1 1A 0 3B 1 7 0 C 1 1 0 1 1 1 0 1 1 1 0 E 1 1F 0 38 1 8 0 2 1 3 0 1 1 1 0 17 1",
    "1 0 54 1 6 0 1 1 1 0 4 1 2 0 1 1 2 0 EE 1 6 0 4 1 2 0 1 1 2 0 1B 1 24 0 33 1 8 0 2 1 1 0",
    "1 1 2 0 6A 1 1 0 1 1 1 0 2 1 6 0 1 1 1 0 65 1 1 0 1 1 1 0 2 1 4 0 1 1 9 0 FF 1 9 0 1 1",
    "2 0 100 1 2 0 1 1 1 0 4 1 1 0 90 1 8 0 4 1 1 0 20 1 A 0 28 1 6 0 2 1 4 0 8 1 9 0 1 1 6 0",
    "2 1 3 0 2E 1 D 0 1 1 2 0 C6 1 1 0 1 1 3 0 1 1 1 0 C9 1 E 0 1 1 1 0 52 1 17 0 1 1 7 0 1 1",
    "2 0 1 1 4B 0 31 1 15 0 1 1 9 0 40 1 3 0 2 1 1 0 1 1 1 0 15B 1 2 0 B 1 2 0 34 1 8 0 2 1",
    "1 0 1 1 1 0 17 1 56 0 1490 1 1 0 6 1 19 0 2CBE 1 C 0 3 1 3 0 9C0 1 5 0 3B 1 7 0 418 1 1 0",
    "3F 1 4 0 51 1 C 0 4CAD 1 2 0 1261 1 50 0 217 1 3 0 11 1 8 0 2 1 7 0 1E 1 4 0 94 1 3 0",
    "7BB 1 37 0 4 1 32 0 8 1 1 0 E 1 1 0 16 1 465 0 100 1 100 0 30 1 7 0 177 1 12 0 2C 1 4 0",
    "1FC 1 4 0 FE 1 2 0 F3 1 1 0 2 1 1 0 7 1 2 0 5 1 9 0 1D2 1 52 4 22 1 C 0"]

/-- Whether a character does not matter for the joining of those around it. -/
def isTransparent (c : Char) : Bool := joinings.value c = 1

/-- Whether a character is joined to the one behind it. -/
def joinsNext (c : Char) : Bool := joinings.value c = 2 || joinings.value c = 4

/-- Whether a character is joined to the one before it. -/
def joinsPrevious (c : Char) : Bool := joinings.value c = 3 || joinings.value c = 4

def nonJoiner : Char := '\u200C'

def joiner : Char := '\u200D'

/-- Whether a joiner is sound between the characters before it, in reverse, and those behind. -/
def isSoundJoiner (c : Char) (before behind : List Char) : Bool :=
  before.head?.any (combiningClass · = viramaClass) ||
    c = nonJoiner && (before.dropWhile isTransparent).head?.any joinsNext &&
      (behind.dropWhile isTransparent).head?.any joinsPrevious

/-- Whether every joiner of a text is sound. `before` has the characters before it in reverse. -/
def hasSoundJoiners (before : List Char) : List Char → Bool
  | [] => true
  | c :: cs =>
    (!(c = nonJoiner || c = joiner) || isSoundJoiner c before cs) &&
      hasSoundJoiners (c :: before) cs

end Switchboard.Text
