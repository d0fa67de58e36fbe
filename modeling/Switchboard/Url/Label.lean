import Switchboard.Text.Direction
import Switchboard.Text.Joining
import Switchboard.Url.Punycode

/-!
# Labels of host names

A label is written in ASCII. One that starts with `xn--` stands for the characters that its rest has
in Punycode. Characters outside ASCII have to be what a label may have: characters for names, put
together, with a letter in front rather than a mark, and with sound joiners. Where a label of a name
has a character written from the right, every label has to keep to its direction.

The tables are of Unicode 17.
-/
namespace Switchboard.Url.Label

/-- The characters that host names may have. Capitals and other characters with a simpler equivalent
are not among them. -/
def permitted : Text.CharSet := .ofLines [
    "0 41 1A 25 21 7 1 1 1 2 1 1 1 2 4 2 3 1 3 1 17 1 7 21 1 1 1 1 1 1 1 1 1 1 1 1 1 1 1 1 1 1",
    "1 1 1 1 1 1 1 1 1 1 1 1 1 1 1 1 1 1 1 1 1 1 1 1 1 1 1 1 1 1 1 1 3 1 1 2 1 1 1 1 1 1 3 1 1",
    "1 1 1 1 1 2 1 1 1 1 1 1 1 1 1 1 1 1 1 1 1 1 1 1 1 1 1 1 1 1 1 1 1 1 1 1 1 1 1 1 1 1 1 1 1",
    "1 1 1 1 1 1 2 1 1 1 1 1 1 1 2 1 1 1 2 1 3 2 4 1 2 1 3 3 2 1 2 1 1 1 1 1 2 1 1 2 1 1 2 1 3",
    "1 1 1 2 3 1 7 A 1 1 1 1 1 1 1 1 1 1 1 1 1 1 2 1 1 1 1 1 1 1 1 1 1 1 1 1 1 1 1 1 2 4 1 3 1",
    "1 1 1 1 1 1 1 1 1 1 1 1 1 1 1 1 1 1 1 1 1 1 1 1 1 1 1 1 1 1 1 1 1 1 1 1 1 1 1 1 1 1 1 1 1",
    "1 1 1 1 1 1 1 1 1 1 1 1 7 2 1 2 2 1 1 4 1 1 1 1 1 1 1 1 61 9 1F 6 2 5 5B 2 1 3 9 1 20 1 1",
    "1 1 1 1 1 1 3 3 12 1 1B 23 8 1 1 1 1 1 1 1 1 1 1 1 1 1 1 1 1 1 1 1 1 1 1 1 1 1 3 1 2 1 1",
    "1 2 2 33 30 1 1 1 1 1 1 1 1 1 1 1 1 1 1 1 1 1 1 1 1 1 1 1 1 1 1 1 1 1 1 1 1 1 9 1 1 1 1 1",
    "1 1 1 1 1 1 1 1 1 1 1 1 1 1 1 1 1 1 1 1 1 1 1 1 1 1 1 1 1 1 1 1 1 1 1 1 1 1 1 1 1 1 1 1 1",
    "1 1 1 1 2 1 1 1 1 1 1 1 1 1 1 1 1 2 1 1 1 1 1 1 1 1 1 1 1 1 1 1 1 1 1 1 1 1 1 1 1 1 1 1 1",
    "1 1 1 1 1 1 1 1 1 1 1 1 1 1 1 1 1 1 1 1 1 1 1 1 1 1 1 1 1 1 1 1 1 1 1 1 1 1 1 1 1 1 1 1 1",
    "1 1 1 1 1 1 1 1 1 1 1 1 1 1 1 1 1 1 1 1 1 1 1 1 29 2E 1 3 2 3 1 37 8 1B 4 6 11 16 1 58 4",
    "64 1 30 2 3B 2 65 E 3B 2 31 2 F 1 1C 2 1 1 B 5 20 7 4B 1 75 8 24 1 8 2 2 2 16 1 7 1 1 3 4",
    "2 9 2 2 2 4 8 1 8 4 2 19 2 3 1 6 4 2 2 16 1 7 1 1 2 1 2 2 2 1 1 5 4 2 2 3 3 1 A 1 9 11 A",
    "3 1 9 1 3 1 16 1 7 1 2 1 5 2 A 1 3 1 3 2 1 F 4 2 C 7 7 1 3 1 8 2 2 2 16 1 7 1 2 1 5 2 9 2",
    "2 2 3 7 3 7 5 2 12 A 2 1 6 3 3 1 4 3 2 1 1 1 2 3 2 3 3 3 C 4 5 3 3 1 4 2 1 6 1 E 15 5 D 1",
    "3 1 17 1 10 2 9 1 3 1 4 7 2 1 3 1 2 2 4 2 A 7 16 1 3 1 17 1 A 1 5 2 9 1 3 1 4 7 2 5 3 1 4",
    "2 A 1 3 C D 1 3 1 33 1 3 1 6 4 10 2 1A 1 3 1 12 3 18 1 9 1 1 2 7 3 1 4 6 1 1 1 8 6 A 2 3",
    "C 32 1 7 4 1D 25 2 1 1 1 5 1 18 1 1 1 C 1 A 2 5 1 1 1 7 1 A 4 2 20 C 1 36 1 4 1 4 1 4 1 4",
    "1 4 1 C 1 3 4 2 1 1 5 7 1 11 1 4 1 4 1 4 1 4 1 4 1 C 1 3 1 F 1 D 25 A0 30 2C 1 62 2 E8 1",
    "4 2 7 1 1 1 4 2 29 1 4 2 21 1 4 2 7 1 1 1 4 2 F 1 39 1 4 2 43 2 20 3 1A 6 56 A 280 1 1C 3",
    "59 7 16 9 18 9 14 C D 1 3 1 2 C 34 2 28 2 A 6 A 6 B 5 A 6 59 7 2B 5 46 A 1F 1 C 4 C 4 1 3",
    "2A 2 5 B 2C 4 1A 6 B 3 3E 2 41 1 1D 2 B 6 A 6 E 2 2E 2 C 14 4D 1 A6 8 3C 3 F 3 33 A 1 35",
    "8 8 2B 5 2C 3 1 B 1 12 1 1C D 1 22 25 40 1 1 1 1 1 1 1 1 1 1 1 1 1 1 1 1 1 1 1 1 1 1 1 1",
    "1 1 1 1 1 1 1 1 1 1 1 1 1 1 1 1 1 1 1 1 1 1 1 1 1 1 1 1 1 1 1 1 1 1 1 1 1 1 1 1 1 1 1 1 1",
    "1 1 1 1 1 1 1 1 1 1 1 1 1 1 1 1 1 1 1 1 1 1 1 1 1 1 1 1 1 1 1 1 1 1 1 1 1 1 1 1 1 1 1 1 1",
    "1 1 1 1 1 1 1 1 1 1 1 1 1 1 1 1 1 1 1 1 1 1 1 1 1 1 1 1 1 1 1 1 1 1 1 5 2 2 1 1 1 1 1 1 1",
    "1 1 1 1 1 1 1 1 1 1 1 1 1 1 1 1 1 1 1 1 1 1 1 1 1 1 1 1 1 1 1 1 1 1 1 1 1 1 1 1 1 1 1 1 1",
    "1 1 1 1 1 1 1 1 1 1 1 1 1 1 1 1 1 1 1 1 1 1 1 1 1 1 1 1 1 1 1 1 1 1 1 1 1 1 1 1 1 1 1 1 1",
    "9 8 6 A 8 8 8 8 6 A 8 8 8 8 1 1 1 1 1 1 1 1 1 1 1 1 1 33 2 4 1 F 1 9 3 3 2 8 3 1 4 E 1 15",
    "2 2 1 1 5 1 C 3 1 8 3 2 1 2 4 1 1 1 8 3 D 1 7 41 8 1 19 E 21 13 1 3 1 B 1 2 2 5 2 3 1 1 1",
    "1 1 1 1 4 1 B 1 6 4 5 6 30 3 1 5 1 2 4 9C 2 1 2 F8 2 FF 16 B A0 521 1 67 3 65 1 97 2 8A",
    "30 30 1 1 3 2 1 1 1 1 1 1 4 1 1 2 1 6 5 1 1 1 1 1 1 1 1 1 1 1 1 1 1 1 1 1 1 1 1 1 1 1 1 1",
    "1 1 1 1 1 1 1 1 1 1 1 1 1 1 1 1 1 1 1 1 1 1 1 1 1 1 1 1 1 1 1 1 1 1 1 1 1 1 1 1 1 1 1 1 1",
    "1 1 1 1 1 1 1 1 1 1 1 1 1 1 1 1 1 1 1 1 1 1 1 1 1 1 1 1 8 1 1 1 4 1 1 5 2D 1 1 5 1 2 38 8",
    "1 E 18 9 7 1 7 1 7 1 7 1 7 1 7 1 7 1 7 1 7E 22 1A 1 4 1 53 10E 1 1 33 1 1 3 5 1 56 2 2 2",
    "2 1 5F 6 2B 60 2 E 46 A 10 48 8 2F 1 180 708D 3 37 9 15C 15 1 1 1 1 1 1 1 1 1 1 1 1 1 1 1",
    "1 1 1 1 1 1 1 1 1 1 1 1 1 1 1 1 1 1 1 1 1 1 1 1 1 1 1 1 1 13 1 1 1 1 1 1 1 1 1 1 1 1 1 1",
    "1 1 1 1 1 1 1 1 1 1 1 1 1 1 2 5A 8 22 1 1 1 1 1 1 1 1 1 1 1 1 1 3 1 1 1 1 1 1 1 1 1 1 1 1",
    "1 1 1 1 1 1 1 1 1 1 1 1 1 1 1 1 1 1 1 1 1 1 1 1 1 1 1 1 1 1 1 1 1 1 1 1 1 1 1 1 1 1 1 1 1",
    "1 1 1 1 1 1 8 1 1 1 1 2 1 1 1 1 1 1 1 1 4 1 1 1 2 1 1 1 3 1 1 1 1 1 1 1 1 1 1 1 1 1 1 1 1",
    "1 1 1 1 5 1 5 1 1 1 1 1 1 1 1 1 1 1 1 1 1 1 4 1 1 1 2 1 1 1 1 1 1 1 1 1 1 1 1 1 1 1 1A 2",
    "2 33 3 A 6 38 8 46 8 C 6 74 B 1E 3 4E 1 B 4 21 1 37 9 E 2 A 2 67 18 1C A 6 2 6 2 6 9 7 1",
    "7 1 2C 4 9 1 2 54 2E 2 A 6 2BA4 C 17 4 31 2212 2 1 1 1 2 A 1 1 1 1 2 2 3 F4 1 93 21 16B",
    "12 40 2 36 8 2D 3 20 10 15 2 2C 1 18C C 1 1A 1 13 1 2 1 F 2 E 22 7B 5 3 4 2D 3 58 1 D 3 1",
    "2F 2E 82 1D 3 31 F 1C 4 24 9 1E 5 2B 5 1E 1 25 4 E 52 76 2 A 2E 24 4 28 8 34 B 1 27 B 1 F",
    "1 7 1 2 3 34 C 137 9 16 A 8 18 1 7F 6 2 1 1 2C 1 2 3 1 2 17 1 48 8 9 30 13 1 2 5 21 3 1B",
    "5 1B 26 38 4 14 2 32 1 2 5 8 1 3 1 1D 2 3 4 A 7 9 7 40 20 27 4 C 9 36 3 1D 2 1B 5 1A 7 4",
    "C 7 50 49 77 33 7 2E 8 A 6 10 19 1D 8 2 D0 1F 1 2A 1 3 2 2 10 6 8 9 21 2E 8 2A 16 1A 26",
    "1C 14 17 9 4E 4 24 9 3E 1 5 D 19 7 A 6 35 1 12 8 27 9 60 1 14 B 12 1 2F 3E 7 1 1 1 4 1 F",
    "1 B 6 3B 5 A 6 4 1 8 2 2 2 16 1 7 1 2 1 5 1 A 2 2 2 3 2 1 6 1 5 7 2 7 3 5 B A 1 1 2 1 1",
    "26 1 A 1 1 2 1 1 4 1 A 1 2 8 2 1D 5C 1 5 1E 48 8 A A6 36 2 26 22 45 B A 6 D 13 3A 6 A 6",
    "14 1C 1B 2 F 4 17 B9 3C 84 33 C 8 2 1 2 8 1 2 1 1E 1 2 2 C 9 A 46 8 2 2E 2 B 1B 48 8 53 D",
    "49 7 A 56 8 58 22 E A 6 9 1 2D 1 E A 1D 3 20 2 16 1 E 49 7 1 2 1 2C 3 1 1 2 1 9 8 A 6 6 1",
    "2 1 25 1 2 1 6 7 A 6 2C 4 A F6 19 7 11 1 29 3 1D 55 1 F 32 D 39B 66 6F 1 5 B C4 A4C 63 D",
    "430 10 16 A F9B 5 247 1AB9 3A 6C6 239 7 1F 1 A 4 51 1 A 6 1E 2 6 A 46 A A 1 7 1 15 5 13",
    "1B0 3A E6 3B 20 19 2C 4B 4 39 7 11 40 5 B 7 9 1CD6 29 20 61 73 21FD 4 1 7 1 2 1 123 F 1",
    "1D 3 2 1 E 4 8 18C 904 6B 5 D 3 9 7 A 2 4 F60 D6 24 3 3 1B4 6 17 F 11 F 2E 2 17 9 74 3C",
    "F6 A 27 2 35 7 E 8 40 6 2A 15 46 7A 14 C 14 C 57 9 19 487 28C F 5 1 F 450 1F 6 6 D5 7 1",
    "11 2 7 1 2 1 5 64 1 70 2D 3 E 2 A 4 2 140 1F 11 3A 5 1 1D0 2A D6 2B 4 1 C0 1F 1 16 8 2 E0",
    "7 1 4 1 2 1 F 1 C5 2 10 4B 2A 4 A 4 2 311 44 4C 3D 1B2 2 10E 2C 4 64 C F 2 F 1 F 1 25 15",
    "5 1F 1 20 1A 3 23 1 1D 38 1A 60 6 9A 3D9 3 11 3 D 3 DA 6 C 4 1 F C 4 38 8 A 6 28 8 1E 2 C",
    "4 2 E 9 27 158 8 E 2 D 3 B 3 39 1 1 4 10 2 C 4 A 7 93 1 5C A 1 405 A6E0 20 111E 2 168E 2",
    "1D31 F 26E 11A2 134B 5 212A"]

/-- The marks among them. -/
def marks : Text.CharSet := .ofLines [
    "300 71 112 8 106 2D 1 1 1 2 1 2 1 9 40 B 30 15 10 1 65 8 1 6 2 2 1 4 23 1 1E 1D 59 B 3A 9",
    "9 1 18 4 1 9 1 3 1 7 29 5 39 9 2A 3A 36 3 1 12 1 F 2 2 1D 4 37 1 1 10 9 9 2 4 18 7 37 20",
    "14 2 3 1 B 4 37 1 1 12 12 4 14 B 37 1 1 21 3 4 1C 1 3B 12 7 F 1A 5 37 1 1 1A A 4 1B 3 38",
    "1 1 1E 6 4 D 11 37 2 1 10 9 1 A 4 1B 4 45 1C C 2 3D 1 2 B 8 8 62 1 2 9 B 8 48 2 1B 1 1 1",
    "1 1 4 2 31 14 1 2 5 31 8 1 64 14 17 4 4 3 1 3 2 7 3 4 D C 1 1 A 4 2BF 3 3B2 D 13 3 1D E",
    "12 E 36 1E 9 3 A5 2 22 1 76 20 D7 7 37 2B 30 55 2F 11 26 9 C 3 1E D 38 16 28 17 95 3 1 15",
    "4 1 6 1 2 3 C6 41 2CF 34 BEB 4 8C 1 60 20 22A 6 69 4 75D2 4 1 A 20 2 50 2 110 1 3 1 4 1",
    "17 5 4 4 50 2 32 1A 12 12 D 1 26 8 19 18 21 4 2F E 24 1 43 17 3 1 8 4 2B 3 32 1 1 3 2 2 5",
    "2 1 1 29 5 5 C E2 8 1 4 4F2E 94 26E 25 3B8 83 60 1 95 A 681 F 28 8 A5 6 239 C 39 5 13D 2",
    "4D 6 46 B 31 4 7A 3 35 F 29 1 2 2 A 4 2D B 7 E 30 3 24 F F 2 2C 1 C 3 30 E 8 4 1 2 5C C 6",
    "1 2 3F 5F 11 10 5 36 2 1 12 7 6 5 1E 38 19 1 1 E 1F 35 12 17 1 51 14 EB 12 1B 24 30 11 6A",
    "D 65 13 FC F F5 F 1 1 1 2 8D 10 3 1C 1 A 28 7 1 4 8 9 1 B 2E 10 C6 60 6F 11 52 6E 31 15 1",
    "9 3A E 15B 4 9 2 1 1 30 F 17 56 1490 1 6 19 2CBE 12 9C0 5 3B 7 418 1 1 42 51 E 4CAB 2",
    "1261 50 215 5 3 16 2 7 1E 4 94 3 7BB 37 4 32 8 1 E 1 16 465 100 100 30 7 177 12 2C 4 1FC",
    "4 FE 2 F3 1 2 1 7 2 5 9 1D2 52 22 7"]

/-- The characters that a rest in Punycode may have. -/
def maxEncoded : Nat := 2000

/-- The characters for which a label in Punycode may stand at most. -/
def maxDecoded : Nat := 1000

/-- Whether a label may have these characters. -/
def isSound (cs : List Char) : Bool :=
  cs.all permitted.has && Text.isComposed cs && !cs.head?.any marks.has &&
    Text.hasSoundJoiners [] cs && cs.length ≤ maxDecoded

/-- The characters for which a label in its simplest form stands. -/
def characters? : List Char → Option (List Char)
  | 'x' :: 'n' :: '-' :: '-' :: cs =>
    if cs.isEmpty || cs.getLast? = some '-' || maxEncoded < cs.length then none
    else if Punycode.isAscii cs then (Punycode.decode? cs).filter isSound
    else none
  | cs => if Punycode.isAscii cs || isSound cs then some cs else none

/-- Whether the labels of a name are sound, each and together. -/
def areSound (labels : List (List Char)) : Bool :=
  match labels.mapM characters? with
  | none => false
  | some decoded =>
    !decoded.any (·.any Text.isFromRight) || decoded.all Text.followsDirection

/-- A label as it is written. -/
def written (cs : List Char) : List Char :=
  if Punycode.isAscii cs then cs else "xn--".toList ++ Punycode.encode cs

end Switchboard.Url.Label
