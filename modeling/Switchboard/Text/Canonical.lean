import Switchboard.Text.Table

/-!
# Canonical composition

Some characters are equivalent to a pair of others, and marks that do not interact may follow one
another in any order. `compose` chooses one text among equivalent ones: every pair is one character
where there is one, and marks are in the order of their combining classes. `isComposed` says that a
text is the chosen one.

The tables are of Unicode 17 and have the characters that host names may have.
-/
namespace Switchboard.Text

/-- The combining classes of characters. -/
def combiningClasses : CharMap := .ofLines [
    "300 E6 15 E8 1 DC 4 E8 1 D8 1 DC 5 CA 2 DC 4 CA 2 DC B 1 5 DC 4 E6 A DC 3 E6 3 DC 3 E6",
    "3 DC 4 E6 1 E8 1 DC 2 E6 1 E9 1 EA 2 E9 1 EA 2 E9 1 E6 E 0 112 E6 5 0 109 DC 1 E6 4 DC",
    "1 E6 3 DE 1 DC 1 E6 6 DC 6 E6 2 DC 1 E6 2 DE 1 E4 1 E6 1 A 1 B 1 C 1 D 1 E 1 F 1 10 1 11",
    "1 12 1 13 2 14 1 15 1 16 1 0 1 17 1 0 1 18 1 19 1 0 1 E6 1 DC 1 0 1 12 9 0 40 E6 8 1E",
    "1 1F 1 20 1 0 30 1B 1 1C 1 1D 1 1E 1 1F 1 20 1 21 1 22 1 E6 2 DC 2 E6 5 DC 1 E6 2 DC 1 0",
    "10 23 1 0 65 E6 8 0 1 E6 4 DC 1 E6 1 0 2 E6 2 0 1 DC 1 E6 2 DC 1 0 23 24 1 0 1E E6 1 DC",
    "1 E6 2 DC 1 E6 2 DC 3 E6 1 DC 2 E6 1 DC 1 E6 3 DC 1 E6 1 DC 1 E6 1 DC 1 E6 1 DC 1 E6 4 0",
    "9E E6 7 DC 1 E6 1 0 9 DC 1 0 18 E6 4 0 1 E6 9 0 1 E6 3 0 1 E6 7 0 29 DC 5 0 39 E6 2 DC",
    "3 E6 4 0 2A E6 5 DC 5 E6 F DC 1 E6 2 DC 1 E6 2 DC 1 E6 3 DC 3 1B 1 1C 1 1D 1 E6 3 DC 1 E6",
    "2 DC 2 E6 5 0 3C 7 1 0 10 9 1 0 3 E6 1 DC 1 E6 2 0 67 7 1 0 10 9 1 0 30 E6 3 0 3B 7 2 0",
    "F 9 4 0 6B 7 1 0 10 9 3 0 6C 7 1 0 10 9 8 0 78 9 3 0 6C 7 1 0 10 9 8 54 1 5B 2 0 64 7 1 0",
    "10 9 8 0 66 9 2 0 10 9 1 0 7C 9 5 0 69 67 2 9 5 0 9 6B 4 0 6C 76 2 9 1 0 D 7A 4 0 4C DC",
    "2 0 1B DC 1 0 1 DC 1 0 1 D8 1 0 37 81 1 82 2 84 6 82 4 0 2 82 2 E6 2 9 1 0 1 E6 2 0 3E DC",
    "1 0 70 7 1 0 1 9 2 0 52 DC 1 0 2CF E6 3 0 3B4 9 B 0 15 9 1 0 9D 9 1 0 A E6 3 0 C9 E4 1 0",
    "8F DE 1 E6 1 DC 5 0 D7 E6 1 DC 1 0 47 9 1 0 14 E6 A DC 1 0 30 E6 5 DC 6 E6 2 DC 1 0 1 DC",
    "2 E6 2 DC 2 E6 5 DC 1 E6 12 DC 3 E6 6 DC 1 E6 19 0 34 7 1 0 F 9 1 0 26 E6 1 DC 1 E6 7 0",
    "36 9 2 0 3A 7 1 0 B 9 A 0 3B 7 4 0 95 E6 3 0 1 1 1 DC 5 E6 2 DC 4 E6 1 0 1 1 7 0 4 DC 1 0",
    "6 E6 1 0 3 E6 2 0 C6 E6 2 DC 1 E6 7 DC 1 E6 2 EA 1 D6 1 DC 1 CA 1 E6 25 E8 1 E4 2 DC 1 DA",
    "1 E6 1 E9 1 DC 1 E6 1 DC 2 0 2CF E6 2 1 2 E6 4 1 3 E6 2 0 4 E6 1 0 3 1 2 E6 1 DC 1 E6 1 1",
    "2 DC 4 E6 14 0 BEB E6 4 0 8C 9 1 0 60 E6 20 0 22A DA 1 E4 1 E8 1 DE 1 E0 2 0 69 8 4 0",
    "75D2 E6 1 0 4 E6 A 0 20 E6 2 0 50 E6 2 0 114 9 1 0 25 9 4 0 94 9 1 0 1B E6 12 0 39 DC 3 0",
    "25 9 C 0 54 7 1 0 C 9 1 0 EF E6 1 0 1 E6 2 DC 1 0 2 E6 2 0 5 E6 2 0 1 E6 1 0 34 9 B 0",
    "EC 9 3 0 4F2E 1A 94 0 26E E6 7 DC 7 E6 17 0 3B8 DC 83 0 60 DC 1 0 95 E6 A 0 68D DC 1 0",
    "1 E6 1 0 28 E6 1 1 1 DC 5 9 1 0 A5 E6 1 DC 5 0 239 E6 C 0 39 E6 5 0 13D E6 2 0 4D DC 2 0",
    "1 DC 3 0 46 DC 2 E6 3 DC 1 E6 1 DC 4 0 31 E6 1 DC 1 E6 1 DC 1 0 C0 9 1 0 29 9 1 0 E 9 1 0",
    "39 9 1 7 1 0 45 E6 3 0 30 9 3 0 3D 7 1 0 4C 9 1 0 9 7 1 0 6A 9 1 7 1 0 B2 7 1 9 6 0 4B 7",
    "2 0 10 9 3 0 16 E6 1A 0 4E 9 3 0 10 E6 1F 0 42 9 1 0 3 7 1 0 17 E6 1 0 63 9 1 7 1 0 FB 9",
    "1 7 1 0 7E 9 1 0 76 9 1 7 1 0 73 9 5 0 109 9 1 7 1 0 102 9 2 0 4 7 1 0 9C 9 1 0 53 9 1 0",
    "12 9 9 0 49 9 1 0 1A5 9 1 0 102 7 1 0 1 9 2 0 51 9 1 0 1A9 9 2 0 17 7 56 0 417F 9 1 0",
    "9C0 1 5 0 3B E6 7 0 4B9 6 2 0 4CAC 1 1 0 14C6 D8 2 1 3 0 3 E2 1 D8 D DC 8 0 2 E6 5 DC 2 0",
    "1E E6 4 0 94 E6 3 0 DBB E6 100 0 30 E6 7 0 177 E6 12 0 2C E6 4 0 1FC E8 2 DC 1 E6 1 0",
    "FE E6 1 DC 1 0 F3 E6 1 0 2 E6 1 0 7 E6 2 0 5 E6 9 0 1D2 DC 52 0 22 E6 6 7 1 0"]

/-- The combining class of a character. It is zero unless the character is a mark that may change
places with others. -/
def combiningClass (c : Char) : Nat := combiningClasses.value c

/-- The combining class of marks that join the letters around them into one. -/
def viramaClass : Nat := 9

/-- Characters, given by their distances from `start` on, and the pairs to which they are
equivalent. -/
def pairsFrom (start : Nat) : List Nat → List (Nat × Nat × Nat)
  | gap :: a :: b :: rest => (start + gap, a, b) :: pairsFrom (start + gap) rest
  | _ => []

/-- The characters that are equivalent to a pair, syllables of Hangul apart. -/
def pairs : List (Nat × Nat × Nat) := pairsFrom 0 (hexNumbers [
    "E0 61 300 1 61 301 1 61 302 1 61 303 1 61 308 1 61 30A 2 63 327 1 65 300 1 65 301",
    "1 65 302 1 65 308 1 69 300 1 69 301 1 69 302 1 69 308 2 6E 303 1 6F 300 1 6F 301 1 6F 302",
    "1 6F 303 1 6F 308 3 75 300 1 75 301 1 75 302 1 75 308 1 79 301 2 79 308 2 61 304 2 61 306",
    "2 61 328 2 63 301 2 63 302 2 63 307 2 63 30C 2 64 30C 4 65 304 2 65 306 2 65 307 2 65 328",
    "2 65 30C 2 67 302 2 67 306 2 67 307 2 67 327 2 68 302 4 69 303 2 69 304 2 69 306 2 69 328",
    "6 6A 302 2 6B 327 3 6C 301 2 6C 327 2 6C 30C 6 6E 301 2 6E 327 2 6E 30C 5 6F 304 2 6F 306",
    "2 6F 30B 4 72 301 2 72 327 2 72 30C 2 73 301 2 73 302 2 73 327 2 73 30C 2 74 327 2 74 30C",
    "4 75 303 2 75 304 2 75 306 2 75 30A 2 75 30B 2 75 328 2 77 302 2 79 302 3 7A 301 2 7A 307",
    "2 7A 30C 23 6F 31B F 75 31B 1E 61 30C 2 69 30C 2 6F 30C 2 75 30C 2 FC 304 2 FC 301",
    "2 FC 30C 2 FC 300 3 E4 304 2 227 304 2 E6 304 4 67 30C 2 6B 30C 2 6F 328 2 1EB 304",
    "2 292 30C 1 6A 30C 5 67 301 4 6E 300 2 E5 301 2 E6 301 2 F8 301 2 61 30F 2 61 311",
    "2 65 30F 2 65 311 2 69 30F 2 69 311 2 6F 30F 2 6F 311 2 72 30F 2 72 311 2 75 30F 2 75 311",
    "2 73 326 2 74 326 4 68 30C 8 61 307 2 65 327 2 F6 304 2 F5 304 2 6F 307 2 22F 304",
    "2 79 304 15D 3CA 301 1C 3B1 301 1 3B5 301 1 3B7 301 1 3B9 301 1 3CB 301 1A 3B9 308",
    "1 3C5 308 1 3BF 301 1 3C5 301 1 3C9 301 6B 438 306 17 435 300 1 435 308 2 433 301",
    "4 456 308 5 43A 301 1 438 300 1 443 306 19 475 30F 4B 436 306 F 430 306 2 430 308",
    "4 435 306 4 4D9 308 2 436 308 2 437 308 4 438 304 2 438 308 2 43E 308 4 4E9 308 2 44D 308",
    "2 443 304 2 443 308 2 443 30B 2 447 308 4 44B 308 129 627 653 1 627 654 1 648 654",
    "1 627 655 1 64A 654 9A 6D5 654 2 6C1 654 11 6D2 654 256 928 93C 8 930 93C 3 933 93C",
    "97 9C7 9BE 1 9C7 9D7 17C B47 B56 3 B47 B3E 1 B47 B57 48 B92 BD7 36 BC6 BBE 1 BC7 BBE",
    "1 BC6 BD7 7C C46 C56 78 CBF CD5 7 CC6 CD5 1 CC6 CD6 2 CC6 CC2 1 CCA CD5 7F D46 D3E",
    "1 D47 D3E 1 D46 D57 8E DD9 DCA 2 DD9 DCF 1 DDC DCA 1 DD9 DDF 248 1025 102E AE0 1B05 1B35",
    "2 1B07 1B35 2 1B09 1B35 2 1B0B 1B35 2 1B0D 1B35 4 1B11 1B35 29 1B3A 1B35 2 1B3C 1B35",
    "3 1B3E 1B35 1 1B3F 1B35 2 1B42 1B35 2BE 61 325 2 62 307 2 62 323 2 62 331 2 E7 301",
    "2 64 307 2 64 323 2 64 331 2 64 327 2 64 32D 2 113 300 2 113 301 2 65 32D 2 65 330",
    "2 229 306 2 66 307 2 67 304 2 68 307 2 68 323 2 68 308 2 68 327 2 68 32E 2 69 330",
    "2 EF 301 2 6B 301 2 6B 323 2 6B 331 2 6C 323 2 1E37 304 2 6C 331 2 6C 32D 2 6D 301",
    "2 6D 307 2 6D 323 2 6E 307 2 6E 323 2 6E 331 2 6E 32D 2 F5 301 2 F5 308 2 14D 300",
    "2 14D 301 2 70 301 2 70 307 2 72 307 2 72 323 2 1E5B 304 2 72 331 2 73 307 2 73 323",
    "2 15B 307 2 161 307 2 1E63 307 2 74 307 2 74 323 2 74 331 2 74 32D 2 75 324 2 75 330",
    "2 75 32D 2 169 301 2 16B 308 2 76 303 2 76 323 2 77 300 2 77 301 2 77 308 2 77 307",
    "2 77 323 2 78 307 2 78 308 2 79 307 2 7A 302 2 7A 323 2 7A 331 1 68 331 1 74 308 1 77 30A",
    "1 79 30A 8 61 323 2 61 309 2 E2 301 2 E2 300 2 E2 309 2 E2 303 2 1EA1 302 2 103 301",
    "2 103 300 2 103 309 2 103 303 2 1EA1 306 2 65 323 2 65 309 2 65 303 2 EA 301 2 EA 300",
    "2 EA 309 2 EA 303 2 1EB9 302 2 69 309 2 69 323 2 6F 323 2 6F 309 2 F4 301 2 F4 300",
    "2 F4 309 2 F4 303 2 1ECD 302 2 1A1 301 2 1A1 300 2 1A1 309 2 1A1 303 2 1A1 323 2 75 323",
    "2 75 309 2 1B0 301 2 1B0 300 2 1B0 309 2 1B0 303 2 1B0 323 2 79 300 2 79 323 2 79 309",
    "2 79 303 7 3B1 313 1 3B1 314 1 1F00 300 1 1F01 300 1 1F00 301 1 1F01 301 1 1F00 342",
    "1 1F01 342 9 3B5 313 1 3B5 314 1 1F10 300 1 1F11 300 1 1F10 301 1 1F11 301 B 3B7 313",
    "1 3B7 314 1 1F20 300 1 1F21 300 1 1F20 301 1 1F21 301 1 1F20 342 1 1F21 342 9 3B9 313",
    "1 3B9 314 1 1F30 300 1 1F31 300 1 1F30 301 1 1F31 301 1 1F30 342 1 1F31 342 9 3BF 313",
    "1 3BF 314 1 1F40 300 1 1F41 300 1 1F40 301 1 1F41 301 B 3C5 313 1 3C5 314 1 1F50 300",
    "1 1F51 300 1 1F50 301 1 1F51 301 1 1F50 342 1 1F51 342 9 3C9 313 1 3C9 314 1 1F60 300",
    "1 1F61 300 1 1F60 301 1 1F61 301 1 1F60 342 1 1F61 342 9 3B1 300 2 3B5 300 2 3B7 300",
    "2 3B9 300 2 3BF 300 2 3C5 300 2 3C9 300 34 3B1 306 1 3B1 304 5 3B1 342 10 3B7 342",
    "A 3B9 306 1 3B9 304 1 3CA 300 4 3B9 342 1 3CA 342 9 3C5 306 1 3C5 304 1 3CB 300 2 3C1 313",
    "1 3C1 314 1 3C5 342 1 3CB 342 F 3C9 342 1A4 2190 338 1 2192 338 13 2194 338 1F 21D0 338",
    "1 21D4 338 1 21D2 338 35 2203 338 5 2208 338 3 220B 338 18 2223 338 2 2225 338",
    "1B 223C 338 3 2243 338 3 2245 338 2 2248 338 17 3D 338 2 2261 338 B 224D 338 1 3C 338",
    "1 3E 338 1 2264 338 1 2265 338 3 2272 338 1 2273 338 3 2276 338 1 2277 338 7 227A 338",
    "1 227B 338 3 2282 338 1 2283 338 3 2286 338 1 2287 338 23 22A2 338 1 22A8 338 1 22A9 338",
    "1 22AB 338 31 227C 338 1 227D 338 1 2291 338 1 2292 338 7 22B2 338 1 22B3 338 1 22B4 338",
    "1 22B5 338 D5F 304B 3099 2 304D 3099 2 304F 3099 2 3051 3099 2 3053 3099 2 3055 3099",
    "2 3057 3099 2 3059 3099 2 305B 3099 2 305D 3099 2 305F 3099 2 3061 3099 3 3064 3099",
    "2 3066 3099 2 3068 3099 7 306F 3099 1 306F 309A 2 3072 3099 1 3072 309A 2 3075 3099",
    "1 3075 309A 2 3078 3099 1 3078 309A 2 307B 3099 1 307B 309A 17 3046 3099 A 309D 3099",
    "E 30AB 3099 2 30AD 3099 2 30AF 3099 2 30B1 3099 2 30B3 3099 2 30B5 3099 2 30B7 3099",
    "2 30B9 3099 2 30BB 3099 2 30BD 3099 2 30BF 3099 2 30C1 3099 3 30C4 3099 2 30C6 3099",
    "2 30C8 3099 7 30CF 3099 1 30CF 309A 2 30D2 3099 1 30D2 309A 2 30D5 3099 1 30D5 309A",
    "2 30D8 3099 1 30D8 309A 2 30DB 3099 1 30DB 309A 17 30A6 3099 3 30EF 3099 1 30F0 3099",
    "1 30F1 3099 1 30F2 3099 4 30FD 3099 D4CB 105D2 307 1B 105DA 307 AB6 11099 110BA",
    "2 1109B 110BA F 110A5 110BA 83 11131 11127 1 11132 11127 21C 11347 1133E 1 11347 11357",
    "37 11382 113C9 2 11384 113BB 9 1138B 113C2 3 11390 113C9 34 113C2 113C2 2 113C2 113B8",
    "1 113C2 113C9 F3 114B9 114BA 1 114B9 114B0 2 114B9 114BD FC 115B8 115AF 1 115B9 115AF",
    "37D 11935 11930 47E9 1611E 1611E 1 1611E 16129 1 1611E 1611F 1 16129 1611F 1 1611E 16120",
    "1 16121 1611F 1 16122 1611F 1 16121 16120 C40 16D67 16D67 1 16D63 16D67 1 16D69 16D67"])

namespace Hangul

def base : Nat := 0xAC00

/-- The pair to which a syllable is equivalent: a syllable without a final consonant and the
consonant, or the other two letters. -/
def pair? (n : Nat) : Option (Nat × Nat) :=
  if base ≤ n && n < base + 11172 then
    let i := n - base
    if i % 28 = 0 then some (0x1100 + i / 588, 0x1161 + i / 28 % 21)
    else some (n - i % 28, 0x11A7 + i % 28)
  else none

def syllable? (a b : Nat) : Option Nat :=
  if 0x1100 ≤ a && a < 0x1113 && 0x1161 ≤ b && b < 0x1176 then
    some (base + (a - 0x1100) * 588 + (b - 0x1161) * 28)
  else if base ≤ a && a < base + 11172 && (a - base) % 28 = 0 && 0x11A8 ≤ b && b < 0x11C3 then
    some (a + (b - 0x11A7))
  else none

end Hangul

/-- The pair to which a character is equivalent. The first letter with an accent is `À`. -/
def pair? (n : Nat) : Option (Nat × Nat) :=
  if n < 0xC0 then none else Hangul.pair? n <|> (pairs.find? (·.1 == n)).map (·.2)

/-- The character to which a pair is equivalent. Nothing before `<` has a mark put on it, and the
first mark is U+0300. -/
def paired? (a b : Char) : Option Char :=
  if a.toNat < 0x3C || b.toNat < 0x300 then none
  else
    (Hangul.syllable? a.toNat b.toNat <|>
      (pairs.find? (·.2 == (a.toNat, b.toNat))).map (·.1)).map Char.ofNat

/-- A character taken apart, `levels` times at most. -/
def takeApart : (levels : Nat) → Char → List Char
  | 0, c => [c]
  | n + 1, c =>
    match pair? c.toNat with
    | some (a, b) => takeApart n (Char.ofNat a) ++ [Char.ofNat b]
    | none => [c]

/-- Puts a character behind others, given in reverse, and before marks of a higher class. -/
def place (c : Char) : List Char → List Char
  | [] => [c]
  | d :: ds =>
    if combiningClass c != 0 && combiningClass c < combiningClass d then d :: place c ds
    else c :: d :: ds

/-- A text with its marks in the order of their classes. -/
def sortMarks (cs : List Char) : List Char := (cs.foldl (fun ds c => place c ds) []).reverse

/-- A text put together behind a character and the marks, in reverse, that did not combine with it.
A mark reaches the character over marks of a lower class only. -/
def putTogether (starter : Char) (marks : List Char) : List Char → List Char
  | [] => starter :: marks.reverse
  | c :: cs =>
    let reached := marks.all fun m => combiningClass m != 0 && combiningClass m < combiningClass c
    match if reached then paired? starter c else none with
    | some d => putTogether d marks cs
    | none =>
      if combiningClass c = 0 then starter :: (marks.reverse ++ putTogether c [] cs)
      else putTogether starter (c :: marks) cs

/-- The chosen one among the texts equivalent to a text. -/
def compose (cs : List Char) : List Char :=
  match sortMarks (cs.flatMap (takeApart 3)) with
  | [] => []
  | c :: cs => putTogether c [] cs

/-- Whether a text is the chosen one among its equivalents. -/
def isComposed (cs : List Char) : Bool := compose cs == cs

end Switchboard.Text
