import Switchboard.Json.Fault
import Switchboard.Json.Numeral

/-!
# Strings in a JSON text

`readString` reads what stands behind an opening quotation mark, up to and with the closing one.
Escapes become the bytes of their characters; two escapes that are the halves of a surrogate pair
become one character. The bytes of the string have to be UTF-8.

`skipString` passes over a string whose content is not wanted. It checks the form of the escapes,
and refuses control characters at the place before them.
-/
namespace Switchboard.Json

def hexValue? (b : UInt8) : Option Nat :=
  if 0x30 ≤ b && b ≤ 0x39 then some (b.toNat - 0x30)
  else if 0x41 ≤ b && b ≤ 0x46 then some (b.toNat - 0x41 + 10)
  else if 0x61 ≤ b && b ≤ 0x66 then some (b.toNat - 0x61 + 10)
  else none

def readHex4 : List UInt8 → Except Fault (Nat × List UInt8)
  | a :: b :: c :: d :: r =>
    match hexValue? a, hexValue? b, hexValue? c, hexValue? d with
    | some w, some x, some y, some z => .ok (((w * 16 + x) * 16 + y) * 16 + z, r)
    | _, _, _, _ => here .invalidEscape r
  | _ => here .endInString []

/-- The byte that a letter stands for behind a backslash. -/
def escaped? (b : UInt8) : Option UInt8 :=
  if b = 0x22 || b = 0x5C || b = 0x2F then some b
  else if b = 0x62 then some 0x08
  else if b = 0x66 then some 0x0C
  else if b = 0x6E then some 0x0A
  else if b = 0x72 then some 0x0D
  else if b = 0x74 then some 0x09
  else none

/-- The second half of a surrogate pair, with its backslash and letter. -/
def readLowSurrogate : List UInt8 → Except Fault (Nat × List UInt8)
  | [] => here .endInString []
  | 0x5C :: r =>
    match r with
    | [] => here .endInString []
    | 0x75 :: r₁ => do
      let (n, r₂) ← readHex4 r₁
      if 0xDC00 ≤ n && n ≤ 0xDFFF then return (n, r₂) else here .loneSurrogate r₂
    | _ :: r₁ => here .unpairedSurrogate r₁
  | _ :: r => here .unpairedSurrogate r

def readCodePoint (text : List UInt8) : Except Fault (Char × List UInt8) := do
  let (n, r) ← readHex4 text
  if 0xDC00 ≤ n && n ≤ 0xDFFF then here .loneSurrogate r
  else if 0xD800 ≤ n && n ≤ 0xDBFF then do
    let (m, r₁) ← readLowSurrogate r
    return (Char.ofNat (0x10000 + (n - 0xD800) * 0x400 + (m - 0xDC00)), r₁)
  else return (Char.ofNat n, r)

/-- What an escape stands for, read behind its backslash. -/
def readEscape : List UInt8 → Except Fault (List UInt8 × List UInt8)
  | [] => here .endInString []
  | 0x75 :: r => do
    let (c, r₁) ← readCodePoint r
    return (Utf8.encode [c], r₁)
  | b :: r =>
    match escaped? b with
    | some x => .ok ([x], r)
    | none => here .invalidEscape r

/-- The bytes of a string, given those read so far in reverse. `fuel` bounds the count of
characters and escapes that may still come. -/
def readContent : Nat → List UInt8 → List UInt8 → Except Fault (List UInt8 × List UInt8)
  | 0, _, text => here .endInString text
  | _ + 1, _, [] => here .endInString []
  | fuel + 1, read, b :: r =>
    if b = 0x22 then .ok (read.reverse, r)
    else if b = 0x5C then
      match readEscape r with
      | .ok (bs, r₁) => readContent fuel (bs.reverseAux read) r₁
      | .error e => .error e
    else if b < 0x20 then here .controlCharacter r
    else readContent fuel (b :: read) r

/-- The string behind an opening quotation mark. -/
def readString (fuel : Nat) (text : List UInt8) : Except Fault (String × List UInt8) := do
  let (bs, rest) ← readContent fuel [] text
  match Utf8.text? bs with
  | some s => return (s, rest)
  | none => here .invalidCodePoint rest

/-- What follows an escape, read behind its backslash. -/
def skipEscape : List UInt8 → Except Fault (List UInt8)
  | [] => here .endInString []
  | 0x75 :: r => (readHex4 r).map (·.2)
  | b :: r => if (escaped? b).isSome then .ok r else here .invalidEscape r

def skipString : Nat → List UInt8 → Except Fault (List UInt8)
  | 0, text => here .endInString text
  | _ + 1, [] => here .endInString []
  | fuel + 1, b :: r =>
    if b = 0x22 then .ok r
    else if b = 0x5C then
      match skipEscape r with
      | .ok r₁ => skipString fuel r₁
      | .error e => .error e
    else if b < 0x20 then here .controlCharacter (b :: r)
    else skipString fuel r

end Switchboard.Json
