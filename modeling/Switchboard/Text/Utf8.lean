/-!
# UTF-8

`encode` writes characters as bytes. `scan` reads bytes back as a list of units: a
character, or `none` for one malformed run. A run is as long as it could still have become
a character, so a byte that breaks a sequence is read again as the start of the next unit.

* `decode?` accepts exactly the byte lists without a malformed run.
* `decodeLossy` puts U+FFFD in the place of each malformed run.
-/
namespace Switchboard.Utf8

/-- A character as one to four bytes. -/
def encode (cs : List Char) : List UInt8 := cs.flatMap String.utf8EncodeChar

def bytes (s : String) : List UInt8 := encode s.toList

def size (s : String) : Nat := (bytes s).length

/-- A character of which at least one byte has been read. The next byte has to lie between
`low` and `high`, and `owed` more follow it; `bits` are those read so far. -/
structure Partial where
  bits : Nat
  low : UInt8
  high : UInt8
  owed : Nat

/-- What a byte is at the start of a unit. -/
inductive Lead where
  | char (c : Char)
  | more (p : Partial)
  | malformed

/-- The first byte of a character. The range of its second byte is narrower where a wider one
would admit a surrogate, a value above U+10FFFF or a value with a shorter form. -/
def lead (b : UInt8) : Lead :=
  if b < 0x80 then .char (Char.ofNat b.toNat)
  else if b < 0xC2 then .malformed
  else if b < 0xE0 then .more ⟨b.toNat % 32, 0x80, 0xBF, 0⟩
  else if b < 0xF0 then
    .more ⟨b.toNat % 16, if b = 0xE0 then 0xA0 else 0x80, if b = 0xED then 0x9F else 0xBF, 1⟩
  else if b < 0xF5 then
    .more ⟨b.toNat % 8, if b = 0xF0 then 0x90 else 0x80, if b = 0xF4 then 0x8F else 0xBF, 2⟩
  else .malformed

/-- The units of a byte list that continues `open?`. -/
def scanFrom (open? : Option Partial) : List UInt8 → List (Option Char)
  | [] => if open?.isSome then [none] else []
  | b :: r =>
    let start : List (Option Char) :=
      match lead b with
      | .char c => some c :: scanFrom none r
      | .more p => scanFrom (some p) r
      | .malformed => none :: scanFrom none r
    match open? with
    | none => start
    | some p =>
      if p.low ≤ b && b ≤ p.high then
        let bits := p.bits * 64 + b.toNat % 64
        match p.owed with
        | 0 => some (Char.ofNat bits) :: scanFrom none r
        | n + 1 => scanFrom (some ⟨bits, 0x80, 0xBF, n⟩) r
      else none :: start

/-- The units of a byte list. -/
def scan (bs : List UInt8) : List (Option Char) := scanFrom none bs

/-- The characters of well-formed bytes. -/
def decode? (bs : List UInt8) : Option (List Char) := (scan bs).mapM id

/-- The characters of any bytes, U+FFFD for each malformed run. -/
def decodeLossy (bs : List UInt8) : List Char := (scan bs).map (·.getD '\uFFFD')

/-- The text of well-formed bytes. -/
def text? (bs : List UInt8) : Option String := (decode? bs).map String.ofList

/-- The text of any bytes. -/
def textLossy (bs : List UInt8) : String := String.ofList (decodeLossy bs)

end Switchboard.Utf8
