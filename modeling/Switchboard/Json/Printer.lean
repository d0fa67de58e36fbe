import Switchboard.Decimal.Shortest
import Switchboard.Json.Value
import Switchboard.Text.Utf8

/-!
# Compact JSON text

No blanks, entries in the order in which the object holds them. A string escapes the quotation
mark, the backslash and the characters below U+0020, with a letter where JSON has one and with
four lower-case hexadecimal digits otherwise.

A double is written with the fewest digits that read back, always with a point or an exponent,
so it never reads as a whole number.
-/
namespace Switchboard.Json

def hexDigit (n : Nat) : Char := Nat.digitChar n

/-- A character inside quotation marks. -/
def escape (c : Char) : List Char :=
  if c = '\x22' then ['\\', '\x22']
  else if c = '\\' then ['\\', '\\']
  else if c = '\x08' then ['\\', 'b']
  else if c = '\x0c' then ['\\', 'f']
  else if c = '\n' then ['\\', 'n']
  else if c = '\r' then ['\\', 'r']
  else if c = '\t' then ['\\', 't']
  else if c.toNat < 0x20 then
    ['\\', 'u', '0', '0', hexDigit (c.toNat / 16), hexDigit (c.toNat % 16)]
  else [c]

def quoted (s : String) : List Char := '\x22' :: (s.toList.flatMap escape ++ ['\x22'])

/-- The decimal exponents that are written by position: from `10 ^ -5` up to below `10 ^ 16`. -/
def isPositional (exponent : Int) : Bool := -5 ≤ exponent && exponent < 16

/-- A positive decimal, by position or with an exponent that always has its sign. -/
def decimalChars (d : Decimal.Digits) : List Char :=
  let exponent := d.point - 1
  if isPositional exponent then
    if d.point ≤ 0 then '0' :: '.' :: (List.replicate (-d.point).toNat '0' ++ d.digits)
    else
      let point := d.point.toNat
      if d.digits.length ≤ point then
        d.digits ++ List.replicate (point - d.digits.length) '0' ++ ['.', '0']
      else d.digits.take point ++ '.' :: d.digits.drop point
  else
    let fraction := match d.digits.drop 1 with | [] => [] | ds => '.' :: ds
    let sign := if exponent < 0 then '-' else '+'
    d.digits.take 1 ++ fraction ++ 'e' :: sign :: Nat.toDigits 10 exponent.natAbs

/-- A double. One without a finite value has no JSON number and is written as `null`. -/
def realChars (bits : UInt64) : List Char :=
  match Decimal.Double.ofBits bits with
  | .finite d =>
    let digits := if d.mantissa = 0 then ['0', '.', '0'] else decimalChars d.shortest
    if d.negative then '-' :: digits else digits
  | _ => ['n', 'u', 'l', 'l']

def wholeChars (n : Int) : List Char :=
  if n < 0 then '-' :: Nat.toDigits 10 n.natAbs else Nat.toDigits 10 n.natAbs

def Number.chars : Number → List Char
  | .whole n => wholeChars n.val
  | .real bits => realChars bits

mutual

def Value.chars : Value → List Char
  | .null => ['n', 'u', 'l', 'l']
  | .bool true => ['t', 'r', 'u', 'e']
  | .bool false => ['f', 'a', 'l', 's', 'e']
  | .number n => n.chars
  | .string s => quoted s
  | .array [] => ['[', ']']
  | .array (v :: vs) => '[' :: (v.chars ++ (moreItems vs ++ [']']))
  | .object [] => ['\x7b', '\x7d']
  | .object ((k, v) :: es) =>
    '\x7b' :: (quoted k ++ ':' :: (v.chars ++ (moreEntries es ++ ['\x7d'])))

def Value.moreItems : List Value → List Char
  | [] => []
  | v :: vs => ',' :: (v.chars ++ moreItems vs)

def Value.moreEntries : List (String × Value) → List Char
  | [] => []
  | (k, v) :: es => ',' :: (quoted k ++ ':' :: (v.chars ++ moreEntries es))

end

def Value.text (v : Value) : String := String.ofList v.chars

/-- The compact text of a value as UTF-8. -/
def Value.bytes (v : Value) : List UInt8 := Utf8.encode v.chars

end Switchboard.Json
