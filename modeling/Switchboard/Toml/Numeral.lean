import Switchboard.Text.Hex
import Switchboard.Toml.Value

/-!
# Numbers

Digits may have single underscores between them. An integer has 64 bits with a sign; after `0x`,
`0o` or `0b` it has digits of another base and no sign. A number with a point or an exponent is a
float, and one that is too large for a double is refused.
-/
namespace Switchboard.Toml

/-- The value of a digit of a base. -/
def digit? (base : Nat) (c : Char) : Option Nat := (Text.hexValue? c).filter (· < base)

/-- The digits at the front of a text that are left of a number. An underscore needs a digit behind
it. -/
def moreDigits (base : Nat) : Reader (List Nat)
  | [] => some ([], [])
  | '_' :: c :: r => do
    let d ← digit? base c
    let (ds, rest) ← moreDigits base r
    return (d :: ds, rest)
  | c :: r =>
    match digit? base c with
    | some d => do
      let (ds, rest) ← moreDigits base r
      return (d :: ds, rest)
    | none => if c = '_' then none else some ([], c :: r)

def readDigits (base : Nat) : Reader (List Nat)
  | [] => none
  | c :: r => do
    let d ← digit? base c
    let (ds, rest) ← moreDigits base r
    return (d :: ds, rest)

/-- The number that digits of a base stand for. -/
def valueOf (base : Nat) (ds : List Nat) : Nat := ds.foldl (fun n d => n * base + d) 0

/-- Whether there is a minus sign in front, and the text behind the sign. -/
def readSign : List Char → Bool × List Char
  | '-' :: r => (true, r)
  | '+' :: r => (false, r)
  | text => (false, text)

/-- The digits before a point. A zero in front is the only one. -/
def readWhole : Reader (List Nat)
  | '0' :: r => some ([0], r)
  | text => readDigits 10 text

/-- The digits behind a point, if there is a point. -/
def readFraction : Reader (Option (List Nat))
  | '.' :: r => (readDigits 10 r).map fun (ds, rest) => (some ds, rest)
  | text => some (none, text)

def readExponent : Reader (Option Int)
  | [] => some (none, [])
  | e :: r =>
    if e = 'e' || e = 'E' then do
      let (negative, r) := readSign r
      let (ds, rest) ← readDigits 10 r
      let size : Int := valueOf 10 ds
      return (some (if negative then -size else size), rest)
    else some (none, e :: r)

/-- Whether `significand · 10 ^ exponent` rounds to a double beyond the largest, which is so from
half a step behind that one on. -/
def isTooLarge (significand : Nat) (exponent : Int) : Bool :=
  let length : Int := (Nat.toDigits 10 significand).length
  if significand = 0 || length + exponent < 309 then false
  else if 309 < length + exponent then true
  else
    Nat.pow 2 1024 - Nat.pow 2 970 ≤
      significand * Nat.pow 10 exponent.toNat / Nat.pow 10 (-exponent).toNat

/-- A number of 64 bits with a sign. -/
def integer? (n : Int) : Option Value :=
  if -0x8000000000000000 ≤ n && n < 0x8000000000000000 then some (.integer n) else none

/-- An integer of a base, behind the mark of the base. -/
def readBased (base : Nat) : Reader Value := fun text => do
  let (ds, rest) ← readDigits base text
  let v ← integer? (valueOf base ds)
  return (v, rest)

/-- A number in base 10, behind its sign. -/
def readDecimal (negative : Bool) : Reader Value := fun text => do
  let (whole, r) ← readWhole text
  let (fraction, r) ← readFraction r
  let (exponent, r) ← readExponent r
  if fraction.isNone && exponent.isNone then
    let size : Int := valueOf 10 whole
    let v ← integer? (if negative then -size else size)
    return (v, r)
  else
    let decimals := fraction.getD []
    let significand := valueOf 10 (whole ++ decimals)
    let exponent := exponent.getD 0 - decimals.length
    if !negative && isTooLarge significand exponent then none
    else return (.real (.finite negative significand exponent), r)

def readNumber : Reader Value
  | '0' :: 'x' :: r => readBased 16 r
  | '0' :: 'o' :: r => readBased 8 r
  | '0' :: 'b' :: r => readBased 2 r
  | text =>
    let (negative, r) := readSign text
    match r with
    | 'i' :: 'n' :: 'f' :: r => some (.real (.infinite negative), r)
    | 'n' :: 'a' :: 'n' :: r => some (.real .nan, r)
    | _ => readDecimal negative r

end Switchboard.Toml
