import Switchboard.Json.Fault

/-!
# Numbers in a JSON text

A `Numeral` is a number as it is written: digits before and after the point and an exponent.
`Numeral.read` takes one off the front of a text. `Numeral.value?` gives its value:

* whole numbers that 64 bits hold keep their value, except that `-0` is a double;
* of every other number the first digits, as many as 64 bits hold, become a double, which is
  then multiplied or divided by a power of ten. The result may be off by a rounding, and a
  number too large for a double has no value.
-/
namespace Switchboard.Json

/-- A refusal at the place reached so far. -/
def here {α : Type} (cause : Cause) (rest : List UInt8) : Except Fault α :=
  .error { cause, left := rest.length }

/-- A refusal of the next byte: its place is after that byte, or at the end of the text. -/
def atNext {α : Type} (cause : Cause) (rest : List UInt8) : Except Fault α :=
  .error { cause, left := rest.length - 1 }

def digit? (b : UInt8) : Option Nat :=
  if 0x30 ≤ b && b ≤ 0x39 then some (b.toNat - 0x30) else none

def takeDigits : List UInt8 → List Nat × List UInt8
  | [] => ([], [])
  | b :: r =>
    match digit? b with
    | some d => let (ds, rest) := takeDigits r; (d :: ds, rest)
    | none => ([], b :: r)

/-- The exponent of a number: its sign, its digits, and how many bytes of the text follow. -/
structure Exponent where
  negative : Bool
  digits : List Nat
  left : Nat

structure Numeral where
  negative : Bool
  whole : List Nat
  fraction : Option (List Nat)
  exponent : Option Exponent

/-- The digits before the point: one zero, or digits that start with another. `atEnd` is the
refusal of a text that ends before the first. -/
def readWhole (atEnd : Cause) : List UInt8 → Except Fault (List Nat × List UInt8)
  | [] => here atEnd []
  | b :: r =>
    match digit? b with
    | none => here .invalidNumber r
    | some 0 =>
      match takeDigits r with
      | ([], rest) => .ok ([0], rest)
      | _ => atNext .invalidNumber r
    | some d => let (ds, rest) := takeDigits r; .ok (d :: ds, rest)

/-- The digits after the point, if there is a point. -/
def readFraction (atEnd : Cause) : List UInt8 → Except Fault (Option (List Nat) × List UInt8)
  | 0x2E :: r =>
    match takeDigits r with
    | ([], []) => here atEnd []
    | ([], rest) => atNext .invalidNumber rest
    | (ds, rest) => .ok (some ds, rest)
  | rest => .ok (none, rest)

def readExponentDigits (atEnd : Cause) (negative : Bool) :
    List UInt8 → Except Fault (Option Exponent × List UInt8)
  | [] => here atEnd []
  | b :: r =>
    match digit? b with
    | none => here .invalidNumber r
    | some d =>
      let (ds, rest) := takeDigits r
      .ok (some { negative, digits := d :: ds, left := rest.length }, rest)

def readExponent (atEnd : Cause) : List UInt8 → Except Fault (Option Exponent × List UInt8)
  | [] => .ok (none, [])
  | e :: r =>
    if e = 0x65 || e = 0x45 then
      match r with
      | 0x2B :: r₁ => readExponentDigits atEnd false r₁
      | 0x2D :: r₁ => readExponentDigits atEnd true r₁
      | _ => readExponentDigits atEnd false r
    else .ok (none, e :: r)

def Numeral.read (atEnd : Cause) (text : List UInt8) : Except Fault (Numeral × List UInt8) := do
  let (negative, r) := match text with
    | 0x2D :: r => (true, r)
    | _ => (false, text)
  let (whole, r) ← readWhole atEnd r
  let (fraction, r) ← readFraction atEnd r
  let (exponent, r) ← readExponent atEnd r
  return ({ negative, whole, fraction, exponent }, r)

/-- The digits added behind `n`, as long as 64 bits hold the result, and those that are left. -/
def absorb (n : Nat) : List Nat → Nat × List Nat
  | [] => (n, [])
  | d :: ds => if n * 10 + d < 0x10000000000000000 then absorb (n * 10 + d) ds else (n, d :: ds)

/-- The digits of an exponent as a number, or the digits after the one with which it passes
`0x7FFFFFFF`. -/
def exponentValue (n : Nat) : List Nat → Except (List Nat) Nat
  | [] => .ok n
  | d :: ds => if n * 10 + d < 0x80000000 then exponentValue (n * 10 + d) ds else .error ds

/-- A power of ten as a double, up to `10 ^ 308`. -/
def powerOfTen (k : Nat) : Float := Float.ofScientific 1 false k

/-- A double divided by `10 ^ k`, in steps of `10 ^ 308`. -/
def shrink (x : Float) (k : Nat) : Float :=
  if k ≤ 308 then x / powerOfTen k
  else if x == 0 then x
  else shrink (x / powerOfTen 308) (k - 308)
termination_by k

/-- A double times `10 ^ k`, unless that is too large. -/
def grow (x : Float) (k : Nat) : Option Float :=
  if k ≤ 308 then
    let y := x * powerOfTen k
    if y.isInf then none else some y
  else if x == 0 then some x
  else none

/-- A number with an exponent: `significand · 10 ^ exponent`. -/
def scaled (significand : Nat) (exponent : Int) : Option Float :=
  let x := significand.toUInt64.toFloat
  if exponent < 0 then some (shrink x exponent.natAbs) else grow x exponent.toNat

def Number.ofFloat (x : Float) : Number := .real x.toBits

def signed (negative : Bool) (x : Float) : Number := .ofFloat (if negative then -x else x)

/-- A whole number of 64 bits with a sign. Zero with a minus sign and numbers that 64 bits do not
hold with their sign are doubles. -/
def wholeNumber (negative : Bool) (n : Nat) : Number :=
  if negative then
    if h : 0 < n ∧ n ≤ 0x8000000000000000 then .whole ⟨-n, by omega, by omega⟩
    else signed true n.toUInt64.toFloat
  else if h : n < 0x10000000000000000 then .whole ⟨n, by omega, by omega⟩
  else signed false n.toUInt64.toFloat

/-- The value of a number, or the count of bytes after the place where it became too large.
`left` is the count of bytes after the number. -/
def Numeral.value? (n : Numeral) (left : Nat) : Except Fault Number :=
  let (start, beyond) := absorb 0 n.whole
  if beyond.isEmpty && n.fraction.isNone && n.exponent.isNone then
    .ok (wholeNumber n.negative start)
  else
    let fraction := n.fraction.getD []
    let (significand, ignored) := absorb start fraction
    let point : Int := beyond.length - (fraction.length - ignored.length : Nat)
    let finish (exponent : Int) : Except Fault Number :=
      match scaled significand exponent with
      | some x => .ok (signed n.negative x)
      | none => .error { cause := .numberOutOfRange, left }
    match n.exponent with
    | none => finish point
    | some e =>
      match exponentValue 0 e.digits with
      | .ok k => finish (if e.negative then point - k else point + k)
      | .error after =>
        if significand ≠ 0 && !e.negative then
          .error { cause := .numberOutOfRange, left := e.left + after.length }
        else .ok (signed n.negative 0)

def readNumber (text : List UInt8) : Except Fault (Number × List UInt8) := do
  let (n, rest) ← Numeral.read .endInValue text
  let x ← n.value? rest.length
  return (x, rest)

end Switchboard.Json
