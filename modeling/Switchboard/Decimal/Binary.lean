/-!
# Binary floating point, exactly

A finite double is `± mantissa · 2 ^ exponent`. `Double.ofBits` reads that form off the 64
bits, so everything printed about a double is computed in whole numbers.
-/
namespace Switchboard.Decimal

/-- The number `mantissa · 2 ^ exponent`, with a sign that zero keeps too. `spacingHalved` says
that the next smaller number is half as far away as the next larger one. -/
structure Dyadic where
  negative : Bool
  mantissa : Nat
  exponent : Int
  spacingHalved : Bool
  deriving DecidableEq, Repr

inductive Double where
  | finite (d : Dyadic)
  | infinite (negative : Bool)
  | nan
  deriving DecidableEq, Repr

/-- The fields of a double: one bit of sign, eleven of exponent, fifty-two of fraction. -/
def Double.ofBits (bits : UInt64) : Double :=
  let n := bits.toNat
  let negative : Bool := n / Nat.pow 2 63 = 1
  let biased : Nat := n / Nat.pow 2 52 % Nat.pow 2 11
  let fraction : Nat := n % Nat.pow 2 52
  if biased = 2047 then
    if fraction = 0 then .infinite negative else .nan
  else if biased = 0 then
    .finite { negative, mantissa := fraction, exponent := -1074, spacingHalved := false }
  else
    .finite
      { negative, mantissa := Nat.pow 2 52 + fraction, exponent := (biased : Int) - 1075,
        spacingHalved := fraction = 0 && biased != 1 }

def Double.ofFloat (x : Float) : Double := .ofBits x.toBits

/-- The number `mantissa · 2 ^ exponent · 10 ^ places` as a fraction, without the sign. -/
def Dyadic.scaled (d : Dyadic) (places : Int) : Nat × Nat :=
  (d.mantissa * Nat.pow 2 d.exponent.toNat * Nat.pow 10 places.toNat,
    Nat.pow 2 (-d.exponent).toNat * Nat.pow 10 (-places).toNat)

end Switchboard.Decimal
