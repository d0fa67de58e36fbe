import Switchboard.Decimal.Binary

/-!
# The shortest decimal that reads back

Every double is nearest to a whole interval of reals; the ends belong to it when the mantissa
is even. `shortest` looks for the fewest digits with which a decimal lies in that interval. On
the grid of `n`-digit decimals only the two neighbours of the value can be the nearest point of
the interval, so they alone are tested; of two that fit the nearer is taken, the even one when
both are equally near.
-/
namespace Switchboard.Decimal

/-- A positive decimal `0.d₁d₂… · 10 ^ point`. -/
structure Digits where
  digits : List Char
  point : Int
  deriving DecidableEq, Repr

/-- The power of ten above a positive fraction: the least `k` from `start` on, among `fuel`
candidates, with `num / den < 10 ^ k`. -/
def magnitudeFrom (num den : Nat) : Nat → Int → Int
  | 0, k => k
  | fuel + 1, k =>
    if num * Nat.pow 10 (-k).toNat < den * Nat.pow 10 k.toNat then k
    else magnitudeFrom num den fuel (k + 1)

/-- A first guess at the power of ten above `mantissa · 2 ^ exponent`, never too large. -/
def Dyadic.magnitudeGuess (d : Dyadic) : Int :=
  ((Nat.log2 d.mantissa : Int) + d.exponent) * 30103 / 100000 - 1

/-- Whether the decimal `c · 10 ^ g` rounds to the double: `|c · 10 ^ g - value|` is at most half
the spacing on its side, the bound itself being enough for even mantissas only. All is measured in
units of `2 ^ (exponent - 2) · 10 ^ g`. -/
def Dyadic.holds (d : Dyadic) (c : Nat) (g : Int) : Bool :=
  let two := Nat.pow 2 (-(d.exponent - 2)).toNat
  let two' := Nat.pow 2 (d.exponent - 2).toNat
  let point := c * Nat.pow 10 g.toNat * two
  let unit := Nat.pow 10 (-g).toNat * two'
  let low := (4 * d.mantissa - (if d.spacingHalved then 1 else 2)) * unit
  let high := (4 * d.mantissa + 2) * unit
  if d.mantissa % 2 = 0 then low ≤ point && point ≤ high else low < point && point < high

/-- The best decimal with `n` digits, if one reads back: its digits as a number. -/
def Dyadic.decimal? (d : Dyadic) (magnitude : Int) (n : Nat) : Option Nat :=
  let g := magnitude - n
  let (num, den) := d.scaled (-g)
  let below := num / den
  let twice := 2 * (num % den)
  let above := below + 1
  match d.holds below g, d.holds above g with
  | false, false => none
  | true, false => some below
  | false, true => some above
  | true, true =>
    if twice < den then some below
    else if den < twice then some above
    else some (below + below % 2)

def dropZeros (ds : List Char) : List Char := (ds.reverse.dropWhile (· = '0')).reverse

/-- The first count of digits, from `n` on and among `fuel`, with a decimal that reads back. -/
def Dyadic.shortestFrom (d : Dyadic) (magnitude : Int) : Nat → Nat → Digits
  | 0, _ => ⟨['0'], magnitude⟩
  | fuel + 1, n =>
    match d.decimal? magnitude n with
    | some c =>
      let ds := Nat.toDigits 10 c
      ⟨dropZeros ds, magnitude + ((ds.length : Int) - n)⟩
    | none => d.shortestFrom magnitude fuel (n + 1)

/-- The shortest decimal of a positive dyadic number. Seventeen digits are always enough. -/
def Dyadic.shortest (d : Dyadic) : Digits :=
  let (num, den) := d.scaled 0
  d.shortestFrom (magnitudeFrom num den 4 d.magnitudeGuess) 17 1

end Switchboard.Decimal
