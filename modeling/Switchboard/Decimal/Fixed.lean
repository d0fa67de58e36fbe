import Switchboard.Decimal.Binary

/-!
# Numbers with a fixed count of decimal places

The exact value is rounded once, to the nearest number with that many places; a value half way
between two of them goes to the one whose last digit is even. The sign is kept for zero, and
the two infinities and the absence of a number have words of their own.
-/
namespace Switchboard.Decimal

/-- The whole number nearest to `num / den`, the even one of two equally near. -/
def roundHalfEven (num den : Nat) : Nat :=
  let q := num / den
  let twice := 2 * (num % den)
  if twice < den then q else if den < twice then q + 1 else q + q % 2

/-- Digits with zeros in front, so that there are at least `width`. -/
def padZeros (width : Nat) (digits : List Char) : List Char :=
  List.replicate (width - digits.length) '0' ++ digits

def fixedDigits (units places : Nat) : List Char :=
  let digits := padZeros (places + 1) (Nat.toDigits 10 units)
  let whole := digits.length - places
  if places = 0 then digits else digits.take whole ++ '.' :: digits.drop whole

theorem isDigit_of_mem_padZeros {width units : Nat} {c : Char}
    (h : c ∈ padZeros width (Nat.toDigits 10 units)) : c.isDigit = true := by
  rcases List.mem_append.mp h with h | h
  · rw [List.eq_of_mem_replicate h]
    rfl
  · exact Nat.isDigit_of_mem_toDigits (by decide) (by decide) h

/-- Besides digits there is only the point. -/
theorem of_mem_fixedDigits {units places : Nat} {c : Char} (h : c ∈ fixedDigits units places) :
    c.isDigit = true ∨ c = '.' := by
  rw [fixedDigits] at h
  split at h
  · exact .inl (isDigit_of_mem_padZeros h)
  · rcases List.mem_append.mp h with h | h
    · exact .inl (isDigit_of_mem_padZeros (List.mem_of_mem_take h))
    · rcases List.mem_cons.mp h with h | h
      · exact .inr h
      · exact .inl (isDigit_of_mem_padZeros (List.mem_of_mem_drop h))

/-- A double with `places` digits after the point. -/
def fixed (places : Nat) (x : Float) : String :=
  match Double.ofFloat x with
  | .nan => "NaN"
  | .infinite negative => if negative then "-inf" else "inf"
  | .finite d =>
    let (num, den) := d.scaled places
    let digits := fixedDigits (roundHalfEven num den) places
    String.ofList (if d.negative then '-' :: digits else digits)

/-- Whatever the double is, its text has digits, a sign, a point and the letters of two words. -/
theorem of_mem_fixed {places : Nat} {x : Float} {c : Char} (h : c ∈ (fixed places x).toList) :
    c.isDigit = true ∨ c ∈ "-.NaNinf".toList := by
  have nan : "NaN".toList ⊆ "-.NaNinf".toList := by decide
  have infinite (negative : Bool) :
      (if negative then "-inf" else "inf").toList ⊆ "-.NaNinf".toList := by
    cases negative <;> decide
  have digits {units : Nat} (h : c ∈ fixedDigits units places) :
      c.isDigit = true ∨ c ∈ "-.NaNinf".toList := by
    rcases of_mem_fixedDigits h with digit | point
    · exact .inl digit
    · exact .inr (point ▸ by decide)
  rw [fixed] at h
  split at h
  · exact .inr (nan h)
  · exact .inr (infinite _ h)
  · rw [String.toList_ofList] at h
    split at h
    · rcases List.mem_cons.mp h with sign | h
      · exact .inr (sign ▸ by decide)
      · exact digits h
    · exact digits h

end Switchboard.Decimal
