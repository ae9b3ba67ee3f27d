/-!
# The nearest binary number

The binary64 number nearest to a fraction, a tie going to the even significand.  The fraction is
brought to 53 bits, or fewer below the normal numbers, and rounded in exact arithmetic.
-/

namespace ElementCode.Decimal

/-- A fraction rounded to a whole number, a tie going to the even one. -/
def roundDiv (num den : Nat) : Nat :=
  let q := num / den
  let r := 2 * (num % den)
  if r < den || (r == den && q % 2 == 0) then q else q + 1

/-- The power of two at which a positive fraction has a significand of 53 bits; the numbers do not
get finer below the least normal one. -/
def unitOf (num den : Nat) : Int :=
  let e : Int := (Nat.log2 num : Int) - Nat.log2 den - 52
  let short := num * Nat.pow 2 (-e).toNat < Nat.pow 2 52 * den * Nat.pow 2 e.toNat
  max (if short then e - 1 else e) (-1074)

/-- The number nearest to a fraction. -/
def nearest (num den : Nat) : Float :=
  if num == 0 then 0.0
  else
    let e := unitOf num den
    if 971 < e then 1.0 / 0.0
    else
      let m := roundDiv (num * Nat.pow 2 (-e).toNat) (den * Nat.pow 2 e.toNat)
      m.toUInt64.toFloat.scaleB e

/-- The number nearest to `m * 10 ^ e`; those far beyond all numbers are not worked out. -/
def scientific (m : Nat) (e : Int) : Float :=
  let size : Int := (toString m).length + e
  if m == 0 || size < -400 then 0.0
  else if 400 < size then 1.0 / 0.0
  else nearest (m * Nat.pow 10 e.toNat) (Nat.pow 10 (-e).toNat)

end ElementCode.Decimal
