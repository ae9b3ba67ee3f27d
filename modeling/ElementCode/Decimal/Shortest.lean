/-!
# The shortest decimal of a binary number

A binary64 number stands for all reals that round to it.  Its shortest decimal is the decimal
with the fewest digits among those reals, and of several the one nearest to the number, a tie
going to the even digit.  Everything is computed in exact arithmetic on natural numbers.
-/

namespace ElementCode.Decimal

/-- The positive number `mantissa · 2 ^ exponent`; `narrow` says that the gap to the next smaller
number is half the gap to the next larger one. -/
structure Binary where
  /-- The integer significand. -/
  mantissa : Nat
  /-- The power of two. -/
  exponent : Int
  /-- Whether the number is the least of its binade. -/
  narrow : Bool

/-- The positive number `digits · 10 ^ exponent`. -/
structure Digits where
  /-- The digits as one number. -/
  digits : Nat
  /-- The power of ten. -/
  exponent : Int

/-- The significand and exponent of a finite number, without its sign. -/
def Binary.ofBits (bits : UInt64) : Binary :=
  let fraction := bits.toNat % Nat.pow 2 52
  let biased : Nat := bits.toNat / Nat.pow 2 52 % Nat.pow 2 11
  if biased == 0 then ⟨fraction, -1074, false⟩
  else ⟨fraction + Nat.pow 2 52, (biased : Int) - 1075, fraction == 0 && biased != 1⟩

/-- The decimal of the form `n · 10 ^ p` that rounds to the number, if there is one: of the two
neighbours of the number on that grid the nearer one that lies between the bounds. -/
def onGrid (b : Binary) (p : Int) : Option Nat :=
  let q := b.exponent - 2
  let scale := Nat.pow 2 q.toNat * Nat.pow 10 (-p).toNat
  let grid := Nat.pow 10 p.toNat * Nat.pow 2 (-q).toNat
  let value := 4 * b.mantissa * scale
  let low := (4 * b.mantissa - if b.narrow then 1 else 2) * scale
  let high := (4 * b.mantissa + 2) * scale
  let closed := b.mantissa % 2 == 0
  let inside (n : Nat) : Bool :=
    if closed then low ≤ n * grid && n * grid ≤ high else low < n * grid && n * grid < high
  let below := value / grid
  let above := below + 1
  match below != 0 && inside below, inside above with
  | false, false => none
  | true, false => some below
  | false, true => some above
  | true, true =>
    let middle := (2 * below + 1) * grid
    if 2 * value < middle then some below
    else if middle < 2 * value then some above
    else some (if below % 2 == 0 then below else above)

/-- Tries the grids from `10 ^ p` downwards. -/
def finer (b : Binary) : Nat → Int → Digits
  | 0, p => ⟨0, p⟩
  | fuel + 1, p =>
    match onGrid b p with
    | some n => ⟨n, p⟩
    | none => finer b fuel (p - 1)

/-- The shortest decimal of a positive number.  The search starts above the number, and a grid
finer than the gap between neighbours always has a hit. -/
def shortest (b : Binary) : Digits :=
  let bits : Int := Nat.log2 b.mantissa + 1
  finer b 400 ((bits + b.exponent) * 30103 / 100000 + 2)

end ElementCode.Decimal
