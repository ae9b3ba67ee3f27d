import ElementCode.Decimal.Shortest
import ElementCode.Value

/-!
# The order of a set of numbers

A set is shown in the order of a table in which its members have been placed one by one.  The table
has eight slots for up to four members, and otherwise the least power of two above twice their
number.  A number goes by its residue modulo the prime `2 ^ 61 - 1`: to the slot that the residue
names, or to one of the slots after it, or on along a sequence that uses up the residue's higher
bits.  A set with members that are not numbers keeps the order in which they were written.
-/

namespace ElementCode.Value

/-- The modulus of the residues. -/
def modulus : Nat := Nat.pow 2 61 - 1

/-- A residue with a sign; minus one is never used, and minus two stands for it. -/
def signedResidue (negative : Bool) (n : Nat) : Int :=
  let r : Int := n % modulus
  if !negative then r else if r == 1 then -2 else -r

/-- The residue of a number.  Powers of two repeat with period 61. -/
def residue? : Value → Option Int
  | bool b => some (if b then 1 else 0)
  | int n => some (signedResidue (n < 0) n.natAbs)
  | float x =>
    if x.isNaN then none
    else if x.isInf then some (if x < 0.0 then -314159 else 314159)
    else
      let b := Decimal.Binary.ofBits x.toBits
      some (signedResidue (x < 0.0) (b.mantissa * Nat.pow 2 (b.exponent % 61).toNat))
  | _ => none

/-- A table of members, by slot. -/
abbrev Slots := Array (Option Value)

namespace Slots

/-- The first free slot among `n + 1` slots from `i` on. -/
def free? (t : Slots) (i : Nat) : Nat → Option Nat
  | 0 => if t[i]?.any (·.isNone) then some i else none
  | n + 1 => if t[i]?.any (·.isNone) then some i else free? t (i + 1) n

/-- Looks for a free slot from slot `i` on; `high` holds the bits of the residue that are still to
be used.  Near the end of the table only one slot is tried at a time. -/
def place? (t : Slots) : Nat → Nat → Nat → Option Nat
  | 0, _, _ => none
  | fuel + 1, i, high =>
    match t.free? i (if i + 9 < t.size then 9 else 0) with
    | some slot => some slot
    | none => place? t fuel ((5 * i + 1 + high / 32) % t.size) (high / 32)

/-- The table with one more member. -/
def put (t : Slots) (member : Value × Int) : Slots :=
  let bits := (member.2 % (Nat.pow 2 64 : Nat)).toNat
  match place? t (16 + 5 * t.size) (bits % t.size) bits with
  | some slot => t.setIfInBounds slot (some member.1)
  | none => t

/-- How many slots there are for a number of members. -/
def sizeFor (count : Nat) : Nat :=
  if count ≤ 4 then 8 else Nat.pow 2 (Nat.log2 (2 * count) + 1)

end Slots

/-- The members of a set in the order in which they are shown. -/
def slotOrder (members : List Value) : List Value :=
  match members.mapM fun v => v.residue?.map (v, ·) with
  | none => members
  | some numbers =>
    let empty : Slots := Array.replicate (Slots.sizeFor numbers.length) none
    (numbers.foldl Slots.put empty).toList.filterMap id

end ElementCode.Value
