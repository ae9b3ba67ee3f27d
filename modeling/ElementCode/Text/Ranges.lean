/-!
# Sets of characters written as ranges of code points

A Unicode property is a sorted list of code point ranges.  The tables of this library write it as
rows of hexadecimal ranges, `41-5A` or `5F`, separated by spaces; this module reads the rows and
answers membership by binary search.
-/

namespace ElementCode.Text

/-- The value of a hexadecimal digit of either case. -/
def hexValue? (c : Char) : Option Nat :=
  if '0' ≤ c && c ≤ '9' then some (c.toNat - '0'.toNat)
  else if 'A' ≤ c && c ≤ 'F' then some (c.toNat - 'A'.toNat + 10)
  else if 'a' ≤ c && c ≤ 'f' then some (c.toNat - 'a'.toNat + 10)
  else none

/-- The number that hexadecimal digits write; other characters count as zero. -/
def hexNat (cs : List Char) : Nat :=
  cs.foldl (fun n c => 16 * n + (hexValue? c).getD 0) 0

/-- Sorted, disjoint, inclusive ranges of code points. -/
structure Ranges where
  /-- The ranges, each with its first and last code point. -/
  bounds : Array (Nat × Nat)

namespace Ranges

/-- Reads one range, `41-5A` or `5F`. -/
def readBounds (item : List Char) : Nat × Nat :=
  let first := item.takeWhile (· != '-')
  match item.dropWhile (· != '-') with
  | _ :: last => (hexNat first, hexNat last)
  | [] => (hexNat first, hexNat first)

/-- Cuts a row at its spaces. -/
def cutRow (word : List Char) : List Char → List (List Char)
  | [] => if word.isEmpty then [] else [word.reverse]
  | c :: cs =>
    if c == ' ' then
      if word.isEmpty then cutRow [] cs else word.reverse :: cutRow [] cs
    else cutRow (c :: word) cs

/-- The entries of the rows of a table, in order. -/
def entries (rows : List String) : List (List Char) :=
  rows.flatMap fun row => cutRow [] row.toList

/-- Reads the rows of a table. -/
def ofRows (rows : List String) : Ranges :=
  ⟨((entries rows).map readBounds).toArray⟩

/-- Looks for a range around `n` between the indices `lo` and `hi`, halving at most `fuel` times. -/
def search (bounds : Array (Nat × Nat)) (n : Nat) : Nat → Nat → Nat → Bool
  | 0, _, _ => false
  | fuel + 1, lo, hi =>
    if lo < hi then
      let mid := (lo + hi) / 2
      match bounds[mid]? with
      | none => false
      | some (first, last) =>
        if n < first then search bounds n fuel lo mid
        else if last < n then search bounds n fuel (mid + 1) hi
        else true
    else false

/-- Whether a character lies in one of the ranges. -/
def contains (r : Ranges) (c : Char) : Bool :=
  search r.bounds c.toNat r.bounds.size 0 r.bounds.size

end Ranges

end ElementCode.Text
