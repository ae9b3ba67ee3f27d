/-!
# Base64

Decoding of bytes written in Base64.  Characters outside the alphabet are skipped, and the text
ends at the padding that completes a group of four.
-/

namespace ElementCode.Text.Base64

/-- The six bits of a character of the alphabet. -/
def sextet? (c : Char) : Option Nat :=
  if 'A' ≤ c && c ≤ 'Z' then some (c.toNat - 'A'.toNat)
  else if 'a' ≤ c && c ≤ 'z' then some (c.toNat - 'a'.toNat + 26)
  else if '0' ≤ c && c ≤ '9' then some (c.toNat - '0'.toNat + 52)
  else if c == '+' then some 62
  else if c == '/' then some 63
  else none

/-- Decodes from inside a group: `count` characters of it have been read, `left` holds the bits
that are not part of a byte yet, and `pads` padding characters have been met. -/
def decodeFrom (count left pads : Nat) : List Char → Option (List UInt8)
  | [] => if count == 0 then some [] else none
  | c :: rest =>
    if c == '=' then
      if 2 ≤ count && 4 ≤ count + pads + 1 then some []
      else decodeFrom count left (if 2 ≤ count then pads + 1 else pads) rest
    else
      match sextet? c, count with
      | none, _ => decodeFrom count left pads rest
      | some n, 0 => decodeFrom 1 n 0 rest
      | some n, 1 => (decodeFrom 2 (n % 16) 0 rest).map (UInt8.ofNat (left * 4 + n / 16) :: ·)
      | some n, 2 => (decodeFrom 3 (n % 4) 0 rest).map (UInt8.ofNat (left * 16 + n / 4) :: ·)
      | some n, _ => (decodeFrom 0 0 0 rest).map (UInt8.ofNat (left * 64 + n) :: ·)

/-- The bytes that a text stands for. -/
def decode? (cs : List Char) : Option (List UInt8) := decodeFrom 0 0 0 cs

end ElementCode.Text.Base64
