/-!
# Fixed-width hexadecimal numbers

Escapes write code points in hexadecimal with a fixed least width, in lower or upper case
according to the format.
-/

namespace ElementCode.Text

/-- The hexadecimal digit of a number below sixteen. -/
def hexDigit (upper : Bool) (n : Nat) : Char :=
  if n < 10 then Char.ofNat ('0'.toNat + n)
  else if upper then Char.ofNat ('A'.toNat + n - 10)
  else Char.ofNat ('a'.toNat + n - 10)

/-- The last `width` hexadecimal digits of `n`, most significant first. -/
def hexPad (upper : Bool) : Nat → Nat → List Char
  | 0, _ => []
  | width + 1, n => hexPad upper width (n / 16) ++ [hexDigit upper (n % 16)]

end ElementCode.Text
