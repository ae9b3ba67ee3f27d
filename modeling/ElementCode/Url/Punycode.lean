/-!
# Punycode

The ASCII form of the labels of host names.  A label's ASCII characters come first; the others
follow, in ascending order, as differences of code points and positions in a variable-length
number system of base 36 whose digit thresholds adapt to the size of the differences.
-/

namespace ElementCode.Url.Punycode

/-- The character of a digit: letters for 0 to 25, then the decimal digits. -/
def digitChar (d : Nat) : Char :=
  if d < 26 then Char.ofNat ('a'.toNat + d) else Char.ofNat ('0'.toNat + d - 26)

/-- The digit of a character of either case. -/
def digitOf? (c : Char) : Option Nat :=
  if 'a' ≤ c && c ≤ 'z' then some (c.toNat - 'a'.toNat)
  else if 'A' ≤ c && c ≤ 'Z' then some (c.toNat - 'A'.toNat)
  else if '0' ≤ c && c ≤ '9' then some (c.toNat - '0'.toNat + 26)
  else none

/-- The threshold of the digit at position `k`, between 1 and 26. -/
def threshold (k bias : Nat) : Nat := min 26 (max 1 (36 * (k + 1) - bias))

/-- Divides by 35 until the number is at most 455, and counts 36 for each division. -/
def reduce (delta count : Nat) : Nat × Nat :=
  if 455 < delta then reduce (delta / 35) (count + 36) else (delta, count)
termination_by delta
decreasing_by omega

/-- The bias after a difference; `points` is how many characters have been placed. -/
def adapt (delta points : Nat) (first : Bool) : Nat :=
  let d := if first then delta / 700 else delta / 2
  let (d, count) := reduce (d + d / points) 0
  count + 36 * d / (d + 38)

/-- The digits of a difference, from position `k` on. -/
def encodeDelta (bias k delta : Nat) : List Char :=
  let t := threshold k bias
  if delta < t then [digitChar delta]
  else digitChar (t + (delta - t) % (36 - t)) ::
    encodeDelta bias (k + 1) ((delta - t) / (36 - t))
termination_by delta
decreasing_by
  have ht : 1 ≤ threshold k bias := by simp only [threshold]; omega
  have := Nat.div_le_self (delta - threshold k bias) (36 - threshold k bias)
  omega

/-- The state of the encoder: output in reverse order of digits groups, the running difference,
the bias, and how many characters have been placed. -/
structure Encoder where
  /-- The digits written so far. -/
  output : List Char
  /-- The running difference. -/
  delta : Nat
  /-- The current bias. -/
  bias : Nat
  /-- How many characters have been placed. -/
  placed : Nat

/-- Passes one character of the label while the code point `point` is being placed. -/
def Encoder.pass (basic point : Nat) (e : Encoder) (c : Char) : Encoder :=
  if c.toNat < point then { e with delta := e.delta + 1 }
  else if c.toNat == point then
    { output := e.output ++ encodeDelta e.bias 0 e.delta
      delta := 0
      bias := adapt e.delta (e.placed + 1) (e.placed == basic)
      placed := e.placed + 1 }
  else e

/-- Places the code points, given in ascending order; all below `next` have been placed. -/
def placeAll (label : List Char) (basic : Nat) : List Nat → Nat → Encoder → Encoder
  | [], _, e => e
  | point :: more, next, e =>
    let e := { e with delta := e.delta + (point - next) * (e.placed + 1) }
    let e := label.foldl (Encoder.pass basic point) e
    placeAll label basic more (point + 1) { e with delta := e.delta + 1 }

/-- Inserts a number into an ascending list unless it is there. -/
def insertPoint (n : Nat) : List Nat → List Nat
  | [] => [n]
  | m :: rest => if n < m then n :: m :: rest else if n == m then m :: rest
    else m :: insertPoint n rest

/-- The Punycode of a label. -/
def encode (label : List Char) : List Char :=
  let basic := label.filter (·.toNat < 0x80)
  let points := (label.filter (0x80 ≤ ·.toNat)).foldl (fun ps c => insertPoint c.toNat ps) []
  let e := placeAll label basic.length points 0x80 ⟨[], 0, 72, basic.length⟩
  basic ++ (if basic.isEmpty then [] else ['-']) ++ e.output

/-- Reads one number: its value and the rest of the digits. -/
def readDelta (bias k weight value : Nat) : List Char → Option (Nat × List Char)
  | [] => none
  | c :: rest =>
    match digitOf? c with
    | none => none
    | some d =>
      let t := threshold k bias
      if d < t then some (value + d * weight, rest)
      else readDelta bias (k + 1) (weight * (36 - t)) (value + d * weight) rest

/-- Inserts the characters that the digits describe into `label`; at most `fuel` of them. -/
def insertAll : Nat → (point position bias : Nat) → (first : Bool) → (label digits : List Char) →
    Option (List Char)
  | _, _, _, _, _, label, [] => some label
  | 0, _, _, _, _, _, _ => none
  | fuel + 1, point, position, bias, first, label, digits =>
    match readDelta bias 0 1 0 digits with
    | none => none
    | some (delta, rest) =>
      let position := position + delta
      let size := label.length + 1
      let point := point + position / size
      let position := position % size
      if point < 0xD800 || (0xDFFF < point && point ≤ 0x10FFFF) then
        let label := label.take position ++ Char.ofNat point :: label.drop position
        insertAll fuel point (position + 1) (adapt delta label.length first) false label rest
      else none

/-- The label that a Punycode stands for. -/
def decode (code : List Char) : Option (List Char) :=
  let digits := (code.reverse.takeWhile (· != '-')).reverse
  let basic := if code.contains '-' then code.take (code.length - digits.length - 1) else []
  if code.all (·.toNat < 0x80) then insertAll digits.length 0x80 0 72 true basic digits
  else none

end ElementCode.Url.Punycode
