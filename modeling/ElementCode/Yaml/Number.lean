import ElementCode.Decimal.Nearest
import ElementCode.Text.Digit
import ElementCode.Text.LowerCase
import ElementCode.Text.Ranges
import ElementCode.Value.Display
import ElementCode.Yaml.Place

/-!
# Numbers and truth values

What scalars tagged as numbers and truth values stand for.  Underscores in numbers are ignored;
whole numbers may be written in base two, eight, ten and sixteen, and groups of digits between
colons count in base sixty.
-/

namespace ElementCode.Yaml

/-! ## Whole numbers -/

/-- The value of a digit below a base. -/
def digitBelow? (base : Nat) (c : Char) : Option Nat :=
  let n := match Text.hexValue? c with
    | some n => some n
    | none => Text.digitValue? c
  n.filter (· < base)

/-- The number that digits write in a base. -/
def natInBase? (base : Nat) (cs : List Char) : Option Nat :=
  if cs.isEmpty then none
  else cs.foldlM (fun n c => (digitBelow? base c).map (base * n + ·)) 0

/-- Drops the mark of a base: `0b`, `0o` or `0x`. -/
def dropBaseMark (base : Nat) (cs : List Char) : List Char :=
  let marks : List Char := match base with
    | 2 => ['b', 'B']
    | 8 => ['o', 'O']
    | 16 => ['x', 'X']
    | _ => []
  match cs with
  | '0' :: c :: rest => if marks.contains c then rest else cs
  | cs => cs

/-- A text without the white space around it, in which the separators U+001C to U+001F do not
count. -/
def trimNumber (cs : List Char) : List Char :=
  Text.trimBy (fun c => Text.isBlank c && !(0x1C ≤ c.toNat && c.toNat ≤ 0x1F)) cs

/-- The number that a text writes in a base, with a sign and white space around it.  In base ten the
number of digits is limited. -/
def intInBase (base : Nat) (cs : List Char) : Except Error Int :=
  let bare := trimNumber cs
  let digits := dropBaseMark base (Plain.unsigned bare)
  let count := (digits.takeWhile fun c => (digitBelow? base c).isSome).length
  if base == 10 && Display.digitLimit < count then .error (.tooManyDigits count)
  else
    match natInBase? base digits with
    | some n => .ok (if bare.head? == some '-' then -(n : Int) else n)
    | none => .error (.notInteger base (.ofChars cs))

/-- A text without its underscores. -/
def dropUnderscores (cs : List Char) : List Char := cs.filter (· != '_')

/-- Splits off the sign of a number; a number has something after it. -/
def signed (cs : List Char) : Except Error (Bool × List Char) :=
  match cs with
  | [] => .error .emptyNumber
  | '-' :: rest => .ok (true, rest)
  | '+' :: rest => .ok (false, rest)
  | cs => .ok (false, cs)

/-- The whole number that a scalar stands for. -/
def intValue (text : List Char) : Except Error Int := do
  let (negative, cs) ← signed (dropUnderscores text)
  let n ← (match cs with
    | [] => .error .emptyNumber
    | ['0'] => .ok 0
    | '0' :: 'b' :: digits => intInBase 2 digits
    | '0' :: 'x' :: digits => intInBase 16 digits
    | '0' :: _ => intInBase 8 cs
    | _ =>
      if cs.contains ':' then do
        let parts ← (Text.splitAtChar ':' cs).mapM (intInBase 10)
        return parts.foldl (fun n part => 60 * n + part) 0
      else intInBase 10 cs : Except Error Int)
  return if negative then -n else n

/-! ## Numbers with a point -/

/-- The number that decimal digits with a point and an exponent write. -/
def decimal? (cs : List Char) : Option Float :=
  let digits (cs : List Char) : List Char := cs.takeWhile fun c => (digitBelow? 10 c).isSome
  let whole := digits cs
  let rest := cs.drop whole.length
  let (fraction, rest) := match rest with
    | '.' :: more => (digits more, more.drop (digits more).length)
    | rest => ([], rest)
  let m := (natInBase? 10 (whole ++ fraction)).map fun (m : Nat) => (m, -(fraction.length : Int))
  match m, rest with
  | some (m, e), [] => some (Decimal.scientific m e)
  | some (m, e), c :: exponent =>
    if c == 'e' || c == 'E' then
      (natInBase? 10 (Plain.unsigned exponent)).map fun (n : Nat) =>
        Decimal.scientific m (if exponent.head? == some '-' then e - n else e + n)
    else none
  | none, _ => none

/-- The number that a text writes, with a sign and white space around it. -/
def floatOf (cs : List Char) : Except Error Float :=
  let bare := trimNumber cs
  let word := String.ofList ((Plain.unsigned bare).map Char.toLower)
  let x := if word == "inf" || word == "infinity" then some (1.0 / 0.0)
    else if word == "nan" then some (0.0 / 0.0)
    else decimal? (Plain.unsigned bare)
  match x with
  | some x => .ok (if bare.head? == some '-' then -x else x)
  | none => .error (.notNumber (.ofChars cs))

/-- Adds groups of digits, the last first, each worth sixty times the one after it.  The weights are
exact; one that is beyond all numbers with a point is an error. -/
def sumSixtieths : Nat → Float → List Float → Except Error Float
  | _, sum, [] => .ok sum
  | weight, sum, x :: rest =>
    let w := Decimal.nearest weight 1
    if w.isInf then .error .weightTooLarge else sumSixtieths (60 * weight) (sum + x * w) rest

/-- The number with a point that a scalar stands for. -/
def floatValue (text : List Char) : Except Error Float := do
  let (negative, cs) ← signed (Text.lower (dropUnderscores text))
  let x ← (if cs == ".inf".toList then .ok (1.0 / 0.0)
    else if cs == ".nan".toList then .ok (0.0 / 0.0)
    else if cs.contains ':' then do
      let parts ← (Text.splitAtChar ':' cs).mapM floatOf
      sumSixtieths 1 0.0 parts.reverse
    else floatOf cs : Except Error Float)
  return if negative then -x else x

/-- Whether a scalar for a number is the word for no number.  All of these are one and the same,
while other ways to write it give ones of their own. -/
def isNanWord (text : List Char) : Bool :=
  Plain.unsigned (Text.lower (dropUnderscores text)) == ".nan".toList

/-! ## Truth values -/

/-- The truth value that a scalar stands for. -/
def boolValue (text : List Char) : Except Error Bool :=
  let word := Text.lower text
  if Plain.isWord ["yes", "true", "on"] word then .ok true
  else if Plain.isWord ["no", "false", "off"] word then .ok false
  else .error (.notBool (.ofChars word))

end ElementCode.Yaml
