import ElementCode.Decimal.Shortest
import ElementCode.Text.Base64
import ElementCode.Yaml.Number
import ElementCode.Yaml.Timestamp

/-!
# What scalars stand for

The value of a scalar with a tag, and when two values are one key of a mapping.
-/

namespace ElementCode.Yaml

/-- Whether a tag is one of collections. -/
def Tag.isCollection : Tag → Bool
  | seq | map | set | omap | pairs => true
  | _ => false

/-- A text as a value. -/
def textValue (text : Text.Points) : Value :=
  if text.all Text.Points.isChar then .str (String.ofList text.toChars) else .wide text

/-- The bytes that a scalar stands for. -/
def binaryValue (text : List Char) : Except Error Value :=
  match Text.Base64.decode? text with
  | some bytes => if text.all (·.toNat < 128) then .ok (.bytes bytes) else .error .invalid
  | none => .error .invalid

/-- What a scalar stands for. -/
def scalarValue (tag : Tag) (text : Text.Points) : Except Error Value :=
  let cs := text.toChars
  let value : Except Error Value := match tag with
    | .null => .ok .null
    | .bool => (boolValue cs).map .bool
    | .int => (intValue cs).map .int
    | .float => (floatValue cs).map .float
    | .timestamp => timestampValue cs
    | .str => .ok (textValue text)
    | .binary => binaryValue cs
    | _ => .error .invalid
  value.mapError (·.restore text)

/-! ## Keys -/

/-- The whole number that a number with a point is, if it is one. -/
def wholeNumber? (x : Float) : Option Int :=
  if x.isNaN || x.isInf then none
  else
    let b := Decimal.Binary.ofBits x.toBits
    let unit := Nat.pow 2 (-b.exponent).toNat
    let scaled := b.mantissa * Nat.pow 2 b.exponent.toNat
    if scaled % unit == 0 then some (if x < 0.0 then -(scaled / unit : Nat) else scaled / unit)
    else none

/-- The whole number that a value is as a key: truth values count as numbers too. -/
def wholeKey? : Value → Option Int
  | .bool b => some (if b then 1 else 0)
  | .int n => some n
  | .float x => wholeNumber? x
  | _ => none

/-- Whether two values are equal as keys.  Numbers are compared exactly, and points in time with a
distance from universal time as points in time. -/
def sameValue (a b : Value) : Bool :=
  match a, b with
  | .null, .null => true
  | .str s, .str t => s == t
  | .wide s, .wide t => s == t
  | .bytes s, .bytes t => s == t
  | .date d, .date e => d == e
  | .moment m, .moment n =>
    match m.instant?, n.instant? with
    | some i, some j => i == j
    | none, none => m == n
    | _, _ => false
  | a, b =>
    match wholeKey? a, wholeKey? b with
    | some m, some n => m == n
    | none, none =>
      match a, b with
      | .float x, .float y => x == y
      | _, _ => false
    | _, _ => false

/-- A key of a mapping. -/
structure Key where
  /-- What it is. -/
  value : Value
  /-- Which one it is: a value that differs from itself is still the same key. -/
  identity : Nat

/-- Whether two keys are one. -/
def Key.same (a b : Key) : Bool := a.identity == b.identity || sameValue a.value b.value

/-- Adds an entry; the value of the same key is replaced. -/
def putEntry (k : Key) (v : α) : List (Key × α) → List (Key × α)
  | [] => [(k, v)]
  | (l, w) :: rest => if k.same l then (l, v) :: rest else (l, w) :: putEntry k v rest

end ElementCode.Yaml
