import ElementCode.Text.Hex

/-!
# Reading UTF-8

Strict decoding of UTF-8.  A fault names the bytes that cannot be decoded: the first byte that
starts no character, or the longest beginning of a character that the next byte or the end of the
data breaks off.
-/

namespace ElementCode.Text

/-- Why a byte sequence is not UTF-8. -/
inductive Utf8Cause where
  | invalidStart
  | invalidContinuation
  | unexpectedEnd
  deriving DecidableEq, Repr

/-- The bytes that cannot be decoded: `length` of them from `position` on, the first being
`byte`. -/
structure Utf8Fault where
  /-- The first bad byte. -/
  byte : UInt8
  /-- Its position in the data. -/
  position : Nat
  /-- How many bytes are bad. -/
  length : Nat
  /-- What is wrong with them. -/
  cause : Utf8Cause

/-- The words for a cause. -/
def Utf8Cause.message : Utf8Cause → String
  | .invalidStart => "invalid start byte"
  | .invalidContinuation => "invalid continuation byte"
  | .unexpectedEnd => "unexpected end of data"

/-- The message for a fault. -/
def Utf8Fault.message (f : Utf8Fault) : String :=
  let place :=
    if f.length == 1 then
      "byte 0x" ++ String.ofList (hexPad false 2 f.byte.toNat) ++ " in position " ++
        toString f.position
    else
      "bytes in position " ++ toString f.position ++ "-" ++ toString (f.position + f.length - 1)
  "'utf-8' codec can't decode " ++ place ++ ": " ++ f.cause.message

/-- Whether a byte continues a character. -/
def isContinuation (b : UInt8) : Bool := 0x80 ≤ b && b ≤ 0xBF

/-- Whether `second` may follow the first byte `first` of a character of three or four bytes. -/
def validSecond (first second : UInt8) : Bool :=
  isContinuation second &&
    (if first == 0xE0 then 0xA0 ≤ second
     else if first == 0xED then second ≤ 0x9F
     else if first == 0xF0 then 0x90 ≤ second
     else if first == 0xF4 then second ≤ 0x8F
     else true)

/-- The six low bits of a continuation byte. -/
def lowBits (b : UInt8) : Nat := b.toNat % 64

/-- Decodes the bytes from position `position` on; `done` holds the characters read so far, in
reverse. -/
def decodeFrom (position : Nat) (done : List Char) : List UInt8 → Except Utf8Fault (List Char)
  | [] => .ok done.reverse
  | a :: rest =>
    if a < 0x80 then decodeFrom (position + 1) (Char.ofNat a.toNat :: done) rest
    else if a < 0xC2 || 0xF5 ≤ a then .error ⟨a, position, 1, .invalidStart⟩
    else
      match rest with
      | [] => .error ⟨a, position, 1, .unexpectedEnd⟩
      | b :: rest =>
        if a < 0xE0 then
          if isContinuation b then
            decodeFrom (position + 2) (Char.ofNat (a.toNat % 32 * 64 + lowBits b) :: done) rest
          else .error ⟨a, position, 1, .invalidContinuation⟩
        else if !validSecond a b then .error ⟨a, position, 1, .invalidContinuation⟩
        else
          match rest with
          | [] => .error ⟨a, position, 2, .unexpectedEnd⟩
          | c :: rest =>
            if !isContinuation c then .error ⟨a, position, 2, .invalidContinuation⟩
            else if a < 0xF0 then
              let n := (a.toNat % 16 * 64 + lowBits b) * 64 + lowBits c
              decodeFrom (position + 3) (Char.ofNat n :: done) rest
            else
              match rest with
              | [] => .error ⟨a, position, 3, .unexpectedEnd⟩
              | d :: rest =>
                if isContinuation d then
                  let n := ((a.toNat % 8 * 64 + lowBits b) * 64 + lowBits c) * 64 + lowBits d
                  decodeFrom (position + 4) (Char.ofNat n :: done) rest
                else .error ⟨a, position, 3, .invalidContinuation⟩

/-- Decodes a byte sequence. -/
def decodeUtf8 (bytes : List UInt8) : Except Utf8Fault String :=
  (decodeFrom 0 [] bytes).map String.ofList

end ElementCode.Text
