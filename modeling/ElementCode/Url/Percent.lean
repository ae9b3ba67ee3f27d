import ElementCode.Text.Hex
import ElementCode.Text.Ranges
import ElementCode.Text.Utf8

/-!
# Percent encoding

A URL in an attribute is written in ASCII: letters, digits and the reserved and unreserved marks
stand for themselves, an escape that is there already is kept, and every other character becomes
the percent-encoded bytes of its UTF-8 form.  The text of an automatic link goes the other way:
escapes are decoded where they form UTF-8, except for the characters that delimit the parts of a
URL.
-/

namespace ElementCode.Url

/-- An ASCII letter or digit. -/
def isAlphanumeric (c : Char) : Bool :=
  ('a' ≤ c && c ≤ 'z') || ('A' ≤ c && c ≤ 'Z') || ('0' ≤ c && c ≤ '9')

/-- The marks that a URL may hold as they are. -/
def marks : List Char := ";/?:@&=+$,-_.!~*'()#".toList

/-- A byte as an escape. -/
def escapeByte (b : Nat) : List Char := '%' :: Text.hexPad true 2 b

/-- The UTF-8 bytes of a character. -/
def utf8Bytes (c : Char) : List Nat :=
  let n := c.toNat
  if n < 0x80 then [n]
  else if n < 0x800 then [0xC0 + n / 64, 0x80 + n % 64]
  else if n < 0x10000 then [0xE0 + n / 4096, 0x80 + n / 64 % 64, 0x80 + n % 64]
  else [0xF0 + n / 262144, 0x80 + n / 4096 % 64, 0x80 + n / 64 % 64, 0x80 + n % 64]

/-- One character outside an escape. -/
def encodeChar (c : Char) : List Char :=
  if isAlphanumeric c || marks.contains c then [c] else (utf8Bytes c).flatMap escapeByte

/-- Percent-encodes a URL; valid escapes are kept. -/
def encode : List Char → List Char
  | [] => []
  | '%' :: a :: b :: rest =>
    if (Text.hexValue? a).isSome && (Text.hexValue? b).isSome then '%' :: a :: b :: encode rest
    else encodeChar '%' ++ encode (a :: b :: rest)
  | c :: rest => encodeChar c ++ encode rest

/-- The characters that stay escaped when a URL is shown as text. -/
def kept : List Char := ";/?:@&=+$,#%".toList

/-- The escapes at the start of a text, as bytes, with the rest. -/
def takeEscapes : List Char → List Nat × List Char
  | [] => ([], [])
  | '%' :: a :: b :: rest =>
    match Text.hexValue? a, Text.hexValue? b with
    | some x, some y =>
      let (bytes, after) := takeEscapes rest
      ((16 * x + y) :: bytes, after)
    | _, _ => ([], '%' :: a :: b :: rest)
  | c :: rest => ([], c :: rest)

/-- Whether a byte continues a character. -/
def isTail (b : Nat) : Bool := b / 64 == 2

/-- The characters of a run of bytes that has the shape of one UTF-8 character; a run that stands
for no character gives a replacement character for each byte. -/
def decodeRun (bytes : List Nat) : List Char :=
  match Text.decodeUtf8 (bytes.map Nat.toUInt8) with
  | .ok s => s.toList
  | .error _ => List.replicate bytes.length '\ufffd'

/-- How many bytes follow the first byte of a character of more than one byte. -/
def tailCount (a : Nat) : Nat :=
  if a / 32 == 6 then 1 else if a / 16 == 14 then 2 else if a / 8 == 30 then 3 else 0

/-- Decodes the bytes of a run of escapes. -/
def decodeBytes (bytes : List Nat) : List Char :=
  match bytes with
  | [] => []
  | a :: rest =>
    if a < 0x80 then
      let c := Char.ofNat a
      (if kept.contains c then escapeByte a else [c]) ++ decodeBytes rest
    else
      let n := tailCount a
      let tail := rest.take n
      if n != 0 && tail.length == n && tail.all isTail then
        decodeRun (a :: tail) ++ decodeBytes (rest.drop n)
      else '\ufffd' :: decodeBytes rest
termination_by bytes.length

/-- Decodes the escapes of a URL, going over at most `fuel` characters and runs. -/
def decodeWithin : Nat → List Char → List Char
  | 0, cs => cs
  | _, [] => []
  | fuel + 1, c :: rest =>
    match takeEscapes (c :: rest) with
    | ([], _) => c :: decodeWithin fuel rest
    | (bytes, after) => decodeBytes bytes ++ decodeWithin fuel after

/-- Decodes the escapes of a URL. -/
def decode (cs : List Char) : List Char := decodeWithin cs.length cs

end ElementCode.Url
