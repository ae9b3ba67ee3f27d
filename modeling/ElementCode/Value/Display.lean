import ElementCode.Decimal.Shortest
import ElementCode.Text.Hex
import ElementCode.Text.Printable
import ElementCode.Value

/-!
# The display form of values

How a message shows a value: strings in quotes with escapes, numbers with the fewest digits that
read back, collections in brackets, nodes as their kind with named fields.
-/

namespace ElementCode

namespace Display

/-- One character of a displayed string, inside the quote `quote`. -/
def char (quote c : Char) : List Char :=
  if c == quote || c == '\\' then ['\\', c]
  else if c == '\n' then ['\\', 'n']
  else if c == '\r' then ['\\', 'r']
  else if c == '\t' then ['\\', 't']
  else if Text.isPrintable c then [c]
  else
    let n := c.toNat
    if n < 0x100 then '\\' :: 'x' :: Text.hexPad false 2 n
    else if n < 0x10000 then '\\' :: 'u' :: Text.hexPad false 4 n
    else '\\' :: 'U' :: Text.hexPad false 8 n

/-- A string is shown in single quotes, unless it holds a single quote and no double quote. -/
def quoteFor (cs : List Char) : Char :=
  if cs.contains '\'' && !cs.contains '"' then '"' else '\''

/-- One code point of a displayed text; half of a surrogate pair is written as an escape. -/
def point (quote : Char) (n : Nat) : List Char :=
  if Text.Points.isChar n then char quote (Char.ofNat n)
  else '\\' :: 'u' :: Text.hexPad false 4 n

/-- A displayed text of code points with its quotes. -/
def points (ps : Text.Points) : String :=
  let quote := quoteFor ps.toChars
  String.ofList (quote :: ps.flatMap (point quote) ++ [quote])

/-- A displayed string with its quotes. -/
def string (s : String) : String :=
  let cs := s.toList
  let quote := quoteFor cs
  String.ofList (quote :: cs.flatMap (char quote) ++ [quote])

/-- The most digits that a whole number may have to be written out, or to be read. -/
def digitLimit : Nat := 4300

/-- What is said about a whole number with more digits than can be written out or read. -/
def digitLimitText (count : Option Nat) : String :=
  "Exceeds the limit (" ++ toString digitLimit ++ " digits) for integer string conversion" ++
    (match count with
      | some n => ": value has " ++ toString n ++ " digits"
      | none => "") ++
    "; use sys.set_int_max_str_digits() to increase the limit"

/-- One byte of a displayed byte string. -/
def byte (quote : Char) (b : UInt8) : List Char :=
  let c := Char.ofNat b.toNat
  if c == quote || c == '\\' then ['\\', c]
  else if c == '\n' then ['\\', 'n']
  else if c == '\r' then ['\\', 'r']
  else if c == '\t' then ['\\', 't']
  else if b < 0x20 || 0x7F ≤ b then '\\' :: 'x' :: Text.hexPad false 2 b.toNat
  else [c]

/-- A displayed byte string. -/
def byteString (bs : List UInt8) : String :=
  let quote := quoteFor (bs.map fun b => Char.ofNat b.toNat)
  String.ofList ('b' :: quote :: bs.flatMap (byte quote) ++ [quote])

/-- The exponents that are written positionally run from `least` to below `limit`. -/
structure FloatFormat where
  /-- The least exponent written positionally. -/
  least : Int
  /-- The first exponent written with an exponent mark. -/
  limit : Int
  /-- The least number of digits of an exponent. -/
  width : Nat

/-- Numbers from 0.0001 to below 10¹⁶ are written positionally; exponents have two digits. -/
def floatFormat : FloatFormat := ⟨-4, 16, 2⟩

/-- Decimal digits of a natural number, with leading zeros up to `width`. -/
def padded (width n : Nat) : String :=
  let ds := toString n
  String.ofList (List.replicate (width - ds.length) '0') ++ ds

/-- The text of a positive number from its shortest decimal. -/
def digits (f : FloatFormat) (d : Decimal.Digits) : String :=
  let ds := (toString d.digits).toList
  let point : Int := d.exponent + ds.length
  let exponent := point - 1
  if f.least ≤ exponent && exponent < f.limit then
    if point ≤ 0 then
      String.ofList ('0' :: '.' :: List.replicate (-point).toNat '0' ++ ds)
    else if ds.length ≤ point.toNat then
      String.ofList (ds ++ List.replicate (point.toNat - ds.length) '0' ++ ['.', '0'])
    else String.ofList (ds.take point.toNat ++ '.' :: ds.drop point.toNat)
  else
    let head := match ds with
      | [] => []
      | [c] => [c]
      | c :: more => c :: '.' :: more
    String.ofList head ++ (if exponent < 0 then "e-" else "e+") ++ padded f.width exponent.natAbs

/-- A displayed number with a fraction. -/
def float (x : Float) : String :=
  if x.isNaN then "nan"
  else
    let bits := x.toBits
    let sign := if bits.toNat / Nat.pow 2 63 == 1 then "-" else ""
    if x.isInf then sign ++ "inf"
    else
      let b := Decimal.Binary.ofBits bits
      if b.mantissa == 0 then sign ++ "0.0"
      else sign ++ digits floatFormat (Decimal.shortest b)

/-- A displayed date. -/
def date (d : Date) : String :=
  s!"datetime.date({d.year}, {d.month}, {d.day})"

/-- A displayed distance from universal time. -/
def offset (seconds : Int) : String :=
  if seconds == 0 then "datetime.timezone.utc"
  else
    let days := seconds.fdiv 86400
    let rest := seconds.fmod 86400
    let parts := (if days == 0 then [] else [s!"days={days}"]) ++
      (if rest == 0 then [] else [s!"seconds={rest}"])
    "datetime.timezone(datetime.timedelta(" ++ ", ".intercalate parts ++ "))"

/-- A displayed moment: zero seconds without a fraction are left out. -/
def moment (m : Moment) : String :=
  let clock := [m.hour, m.minute] ++
    (if m.second == 0 && m.micro == 0 then []
     else if m.micro == 0 then [m.second] else [m.second, m.micro])
  let parts := ([m.date.year, m.date.month, m.date.day] ++ clock).map toString ++
    (match m.offset with
     | none => []
     | some s => ["tzinfo=" ++ offset s])
  "datetime.datetime(" ++ ", ".intercalate parts ++ ")"

/-- A date as a text. -/
def dateText (d : Date) : String :=
  padded 4 d.year ++ "-" ++ padded 2 d.month ++ "-" ++ padded 2 d.day

/-- A distance from universal time as a text; zero seconds are left out. -/
def offsetText (seconds : Int) : String :=
  let n := seconds.natAbs
  (if seconds < 0 then "-" else "+") ++ padded 2 (n / 3600) ++ ":" ++ padded 2 (n / 60 % 60) ++
    if n % 60 == 0 then "" else ":" ++ padded 2 (n % 60)

/-- A moment as a text; no microseconds are left out, and so is a distance that is not known. -/
def momentText (m : Moment) : String :=
  dateText m.date ++ " " ++ padded 2 m.hour ++ ":" ++ padded 2 m.minute ++ ":" ++
    padded 2 m.second ++ (if m.micro == 0 then "" else "." ++ padded 6 m.micro) ++
    match m.offset with
    | none => ""
    | some seconds => offsetText seconds

end Display

namespace Value

mutual

/-- The display form of a value. -/
def display : Value → String
  | null => "None"
  | bool b => if b then "True" else "False"
  | int n => toString n
  | float x => Display.float x
  | str s => Display.string s
  | wide ps => Display.points ps
  | bytes b => Display.byteString b
  | date d => Display.date d
  | moment m => Display.moment m
  | list items => "[" ++ ", ".intercalate (displayAll items) ++ "]"
  | tuple items =>
    match items with
    | [] => "()"
    | [item] => "(" ++ display item ++ ",)"
    | first :: rest => "(" ++ ", ".intercalate (display first :: displayAll rest) ++ ")"
  | set items =>
    match items with
    | [] => "set()"
    | first :: rest => "\x7b" ++ ", ".intercalate (display first :: displayAll rest) ++ "\x7d"
  | dict entries => "\x7b" ++ ", ".intercalate (displayEntries entries) ++ "\x7d"
  | enclosing mapping => if mapping then "\x7b...\x7d" else "[...]"
  | node kind fields => kind ++ "(" ++ ", ".intercalate (displayFields fields) ++ ")"

/-- The display forms of the items of a sequence. -/
def displayAll : List Value → List String
  | [] => []
  | v :: rest => display v :: displayAll rest

/-- The display forms of the entries of a mapping. -/
def displayEntries : List (Value × Value) → List String
  | [] => []
  | (k, v) :: rest => (display k ++ ": " ++ display v) :: displayEntries rest

/-- The display forms of the fields of a node. -/
def displayFields : List (String × Value) → List String
  | [] => []
  | (name, v) :: rest => (name ++ "=" ++ display v) :: displayFields rest

end

mutual

/-- Whether a value can be displayed: no whole number in it has too many digits. -/
def isShowable : Value → Bool
  | int n => n.natAbs < Nat.pow 10 Display.digitLimit
  | list items | tuple items | set items => areShowable items
  | dict entries => entriesShowable entries
  | node _ fields => fieldsShowable fields
  | _ => true

/-- Whether all items of a sequence can be displayed. -/
def areShowable : List Value → Bool
  | [] => true
  | v :: rest => isShowable v && areShowable rest

/-- Whether all entries of a mapping can be displayed. -/
def entriesShowable : List (Value × Value) → Bool
  | [] => true
  | (k, v) :: rest => isShowable k && isShowable v && entriesShowable rest

/-- Whether all fields of a node can be displayed. -/
def fieldsShowable : List (String × Value) → Bool
  | [] => true
  | (_, v) :: rest => isShowable v && fieldsShowable rest

end

/-- The text of a value where text is wanted: strings, dates and moments have texts of their own,
and for any other value it is the display form.  A half of a surrogate pair, which no text can hold,
becomes a replacement character. -/
def text : Value → String
  | str s => s
  | wide ps => String.ofList ps.toChars
  | date d => Display.dateText d
  | moment m => Display.momentText m
  | v => display v

end Value

end ElementCode
