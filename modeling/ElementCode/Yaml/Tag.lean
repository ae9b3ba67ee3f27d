import ElementCode.Text.Blank

/-!
# Tags of plain scalars

A scalar written without quotes stands for a truth value, a number, a point in time, or nothing at
all, when it has the form of one; any other stands for itself.  The writer uses the same rule to
decide which texts need quotes.
-/

namespace ElementCode.Yaml

/-- What a value is. -/
inductive Tag where
  | null | bool | int | float | binary | timestamp | str
  | seq | map | set | omap | pairs
  /-- The key `<<`, whose value is merged into the mapping around it. -/
  | merge
  /-- The key `=`, whose value stands for the mapping around it. -/
  | value
  /-- Any other tag. -/
  | other (name : String)
  deriving DecidableEq, Repr

/-- What all standard tags start with. -/
def standardTags : String := "tag:yaml.org,2002:"

/-- The tag with a full name. -/
def Tag.ofName (name : String) : Tag :=
  let standard : List (String × Tag) :=
    [("null", null), ("bool", bool), ("int", int), ("float", float), ("binary", binary),
      ("timestamp", timestamp), ("str", str), ("seq", seq), ("map", map), ("set", set),
      ("omap", omap), ("pairs", pairs), ("merge", merge), ("value", value)]
  match standard.find? fun (short, _) => standardTags ++ short == name with
  | some (_, tag) => tag
  | none => other name

namespace Plain

/-- An ASCII digit. -/
def isDigit (c : Char) : Bool := '0' ≤ c && c ≤ '9'

/-- A digit or an underscore. -/
def isSpaced (c : Char) : Bool := isDigit c || c == '_'

/-- Drops a sign. -/
def unsigned : List Char → List Char
  | '-' :: cs => cs
  | '+' :: cs => cs
  | cs => cs

/-- Whether a text is one of some words. -/
def isWord (words : List String) (cs : List Char) : Bool := words.any (·.toList == cs)

/-- The truth values. -/
def isBool : List Char → Bool :=
  isWord ["yes", "Yes", "YES", "no", "No", "NO", "true", "True", "TRUE", "false", "False", "FALSE",
    "on", "On", "ON", "off", "Off", "OFF"]

/-- The forms of null, the empty one included. -/
def isNull : List Char → Bool := isWord ["~", "null", "Null", "NULL", ""]

/-- Whether a text is a number below sixty in one or two digits. -/
def isSixtieth : List Char → Bool
  | [a] => isDigit a
  | [a, b] => '0' ≤ a && a ≤ '5' && isDigit b
  | _ => false

/-- Whether a text is not empty and has only characters of a class. -/
def isRun (p : Char → Bool) (cs : List Char) : Bool := !cs.isEmpty && cs.all p

/-- Whether a text starts with a digit that `first` accepts and goes on with digits and
underscores. -/
def isNumeral (first : Char → Bool) : List Char → Bool
  | c :: cs => first c && cs.all isSpaced
  | [] => false

/-- Whole numbers: binary, octal, decimal, hexadecimal, or in base sixty. -/
def isInt (cs : List Char) : Bool :=
  let positive (c : Char) : Bool := '1' ≤ c && c ≤ '9'
  let cs := unsigned cs
  match cs with
  | ['0'] => true
  | '0' :: 'b' :: digits => isRun (fun c => c == '0' || c == '1' || c == '_') digits
  | '0' :: 'x' :: digits =>
    isRun (fun c => isSpaced c || ('a' ≤ c && c ≤ 'f') || ('A' ≤ c && c ≤ 'F')) digits
  | '0' :: digits => digits.all fun c => ('0' ≤ c && c ≤ '7') || c == '_'
  | cs =>
    match Text.splitAtChar ':' cs with
    | head :: parts => isNumeral positive head && parts.all isSixtieth
    | [] => false

/-- Whether a text is an exponent, which has a sign, or nothing. -/
def isExponent : List Char → Bool
  | [] => true
  | e :: sign :: digits =>
    (e == 'e' || e == 'E') && (sign == '-' || sign == '+') && isRun isDigit digits
  | _ => false

/-- Whether a text is what follows the point of a number. -/
def isFraction (cs : List Char) : Bool := isExponent (cs.dropWhile isSpaced)

/-- Numbers with a point, also in base sixty, the infinities, and the one that is no number. -/
def isFloat (cs : List Char) : Bool :=
  let bare := unsigned cs
  let whole := bare.takeWhile (· != '.')
  match bare.drop whole.length with
  | _ :: fraction =>
    if whole.isEmpty then
      isWord ["inf", "Inf", "INF"] fraction ||
        (cs.length == bare.length &&
          (isWord ["nan", "NaN", "NAN"] fraction ||
            (fraction.head?.any isDigit && isFraction fraction)))
    else
      match Text.splitAtChar ':' whole with
      | [numeral] => isNumeral isDigit numeral && isFraction fraction
      | numeral :: parts =>
        isNumeral isDigit numeral && parts.all isSixtieth && fraction.all isSpaced
      | [] => false
  | [] => false

/-- Reads between `least` and `most` digits; gives them and the rest. -/
def digits? (least most : Nat) (cs : List Char) : Option (List Char × List Char) :=
  let found := (cs.take most).takeWhile isDigit
  if least ≤ found.length then some (found, cs.drop found.length) else none

/-- Reads a character; gives the rest. -/
def char? (c : Char) : List Char → Option (List Char)
  | d :: cs => if c == d then some cs else none
  | [] => none

/-- A space or a tab. -/
def isSpace (c : Char) : Bool := c == ' ' || c == '\t'

/-- The parts of a timestamp as they are written. -/
structure Stamp where
  /-- Year, month and day. -/
  date : List Char × List Char × List Char
  /-- Hour, minute and second, unless the timestamp is a date only. -/
  time : Option (List Char × List Char × List Char) := none
  /-- The digits after the point of the seconds. -/
  fraction : List Char := []
  /-- The zone: its sign, hours and minutes; universal time has hours without a sign. -/
  zone : Option (Option Char × List Char × List Char) := none

/-- The zone at the end of a timestamp. -/
def zone? (cs : List Char) : Option (Option (Option Char × List Char × List Char)) :=
  match cs.dropWhile isSpace with
  | [] => if cs.isEmpty then some none else none
  | ['Z'] => some (some (none, [], []))
  | sign :: rest =>
    if sign == '-' || sign == '+' then do
      let (hours, rest) ← digits? 1 2 rest
      match rest with
      | [] => some (some (some sign, hours, []))
      | ':' :: rest =>
        let (minutes, rest) ← digits? 2 2 rest
        if rest.isEmpty then some (some (some sign, hours, minutes)) else none
      | _ => none
    else none

/-- What separates the date from the time: the letter T or blanks. -/
def timeRest? : List Char → Option (List Char)
  | c :: cs =>
    if c == 'T' || c == 't' then some cs
    else if isSpace c then some (cs.dropWhile isSpace)
    else none
  | [] => none

/-- The parts of a timestamp: a date, or a date and a time of day.  With `full` set a date alone
has two digits for the month and the day. -/
def stamp? (full : Bool) (cs : List Char) : Option Stamp := do
  let (year, rest) ← digits? 4 4 cs
  let rest ← char? '-' rest
  let (month, rest) ← digits? 1 2 rest
  let rest ← char? '-' rest
  let (day, rest) ← digits? 1 2 rest
  if rest.isEmpty then
    if !full || (month.length == 2 && day.length == 2) then some { date := (year, month, day) }
    else none
  else
    let rest ← timeRest? rest
    let (hour, rest) ← digits? 1 2 rest
    let rest ← char? ':' rest
    let (minute, rest) ← digits? 2 2 rest
    let rest ← char? ':' rest
    let (second, rest) ← digits? 2 2 rest
    let (fraction, rest) := match rest with
      | '.' :: rest => (rest.takeWhile isDigit, rest.dropWhile isDigit)
      | rest => ([], rest)
    let zone ← zone? rest
    some { date := (year, month, day), time := some (hour, minute, second), fraction, zone }

end Plain

/-- A text without the line feed at its end, unless that is all there is. -/
def Plain.dropLineFeed (cs : List Char) : List Char :=
  if 1 < cs.length && cs.getLast? == some '\n' then cs.dropLast else cs

/-- What a scalar stands for by its form.  A line feed at its end does not count.  The marks of
tags, anchors and aliases, which stand alone only in quotes, are part of YAML itself. -/
def Tag.ofPlain (text : List Char) : Tag :=
  let cs := Plain.dropLineFeed text
  if Plain.isBool cs then bool
  else if Plain.isFloat cs then float
  else if Plain.isInt cs then int
  else if cs == ['<', '<'] then merge
  else if Plain.isNull cs then null
  else if (Plain.stamp? true cs).isSome then timestamp
  else if cs == ['='] then value
  else if Plain.isWord ["!", "&", "*"] cs then other (standardTags ++ "yaml")
  else str

end ElementCode.Yaml
