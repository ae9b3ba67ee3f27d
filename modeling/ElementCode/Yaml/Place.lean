import ElementCode.Text.Points
import ElementCode.Yaml.Tag

/-!
# Places in a YAML text

The rest of a text from a place on, with the line and column of the place: indentation is counted
in columns, and a key has to stand on one line with the colon after it.
-/

namespace ElementCode.Yaml

/-- Why a text gives no value. -/
inductive Error where
  /-- It is not well formed, or holds something that has no value. -/
  | invalid
  /-- An escape names no code point. -/
  | notCodePoint
  /-- An escape names a number that does not even fit in 31 bits. -/
  | escapeTooLarge
  /-- A number has no digits. -/
  | emptyNumber
  /-- A text is not a whole number in a base. -/
  | notInteger (base : Nat) (text : Text.Points)
  /-- A whole number has too many digits. -/
  | tooManyDigits (count : Nat)
  /-- A text is not a number. -/
  | notNumber (text : Text.Points)
  /-- The weight of a group of digits in base sixty is beyond all numbers with a point. -/
  | weightTooLarge
  /-- A word is not a truth value. -/
  | notBool (word : Text.Points)
  /-- A text is not a timestamp. -/
  | notTimestamp
  /-- A timestamp is written as a mapping. -/
  | mappingForTimestamp
  /-- A timestamp is not a point in time, for a reason. -/
  | badTime (reason : String)
  deriving DecidableEq, Repr

/-- Puts the halves of surrogate pairs back into the text that an error names. -/
def Error.restore (source : Text.Points) : Error → Error
  | notInteger base text => notInteger base (source.restore text.toChars)
  | notNumber text => notNumber (source.restore text.toChars)
  | notBool word => notBool (source.restore word.toChars)
  | e => e

/-- A place in a text. -/
structure Place where
  /-- The text from the place on. -/
  rest : List Char
  /-- How many characters come before. -/
  index : Nat := 0
  /-- How many lines come before. -/
  line : Nat := 0
  /-- How many columns of the line come before. -/
  column : Nat := 0
  deriving Inhabited

/-! ## Classes of characters -/

/-- A character that ends a line. -/
def endsLine (c : Char) : Bool :=
  c == '\n' || c == '\r' || c == '\u0085' || c == '\u2028' || c == '\u2029'

/-- A blank or a character that ends a line. -/
def endsWord (c : Char) : Bool := c == ' ' || c == '\t' || endsLine c

/-- A letter, digit, hyphen or underscore. -/
def inName (c : Char) : Bool := c.isAlphanum || c == '-' || c == '_'

/-- A character that may stand in a text at all. -/
def isPrintable (c : Char) : Bool :=
  let n := c.toNat
  n == 0x09 || n == 0x0A || n == 0x0D || (0x20 ≤ n && n ≤ 0x7E) || n == 0x85 ||
    (0xA0 ≤ n && n ≤ 0xD7FF) || (0xE000 ≤ n && n ≤ 0xFFFD) || 0x10000 ≤ n

namespace Place

/-- The character `n` characters on. -/
def peek (p : Place) (n : Nat := 0) : Option Char := (p.rest.drop n).head?

/-- Whether the character at the place satisfies a predicate; the end of the text does. -/
def endsOr (p : Place) (q : Char → Bool) (n : Nat := 0) : Bool := (p.peek n).all q

/-- Whether the character at the place satisfies a predicate; the end of the text does not. -/
def has (p : Place) (q : Char → Bool) (n : Nat := 0) : Bool := (p.peek n).any q

/-- The next place.  A byte order mark takes no column. -/
def next (p : Place) : Place :=
  match p.rest with
  | [] => p
  | c :: rest =>
    if endsLine c && !(c == '\r' && rest.head? == some '\n') then
      { rest, index := p.index + 1, line := p.line + 1, column := 0 }
    else
      { rest, index := p.index + 1, line := p.line,
        column := if c == '\ufeff' then p.column else p.column + 1 }

/-- The place `n` characters on. -/
def advance (p : Place) : Nat → Place
  | 0 => p
  | n + 1 => p.next.advance n

/-- The longest run of characters of a class, and the place after it. -/
def span (p : Place) (q : Char → Bool) : List Char × Place :=
  let run := p.rest.takeWhile q
  (run, p.advance run.length)

/-- The place after a run of characters of a class. -/
def skip (p : Place) (q : Char → Bool) : Place := (p.span q).2

/-- The line break at the place, as it counts in a text, and the place after it. -/
def lineBreak? (p : Place) : Option (Char × Place) :=
  match p.rest with
  | '\r' :: '\n' :: _ => some ('\n', p.advance 2)
  | c :: _ =>
    if c == '\u2028' || c == '\u2029' then some (c, p.next)
    else if endsLine c then some ('\n', p.next)
    else none
  | [] => none

/-- The place after the line break at a place, if there is one. -/
def skipBreak (p : Place) : Place :=
  match p.lineBreak? with
  | some (_, p) => p
  | none => p

/-- The place after spaces and a comment. -/
def skipComment (p : Place) : Place :=
  let p := p.skip (· == ' ')
  if p.has (· == '#') then p.skip (!endsLine ·) else p

/-- Skips blank lines and comments; says whether a line has been left. -/
def toNextToken (p : Place) : Place × Bool :=
  go (p.rest.length + 1) p false
where
  /-- Skips at most `fuel` lines. -/
  go : Nat → Place → Bool → Place × Bool
  | 0, p, crossed => (p, crossed)
  | fuel + 1, p, crossed =>
    let p := p.skipComment
    match p.lineBreak? with
    | some (_, p) => go fuel p true
    | none => (p, crossed)

/-- Whether a line that separates documents starts at the place. -/
def atSeparator (p : Place) : Bool :=
  let mark := p.rest.take 3
  (mark == "---".toList || mark == "...".toList) && p.endsOr endsWord 3

/-- Requires that nothing but a comment is left of the line; gives the next line. -/
def endOfLine (p : Place) : Except Error Place :=
  let p := p.skipComment
  if p.endsOr endsLine then .ok p.skipBreak else .error .invalid

end Place

end ElementCode.Yaml
