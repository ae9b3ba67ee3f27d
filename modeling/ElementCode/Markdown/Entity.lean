import ElementCode.Markdown.EntityTable
import ElementCode.Text.Punctuation
import ElementCode.Text.Ranges
import Std.Data.HashMap

/-!
# Character references and backslash escapes

A character reference names a character (`&amp;`) or gives its code point in decimal or
hexadecimal (`&#38;`, `&#x26;`); a backslash escapes ASCII punctuation.  In running text each is a
token of its own; in destinations, titles and info strings `resolve` replaces them all.
-/

namespace ElementCode.Markdown

/-- Reads an entry `name:41+42` of the table. -/
def readEntity (entry : List Char) : String × List Char :=
  let name := entry.takeWhile (· != ':')
  let points := (entry.dropWhile (· != ':')).drop 1
  let first := points.takeWhile (· != '+')
  let second := (points.dropWhile (· != '+')).drop 1
  (String.ofList name,
    Char.ofNat (Text.hexNat first) ::
      if second.isEmpty then [] else [Char.ofNat (Text.hexNat second)])

/-- The named character references. -/
def entities : Std.HashMap String (List Char) :=
  .ofList ((Text.Ranges.entries entityRows).map readEntity)

/-- The characters that a name stands for. -/
@[irreducible] def namedReference? (name : List Char) : Option (List Char) :=
  entities[String.ofList name]?

/-- An ASCII letter. -/
def isLetter (c : Char) : Bool := ('a' ≤ c && c ≤ 'z') || ('A' ≤ c && c ≤ 'Z')

/-- An ASCII digit. -/
def isDigit (c : Char) : Bool := '0' ≤ c && c ≤ '9'

/-- A hexadecimal digit. -/
def isHexDigit (c : Char) : Bool := (Text.hexValue? c).isSome

/-- The number that decimal digits write. -/
def decimalNat (cs : List Char) : Nat :=
  cs.foldl (fun n c => 10 * n + (c.toNat - '0'.toNat)) 0

/-- Whether a numeric reference may name a code point: no surrogate, no noncharacter and no
control character but tab, line feed, form feed and carriage return. -/
def isReferable (n : Nat) : Bool :=
  !((0xD800 ≤ n && n ≤ 0xDFFF) || (0xFDD0 ≤ n && n ≤ 0xFDEF) ||
    n % 0x10000 == 0xFFFF || n % 0x10000 == 0xFFFE || n ≤ 8 || n == 0x0B ||
    (0x0E ≤ n && n ≤ 0x1F) || (0x7F ≤ n && n ≤ 0x9F) || 0x10FFFF < n)

/-- The code point of a numeric reference, given what stands between `&` and `;`: at most
`decimals` decimal or `hexes` hexadecimal digits. -/
def numericPoint? (decimals hexes : Nat) (name : List Char) : Option Nat :=
  match name with
  | '#' :: x :: digits =>
    if x == 'x' || x == 'X' then
      if !digits.isEmpty && digits.length ≤ hexes && digits.all isHexDigit then
        some (Text.hexNat digits)
      else none
    else if digits.length < decimals && (x :: digits).all isDigit then
      some (decimalNat (x :: digits))
    else none
  | _ => none

/-- The characters of a reference in running text, given what stands between `&` and `;`.  A code
point that may not be named gives the replacement character. -/
def referenceInText? (name : List Char) : Option (List Char) :=
  match name with
  | '#' :: _ =>
    (numericPoint? 7 6 name).map fun n => [if isReferable n then Char.ofNat n else '\ufffd']
  | c :: _ => if isLetter c then namedReference? name else none
  | [] => none

/-- The characters of a reference in a destination, title or info string. -/
def referenceInString? (name : List Char) : Option (List Char) :=
  match namedReference? name with
  | some cs => some cs
  | none =>
    match numericPoint? 8 8 name with
    | some n => if isReferable n then some [Char.ofNat n] else none
    | none => none

/-- What stands between the `&` before `cs` and the next `;`, if it can be a reference: at most 32
letters and digits, the first a letter or a number sign. -/
def referenceName? (cs : List Char) : Option (List Char) :=
  match cs with
  | c :: rest =>
    let tail := rest.takeWhile fun c => isLetter c || isDigit c
    if (isLetter c || c == '#') && !tail.isEmpty && tail.length ≤ 31 &&
        (rest.drop tail.length).head? == some ';' then
      some (c :: tail)
    else none
  | [] => none

/-- The reference after an `&`: its characters and how many characters it takes. -/
@[irreducible] def reference? (cs : List Char) : Option (List Char × Nat) :=
  match referenceName? cs with
  | some name => (referenceInString? name).map fun found => (found, name.length + 1)
  | none => none

/-- Replaces character references and backslash escapes. -/
def resolve (cs : List Char) : List Char :=
  match cs with
  | [] => []
  | c :: rest =>
    if c == '\\' then
      match rest with
      | d :: more =>
        if Text.isAsciiPunctuation d then d :: resolve more else c :: resolve (d :: more)
      | [] => [c]
    else if c == '&' then
      match reference? rest with
      | some (found, n) => found ++ resolve (rest.drop n)
      | none => c :: resolve rest
    else c :: resolve rest
termination_by cs.length

end ElementCode.Markdown
