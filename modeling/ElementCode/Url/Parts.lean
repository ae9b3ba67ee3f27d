import ElementCode.Text.Blank
import ElementCode.Text.LowerCase
import ElementCode.Url.Percent
import ElementCode.Url.Punycode

/-!
# The parts of a URL

A link destination is taken apart into scheme, user, host, port, path, query and fragment only far
enough to find its host name, which is written in Punycode for web and mail addresses.  The parts
are then put together again and percent-encoded.
-/

namespace ElementCode.Url

/-- The parts of a URL.  The scheme ends in a colon; query and fragment start with their mark. -/
structure Parts where
  /-- The scheme with its colon, or nothing. -/
  scheme : List Char := []
  /-- Whether two slashes stand before the host. -/
  slashes : Bool := false
  /-- The user before an at sign. -/
  user : List Char := []
  /-- The host name, without the brackets of a numeric address. -/
  host : List Char := []
  /-- The port. -/
  port : List Char := []
  /-- The path. -/
  path : List Char := []
  /-- The query with its question mark. -/
  query : List Char := []
  /-- The fragment with its number sign. -/
  fragment : List Char := []

/-- A character of a scheme.  Letters count in any case, and the dotted capital i, the dotless i,
the long s and the Kelvin sign are forms of letters. -/
def isSchemeChar (c : Char) : Bool :=
  isAlphanumeric c || c == '.' || c == '+' || c == '-' || c == '\u0130' || c == '\u0131' ||
    c == '\u017f' || c == '\u212a'

/-- The scheme at the start of a URL with its colon, and the rest. -/
def splitScheme (cs : List Char) : List Char × List Char :=
  let word := cs.takeWhile isSchemeChar
  match word, cs.dropWhile isSchemeChar with
  | [], _ => ([], cs)
  | word, ':' :: rest => (word ++ [':'], rest)
  | _, _ => ([], cs)

/-- Schemes that are always followed by two slashes if by a host. -/
def slashedSchemes : List String := ["http:", "https:", "ftp:", "gopher:", "file:"]

/-- The scheme that never has a host. -/
def hostless : String := "javascript:"

/-- The characters that end the part of a URL that may hold a user. -/
def endsAuthority (c : Char) : Bool := c == '/' || c == '?' || c == '#'

/-- The characters that no host name holds. -/
def endsHost (c : Char) : Bool := "%/?;#'\x7b\x7d|\\^`<>\" \r\n\t".toList.contains c

/-- Cuts at the last occurrence of a character: what is before and after it. -/
def splitLast (sep : Char) (cs : List Char) : Option (List Char × List Char) :=
  let after := (cs.reverse.takeWhile (· != sep)).reverse
  if cs.contains sep then some (cs.take (cs.length - after.length - 1), after) else none

/-- The user before the last at sign of the authority, and the rest. -/
def splitUser (cs : List Char) : List Char × List Char :=
  let authority := cs.takeWhile (!endsAuthority ·)
  match splitLast '@' authority with
  | some (user, host) => (user, host ++ cs.dropWhile (!endsAuthority ·))
  | none => ([], cs)

/-- The port at the end of a host: the host without it, and its digits. -/
def splitPort (host : List Char) : List Char × List Char :=
  let digits := (host.reverse.takeWhile Char.isDigit).reverse
  match (host.take (host.length - digits.length)).reverse with
  | ':' :: front => (front.reverse, digits)
  | _ => (host, [])

/-- A character of the label of a host name. -/
def isLabelChar (c : Char) : Bool := isAlphanumeric c || c == '+' || c == '_' || c == '-'

/-- Whether a label is one of a host name; characters beyond ASCII are allowed. -/
def isLabel (label : List Char) : Bool :=
  label.length ≤ 63 && label.all fun c => isLabelChar c || 0x80 ≤ c.toNat

/-- The pieces joined by dots. -/
def joinDots (labels : List (List Char)) : List Char := List.intercalate ['.'] labels

/-- The labels of a host name up to the first that is none, of which only the valid beginning is
kept; what is left out is returned as well. -/
def validLabels : List (List Char) → List (List Char) × Option (List Char)
  | [] => ([], none)
  | label :: rest =>
    if isLabel label then
      let (labels, left) := validLabels rest
      (label :: labels, left)
    else
      let front := (label.takeWhile isLabelChar).take 63
      ([front], some (joinDots (label.drop front.length :: rest)))

/-- The host at the start of a text, without a colon at its end, and the rest. -/
def splitHost (cs : List Char) : List Char × List Char :=
  let host := cs.takeWhile (!endsHost ·)
  match host.reverse with
  | ':' :: front => (front.reverse, cs.drop front.length)
  | _ => (host, cs.drop host.length)

/-- Takes the host off the front of `cs`, after the user has been taken off. -/
def Parts.withHost (p : Parts) (cs : List Char) : Parts × List Char :=
  let (host, rest) := splitHost cs
  let (host, port) := splitPort host
  let numeric := host.head? == some '[' && host.getLast? == some ']'
  let (host, rest) :=
    if numeric then (host, rest)
    else
      let (labels, left) := validLabels (Text.splitAtChar '.' host)
      (joinDots labels, left.getD [] ++ rest)
  let host := if 255 < host.length then [] else host
  let host := if numeric then (host.drop 1).dropLast else host
  ({ p with host, port }, rest)

/-- Takes a URL apart. -/
def Parts.parse (cs : List Char) : Parts :=
  let (scheme, rest) := splitScheme (Text.trim cs)
  let name := String.ofList scheme
  let slashes := rest.take 2 == ['/', '/']
  let hasHost := name != hostless
  let (slashed, rest) := if slashes && hasHost then (true, rest.drop 2) else (false, rest)
  let p : Parts := { scheme, slashes := slashed }
  let (p, rest) :=
    if hasHost && (slashes || (!scheme.isEmpty && !slashedSchemes.contains name)) then
      let (user, rest) := splitUser rest
      Parts.withHost { p with user } rest
    else (p, rest)
  let (rest, fragment) := (rest.takeWhile (· != '#'), rest.dropWhile (· != '#'))
  let (path, query) := (rest.takeWhile (· != '?'), rest.dropWhile (· != '?'))
  { p with path, query, fragment }

/-- What stands before the host. -/
def Parts.front (p : Parts) : List Char :=
  p.scheme ++ (if p.slashes then ['/', '/'] else []) ++
    (if p.user.isEmpty then [] else p.user ++ ['@'])

/-- What stands after the host. -/
def Parts.back (p : Parts) : List Char :=
  (if p.port.isEmpty then [] else ':' :: p.port) ++ p.path ++ p.query ++ p.fragment

/-- Puts the parts together, written by `f`; a host that holds a colon is a numeric address, whose
brackets stay as they are. -/
def Parts.format (f : List Char → List Char) (p : Parts) : List Char :=
  if p.host.contains ':' then f p.front ++ '[' :: f p.host ++ ']' :: f p.back
  else f (p.front ++ p.host ++ p.back)

/-- Whether the host name is one of a web or mail address, or of no scheme. -/
def Parts.isAddress (p : Parts) : Bool :=
  !p.host.isEmpty &&
    (p.scheme.isEmpty || ["http:", "https:", "mailto:"].contains (String.ofList p.scheme))

/-- The labels of a host name; three more characters separate labels as a dot does. -/
def hostLabels : List Char → List (List Char)
  | [] => [[]]
  | c :: rest =>
    if c == '.' || c == '\u3002' || c == '\uff0e' || c == '\uff61' then [] :: hostLabels rest
    else
      match hostLabels rest with
      | [] => [[c]]
      | label :: more => (c :: label) :: more

/-- The Punycode form of a label that is not ASCII. -/
def labelToAscii (label : List Char) : List Char :=
  if label.all (·.toNat ≤ 0x7E) then label else "xn--".toList ++ Punycode.encode label

/-- The label that a Punycode form stands for. -/
def labelToUnicode (label : List Char) : Option (List Char) :=
  if label.take 4 == "xn--".toList then Punycode.decode (Text.lower (label.drop 4))
  else some label

/-- A link destination as an attribute shows it. -/
def normalize (cs : List Char) : List Char :=
  let p := Parts.parse cs
  let p := if p.isAddress then
      { p with host := joinDots ((hostLabels p.host).map labelToAscii) } else p
  p.format encode

/-- An automatic link as running text shows it. -/
def display (cs : List Char) : List Char :=
  let p := Parts.parse cs
  let p := if p.isAddress then
      match (hostLabels p.host).mapM labelToUnicode with
      | some labels => { p with host := joinDots labels }
      | none => p
    else p
  decode (p.format id)

/-- Whether a destination, already in ASCII, may be linked to: no script, file or data URL, the
common image formats excepted. -/
def isAllowed (cs : List Char) : Bool :=
  let url := String.ofList ((Text.trim cs).map Char.toLower)
  if ["vbscript:", "javascript:", "file:", "data:"].any (url.startsWith ·) then
    ["gif", "png", "jpeg", "webp"].any fun format =>
      url.startsWith ("data:image/" ++ format ++ ";")
  else true

end ElementCode.Url
