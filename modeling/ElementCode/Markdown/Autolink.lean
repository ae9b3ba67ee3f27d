import ElementCode.Markdown.Link

/-!
# Automatic links

An address between angle brackets is a link to itself: a URL with a scheme, or a mail address.
One line ending may follow the address.
-/

namespace ElementCode.Markdown

/-- Leaves out one line ending at the end. -/
def dropFinalNewline (cs : List Char) : List Char :=
  if cs.getLast? == some '\n' then cs.dropLast else cs

/-- A character of a scheme after the first. -/
def inScheme (c : Char) : Bool := isLetter c || isDigit c || c == '+' || c == '.' || c == '-'

/-- Whether a text is an absolute URL: a scheme of 2 to 32 characters, a colon and no blank. -/
def isUrl (cs : List Char) : Bool :=
  let cs := dropFinalNewline cs
  let scheme := cs.takeWhile inScheme
  match cs.drop scheme.length with
  | ':' :: rest =>
    scheme.head?.any isLetter && 2 ≤ scheme.length && scheme.length ≤ 32 &&
      rest.all fun c => 0x20 < c.toNat && c != '<' && c != '>'
  | _ => false

/-- A character of the part of a mail address before the at sign. -/
def inMailbox (c : Char) : Bool :=
  isLetter c || isDigit c || ".!#$%&'*+/=?^_`\x7b|\x7d~-".toList.contains c

/-- Whether a text is a label of a host name in a mail address. -/
def isMailLabel (cs : List Char) : Bool :=
  let plain (c : Char) : Bool := isLetter c || isDigit c
  cs.length ≤ 63 && cs.head?.any plain && cs.getLast?.any plain &&
    cs.all fun c => plain c || c == '-'

/-- Whether a text is a mail address. -/
def isMail (cs : List Char) : Bool :=
  let cs := dropFinalNewline cs
  let mailbox := cs.takeWhile inMailbox
  match cs.drop mailbox.length with
  | '@' :: host => !mailbox.isEmpty && (Text.splitAtChar '.' host).all isMailLabel
  | _ => false

/-- The destination of an automatic link, given what stands between the brackets. -/
def autolink? (cs : List Char) : Option (List Char) :=
  if isUrl cs then allowed? cs
  else if isMail cs then allowed? ("mailto:".toList ++ cs)
  else none

end ElementCode.Markdown
