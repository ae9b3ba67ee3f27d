import ElementCode.Markdown.Entity
import ElementCode.Text.Blank

/-!
# HTML in Markdown

Recognisers for raw HTML: the tags, comments, processing instructions, declarations and CDATA
sections that stand in running text, and the seven kinds of lines that start an HTML block, each
with the condition that ends it.
-/

namespace ElementCode.Markdown

/-- Reads a word of lower case letters in either case; gives the rest. -/
def wordRest? : List Char → List Char → Option (List Char)
  | [], cs => some cs
  | w :: word, c :: cs => if c.toLower == w then wordRest? word cs else none
  | _ :: _, [] => none

/-- Reads an exact text; gives the rest. -/
def textRest? (text : String) (cs : List Char) : Option (List Char) :=
  let t := text.toList
  if t.isPrefixOf cs then some (cs.drop t.length) else none

/-- What follows the first occurrence of a text. -/
def restAfter? (text : List Char) : List Char → Option (List Char)
  | [] => if text.isEmpty then some [] else none
  | c :: cs =>
    if text.isPrefixOf (c :: cs) then some ((c :: cs).drop text.length) else restAfter? text cs

/-! ## Tags -/

/-- The first character of an attribute's name. -/
def startsAttribute (c : Char) : Bool := isLetter c || c == '_' || c == ':'

/-- A later character of an attribute's name. -/
def inAttribute (c : Char) : Bool :=
  isLetter c || isDigit c || c == ':' || c == '.' || c == '_' || c == '-'

/-- A character of an attribute's value without quotes. -/
def inUnquoted (c : Char) : Bool :=
  0x20 < c.toNat && !"\"'=<>`".toList.contains c

/-- A later character of a tag's name. -/
def inTagName (c : Char) : Bool := isLetter c || isDigit c || c == '-'

/-- The end of an opening tag: perhaps white space and a slash, then `>`.  The rest has to be
accepted. -/
def tagClose (accept : List Char → Bool) (cs : List Char) : Option (List Char) :=
  let found := match cs.dropWhile Text.isBlank with
    | '/' :: '>' :: rest => some rest
    | '>' :: rest => some rest
    | _ => none
  found.filter accept

/-- The first of the candidates `n, n - 1, …, 1` that gives a result. -/
def firstDown (f : Nat → Option α) : Nat → Option α
  | 0 => none
  | n + 1 =>
    match f (n + 1) with
    | some a => some a
    | none => firstDown f n

/-- The value of an attribute and what `close` makes of the text after it.  A value without quotes
is as long as it can be so that `close` gives a result. -/
def attributeValue (close : List Char → Option α) : List Char → Option α
  | '\'' :: body => (body.dropWhile (· != '\'')).tail? >>= close
  | '"' :: body => (body.dropWhile (· != '"')).tail? >>= close
  | body => firstDown (fun n => close (body.drop n)) (body.takeWhile inUnquoted).length

/-- The attributes and the end of an opening tag; every attribute is as long as it can be so that
the rest is still accepted.  White space after an equals sign may also start a value, unless it is
ASCII.  `fuel` bounds the number of attributes. -/
def attributesClose (accept : List Char → Bool) : Nat → List Char → Option (List Char)
  | 0, cs => tagClose accept cs
  | fuel + 1, cs =>
    let more := match cs with
      | b :: _ =>
        if Text.isBlank b then
          match cs.dropWhile Text.isBlank with
          | c :: rest => if startsAttribute c then some (rest.dropWhile inAttribute) else none
          | [] => none
        else none
      | [] => none
    match more with
    | none => tagClose accept cs
    | some after =>
      let valued := match after.dropWhile Text.isBlank with
        | '=' :: value =>
          let gap := (value.takeWhile Text.isBlank).length
          firstDown (fun n => attributeValue (attributesClose accept fuel) (value.drop (n - 1)))
            (gap + 1)
        | _ => none
      match valued with
      | some rest => some rest
      | none =>
        match attributesClose accept fuel after with
        | some rest => some rest
        | none => tagClose accept cs

/-- An opening tag, after its `<`. -/
def openTag (accept : List Char → Bool) : List Char → Option (List Char)
  | c :: rest =>
    if isLetter c then attributesClose accept rest.length (rest.dropWhile inTagName) else none
  | [] => none

/-- A closing tag, after its `</`. -/
def closeTag (accept : List Char → Bool) : List Char → Option (List Char)
  | c :: rest =>
    if isLetter c then
      match (rest.dropWhile inTagName).dropWhile Text.isBlank with
      | '>' :: rest => if accept rest then some rest else none
      | _ => none
    else none
  | [] => none

/-- The rest of a comment, after its `<!--`: single hyphens, and pairs that no `>` follows, belong
to the comment. -/
def commentRest : List Char → Option (List Char)
  | '-' :: '-' :: '>' :: rest => some rest
  | '-' :: '-' :: _ :: rest => commentRest rest
  | '-' :: c :: rest => if c == '-' then none else commentRest rest
  | '-' :: [] => none
  | _ :: rest => commentRest rest
  | [] => none

/-- Raw HTML in running text, from its `<` on: the rest after it. -/
def htmlInline? (cs : List Char) : Option (List Char) :=
  let any (_ : List Char) : Bool := true
  match cs with
  | '<' :: '/' :: rest => closeTag any rest
  | '<' :: '!' :: '-' :: '-' :: '>' :: rest => some rest
  | '<' :: '!' :: '-' :: '-' :: '-' :: '>' :: rest => some rest
  | '<' :: '!' :: '-' :: '-' :: rest => commentRest rest
  | '<' :: '?' :: rest => restAfter? ['?', '>'] rest
  | '<' :: '!' :: rest =>
    match textRest? "[CDATA[" rest with
    | some rest => restAfter? [']', ']', '>'] rest
    | none =>
      match rest with
      | c :: rest => if isLetter c then restAfter? ['>'] rest else none
      | [] => none
  | '<' :: rest => openTag any rest
  | _ => none

/-! ## Blocks -/

/-- The kinds of HTML blocks, by what ends them. -/
inductive HtmlBlock where
  /-- Ends with the closing tag of an element whose content is not markup. -/
  | verbatim
  /-- Ends with `-->`. -/
  | comment
  /-- Ends with `?>`. -/
  | processing
  /-- Ends with `>`. -/
  | declaration
  /-- Ends with `]]>`. -/
  | cdata
  /-- Starts with the tag of a block element and ends before a blank line. -/
  | element
  /-- Starts with a complete tag alone on its line and ends before a blank line. -/
  | anyTag
  deriving DecidableEq, Repr

/-- The elements whose content is not markup. -/
def verbatimNames : List (List Char) :=
  ["script", "pre", "style", "textarea"].map String.toList

/-- The elements that start a block. -/
def blockNames : List (List Char) :=
  ["address", "article", "aside", "base", "basefont", "blockquote", "body", "caption", "center",
    "col", "colgroup", "dd", "details", "dialog", "dir", "div", "dl", "dt", "fieldset",
    "figcaption", "figure", "footer", "form", "frame", "frameset", "h1", "h2", "h3", "h4", "h5",
    "h6", "head", "header", "hr", "html", "iframe", "legend", "li", "link", "main", "menu",
    "menuitem", "nav", "noframes", "ol", "optgroup", "option", "p", "param", "search", "section",
    "summary", "table", "tbody", "td", "tfoot", "th", "thead", "title", "tr", "track",
    "ul"].map String.toList

/-- Whether a line, from its first character on, starts a verbatim element. -/
def startsVerbatim (cs : List Char) : Bool :=
  verbatimNames.any fun name =>
    match wordRest? name cs with
    | some [] => true
    | some (c :: _) => Text.isBlank c || c == '>'
    | none => false

/-- Whether a line, after `<` or `</`, starts a block element. -/
def startsElement (cs : List Char) : Bool :=
  blockNames.any fun name =>
    match wordRest? name cs with
    | some [] => true
    | some ('/' :: '>' :: _) => true
    | some (c :: _) => Text.isBlank c || c == '>'
    | none => false

/-- The kind of HTML block that a line starts. -/
def HtmlBlock.ofLine? (line : List Char) : Option HtmlBlock :=
  match line with
  | '<' :: rest =>
    let name := match rest with
      | '/' :: name => name
      | name => name
    let blank (cs : List Char) : Bool := cs.all Text.isBlank
    if startsVerbatim rest then some verbatim
    else if (textRest? "!--" rest).isSome then some comment
    else if rest.head? == some '?' then some processing
    else if rest.head? == some '!' && (rest.drop 1).head?.any isLetter then
      some declaration
    else if (textRest? "![CDATA[" rest).isSome then some cdata
    else if startsElement name then some element
    else
      let tag := match rest with
        | '/' :: name => closeTag blank name
        | rest => openTag blank rest
      tag.map fun _ => anyTag
  | _ => none

/-- Whether the closing tag of a verbatim element stands in a line. -/
def hasVerbatimClose : List Char → Bool
  | [] => false
  | c :: rest =>
    (match c, rest with
      | '<', '/' :: rest =>
        verbatimNames.any fun name =>
          match wordRest? name rest with
          | some ('>' :: _) => true
          | _ => false
      | _, _ => false) || hasVerbatimClose rest

/-- Whether a line ends an HTML block. -/
def HtmlBlock.endsWith (b : HtmlBlock) (line : List Char) : Bool :=
  match b with
  | verbatim => hasVerbatimClose line
  | comment => (restAfter? ['-', '-', '>'] line).isSome
  | processing => (restAfter? ['?', '>'] line).isSome
  | declaration => line.contains '>'
  | cdata => (restAfter? [']', ']', '>'] line).isSome
  | element | anyTag => line.isEmpty

/-- Whether an HTML block may follow a paragraph without a blank line. -/
def HtmlBlock.interrupts (b : HtmlBlock) : Bool := b != anyTag

end ElementCode.Markdown
