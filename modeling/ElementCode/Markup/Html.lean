import ElementCode.Markdown.Entity
import ElementCode.Markup.Document
import ElementCode.Text.Blank
import ElementCode.Value.Display

/-!
# HTML

A stream of tokens written as HTML.  A block element ends its line, unless running text or its own
closing tag follows directly; the paragraphs of a tight list leave no element.  Formulas and
footnotes have elements of their own.
-/

namespace ElementCode.Markup.Html

/-- Escapes the characters that HTML gives a meaning. -/
def escape (s : String) : String :=
  String.join (s.toList.map fun c =>
    match c with
    | '&' => "&amp;"
    | '<' => "&lt;"
    | '>' => "&gt;"
    | '"' => "&quot;"
    | c => c.toString)

/-- The attributes of an opening tag. -/
def attributes (attrs : List (String × Value)) : String :=
  String.join (attrs.map fun (name, value) =>
    " " ++ escape name ++ "=\"" ++ escape value.text ++ "\"")

/-! ## Elements -/

/-- How a token takes part in an element. -/
inductive Role where
  /-- It opens the element. -/
  | opening
  /-- It closes the element. -/
  | closing
  /-- It is the whole element. -/
  | whole
  deriving DecidableEq, Repr

/-- The role of a kind of token. -/
def Role.of : Kind → Role
  | .headingOpen | .paragraphOpen | .bulletListOpen | .orderedListOpen | .listItemOpen
  | .blockquoteOpen | .emOpen | .strongOpen | .linkOpen => opening
  | .headingClose | .paragraphClose | .bulletListClose | .orderedListClose | .listItemClose
  | .blockquoteClose | .emClose | .strongClose | .linkClose => closing
  | _ => whole

/-- Whether a kind of token belongs to a block element. -/
def isBlock : Kind → Bool
  | .headingOpen | .headingClose | .paragraphOpen | .paragraphClose
  | .bulletListOpen | .bulletListClose | .orderedListOpen | .orderedListClose
  | .listItemOpen | .listItemClose | .blockquoteOpen | .blockquoteClose | .thematicBreak => true
  | _ => false

/-- Whether the line goes on after a token, given the token that follows. -/
def staysOnLine (t : Token) (next : Option Token) : Bool :=
  Role.of t.kind == .opening &&
    next.any fun u =>
      u.kind == .inline || u.hidden || (Role.of u.kind == .closing && u.tag == t.tag)

/-- The tag of a token.  `afterHidden` says that the token before it was left out, which puts a
block element on a line of its own. -/
def tag (afterHidden : Bool) (t : Token) (next : Option Token) : String :=
  if t.hidden then ""
  else
    let role := Role.of t.kind
    let block := isBlock t.kind
    (if block && role != .closing && afterHidden then "\n" else "") ++
      (if role == .closing then "</" else "<") ++ t.tag ++ attributes t.attrs ++
      (if role == .whole then " /" else "") ++
      (if block && !staysOnLine t next then ">\n" else ">")

/-- A fenced code block; the first word of its info string names its language. -/
def fence (t : Token) : String :=
  let attrs := match Text.wordsBy Text.isGap (Markdown.resolve t.info.toList) with
    | [] => []
    | language :: _ => [("class", Value.str ("language-" ++ String.ofList language))]
  "<pre><code" ++ attributes (t.attrs ++ attrs) ++ ">" ++ escape t.content ++ "</code></pre>\n"

/-- The text that describes an image: its running text without markup. -/
def altText (ts : List Token) : String :=
  match ts with
  | [] => ""
  | t :: rest =>
    (match t.kind with
      | .text | .codeInline | .htmlInline => t.content
      | .image => altText t.children
      | .softbreak | .hardbreak => "\n"
      | _ => "") ++ altText rest
termination_by sizeOf ts
decreasing_by
  · have := t.sizeOf_children_lt
    simp only [List.cons.sizeOf_spec]
    omega
  · have := t.sizeOf_pos
    simp only [List.cons.sizeOf_spec]
    omega

/-- An image with its description. -/
def image (t : Token) : String :=
  let alt := altText t.children
  tag false { t with attrs := t.attrs.map fun (name, value) =>
    (name, if name == "alt" then .str alt else value) } none

/-! ## Footnotes -/

/-- A number that a token gives about its footnote. -/
def noteNumber (t : Token) (name : String) : Int :=
  match Value.field name t.data with
  | some (.int n) => n
  | _ => 0

/-- The number of the footnote of a token, counted from one. -/
def noteName (t : Token) : String := toString (noteNumber t "id" + 1)

/-- The name of one of the references to a footnote. -/
def referenceName (t : Token) : String :=
  let subId := noteNumber t "subId"
  if 0 < subId then noteName t ++ ":" ++ toString subId else noteName t

/-! ## Streams -/

/-- A token of a stream, given the token that follows; `afterHidden` says that the one before it
was left out. -/
def token (afterHidden : Bool) (t : Token) (next : Option Token) : String :=
  match t.kind with
  | .text => escape t.content
  | .softbreak => "\n"
  | .hardbreak => "<br />\n"
  | .codeInline => "<code" ++ attributes t.attrs ++ ">" ++ escape t.content ++ "</code>"
  | .codeBlock =>
    "<pre" ++ attributes t.attrs ++ "><code>" ++ escape t.content ++ "</code></pre>\n"
  | .fence => fence t
  | .image => image t
  | .htmlInline | .htmlBlock => t.content
  | .mathInline | .mathSingle => "<eq>" ++ escape t.content ++ "</eq>"
  | .mathBlock | .mathBlockNumbered =>
    "<section>\n<eqn>" ++ escape t.content ++ "</eqn>\n</section>\n"
  | .footnoteRef =>
    "<sup class=\"footnote-ref\"><a href=\"#fn" ++ noteName t ++ "\" id=\"fnref" ++
      referenceName t ++ "\">[" ++ referenceName t ++ "]</a></sup>"
  | .footnoteBlockOpen =>
    "<hr class=\"footnotes-sep\" />\n<section class=\"footnotes\">\n<ol class=\"footnotes-list\">\n"
  | .footnoteBlockClose => "</ol>\n</section>\n"
  | .footnoteOpen => "<li id=\"fn" ++ noteName t ++ "\" class=\"footnote-item\">"
  | .footnoteClose => "</li>\n"
  | .footnoteAnchor =>
    " <a href=\"#fnref" ++ referenceName t ++ "\" class=\"footnote-backref\">\u21a9\ufe0e</a>"
  | _ => tag afterHidden t next

/-- A stream of inline tokens. -/
def inlineStream : List Token → String
  | [] => ""
  | t :: rest => token false t rest.head? ++ inlineStream rest

/-- A stream of block tokens. -/
def blockStream (afterHidden : Bool) : List Token → String
  | [] => ""
  | t :: rest =>
    (if t.kind == .inline then inlineStream t.children else token afterHidden t rest.head?) ++
      blockStream t.hidden rest

end ElementCode.Markup.Html

namespace ElementCode.Markup

/-- A stream of tokens as HTML. -/
def html (tokens : List Token) : String := Html.blockStream false tokens

end ElementCode.Markup
