import ElementCode.Markdown.Blocks
import ElementCode.Markdown.Footnotes
import ElementCode.Markdown.Inlines
import ElementCode.Text.Newline

/-!
# Markdown

The parser for Markdown with formulas between dollar signs and with footnotes: a text becomes a
stream of markup tokens.  The block structure comes first and gives the definitions; then the
running text of every block is read, and the footnotes that it uses are put at the end.
-/

namespace ElementCode.Markdown

open Markup (Token)

/-- Why a text cannot be read: it ends within the indentation that raw HTML in a container has to
have. -/
inductive Fault where
  | cutShort
  deriving DecidableEq, Repr

/-- The text of a fault. -/
def Fault.message : Fault → String
  | cutShort => "string index out of range"

/-- Reads the running text of all blocks, in order. -/
def fillInlines (defs : Definitions) : List Token → Notes → List Token × Notes
  | [], notes => ([], notes)
  | t :: rest, notes =>
    let (t, notes) :=
      if t.kind == .inline then
        let (children, notes) := inlines defs t.content notes
        ({ t with children }, notes)
      else (t, notes)
    let (rest, notes) := fillInlines defs rest notes
    (t :: rest, notes)

/-- Makes escapes and character references ordinary text, joined with the text around them. -/
def joinSpecial (tokens : List Token) : List Token :=
  joinText (tokens.map fun t => if t.kind == .textSpecial then { t with kind := .text } else t)

/-- Joins the text of a running text and of the images in it, but not of images within them. -/
def joinAll (tokens : List Token) : List Token :=
  joinSpecial (tokens.map fun t =>
    if t.kind == .image then { t with children := joinSpecial t.children } else t)

/-- The source text as it is parsed: line endings are line feeds, and no character is NUL. -/
def normalSource (text : String) : Source :=
  ((Text.unifyNewlines text.toList).map fun c => if c.toNat == 0 then '\ufffd' else c).toArray

/-- The tokens of a Markdown text. -/
def parse (text : String) : Except Fault (List Token) :=
  let r := blocks (normalSource text)
  if r.cutShort then .error .cutShort
  else
    let (tokens, notes) := fillInlines r.defs r.tokens.toList {}
    .ok ((withFootnotes tokens notes).map fun t =>
      if t.kind == .inline then { t with children := joinAll t.children } else t)

end ElementCode.Markdown
