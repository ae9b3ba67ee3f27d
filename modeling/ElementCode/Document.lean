import ElementCode.Value

/-!
# Documents

A document is a list of blocks; blocks hold blocks or inlines; links and images have a
destination, and headings a level.  Documents are also read from data that nobody has checked, so
each position may hold a *foreign* value: one that is no block, inline, destination or level.  It is
kept as it is, to be dumped with the rest and to be named when the document is rejected.  A value
that stands in the place of a whole list, and cannot be gone through as one, is a *misfit*.

A document without either is *closed*.
-/

namespace ElementCode

/-- Where a link or an image points. -/
inductive Destination where
  | url (url : String)
  | reference (name : String)
  | foreign (value : Value)
  deriving Inhabited

/-- The level of a heading. -/
inductive Level where
  | number (n : Int)
  | foreign (value : Value)
  deriving Inhabited

/-- The value of a level. -/
def Level.toValue : Level → Value
  | number n => .int n
  | foreign value => value

/-- A piece of running text. -/
inductive Inline where
  | text (text : String)
  | emphasis (inline : List Inline)
  | strong (inline : List Inline)
  | code (text : String)
  | link (inline : List Inline) (destination : Destination)
  | image (inline : List Inline) (destination : Destination)
  | footnote (reference : String)
  | linebreak
  | mathInline (latex : String)
  | mathDisplay (latex : String)
  | nonBreakingSpace
  | foreign (value : Value)
  /-- Stands alone in a list of inlines, for the value in the place of the list. -/
  | misfit (value : Value)
  deriving Inhabited

/-- A block of a document. -/
inductive Block where
  | paragraph (inline : List Inline)
  | heading (level : Level) (inline : List Inline)
  /-- One list of blocks for each item. -/
  | bulletList (items : List (List Block))
  | codeBlock (language : Option String) (content : String)
  | blockQuote (blocks : List Block)
  | rawBlock (content : String)
  | thematicBreak
  | foreign (value : Value)
  /-- Stands alone in a list of blocks, for the value in the place of the list. -/
  | misfit (value : Value)
  deriving Inhabited

/-- A document. -/
structure Document where
  /-- The blocks, from top to bottom. -/
  blocks : List Block
  deriving Inhabited

/-- The name of the kind of an inline. -/
def Inline.kind : Inline → String
  | text _ => "Text"
  | emphasis _ => "Emphasis"
  | strong _ => "Strong"
  | code _ => "Code"
  | link _ _ => "Link"
  | image _ _ => "Image"
  | footnote _ => "Footnote"
  | linebreak => "Linebreak"
  | mathInline _ => "MathInline"
  | mathDisplay _ => "MathDisplay"
  | nonBreakingSpace => "NonBreakingSpace"
  | foreign value | misfit value => value.className

/-- The name of the kind of a block. -/
def Block.kind : Block → String
  | paragraph _ => "Paragraph"
  | heading _ _ => "Heading"
  | bulletList _ => "BulletList"
  | codeBlock _ _ => "CodeBlock"
  | blockQuote _ => "BlockQuote"
  | rawBlock _ => "RawBlock"
  | thematicBreak => "ThematicBreak"
  | foreign value | misfit value => value.className

/-! ## Closed documents -/

/-- Whether a destination is no foreign value. -/
def Destination.isClosed : Destination → Bool
  | url _ | reference _ => true
  | foreign _ => false

/-- Whether a level is a number. -/
def Level.isClosed : Level → Bool
  | number _ => true
  | foreign _ => false

mutual

/-- Whether an inline holds no foreign value and no misfit, also in alternative texts. -/
def Inline.isClosed : Inline → Bool
  | .emphasis inline | .strong inline => Inline.allClosed inline
  | .link inline destination | .image inline destination =>
    Inline.allClosed inline && destination.isClosed
  | .text _ | .code _ | .footnote _ | .linebreak | .mathInline _ | .mathDisplay _
  | .nonBreakingSpace => true
  | .foreign _ | .misfit _ => false

/-- Whether some inlines hold no foreign value and no misfit. -/
def Inline.allClosed : List Inline → Bool
  | [] => true
  | i :: rest => Inline.isClosed i && Inline.allClosed rest

end

mutual

/-- Whether a block holds no foreign value and no misfit. -/
def Block.isClosed : Block → Bool
  | .paragraph inline => Inline.allClosed inline
  | .heading level inline => level.isClosed && Inline.allClosed inline
  | .bulletList items => Block.itemsClosed items
  | .blockQuote blocks => Block.allClosed blocks
  | .codeBlock _ _ | .rawBlock _ | .thematicBreak => true
  | .foreign _ | .misfit _ => false

/-- Whether some blocks hold no foreign value and no misfit. -/
def Block.allClosed : List Block → Bool
  | [] => true
  | b :: rest => Block.isClosed b && Block.allClosed rest

/-- Whether the items of a list hold no foreign value and no misfit. -/
def Block.itemsClosed : List (List Block) → Bool
  | [] => true
  | item :: rest => Block.allClosed item && Block.itemsClosed rest

end

/-- Whether a document holds no foreign value and no misfit. -/
def Document.isClosed (d : Document) : Bool := Block.allClosed d.blocks

end ElementCode
