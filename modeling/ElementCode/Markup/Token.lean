import ElementCode.Value

/-!
# Markup tokens

A parsed Markdown text is a flat stream of tokens.  Block containers are a pair of tokens around
their content; the running text of a paragraph or heading is one `inline` token whose children
form a stream of their own.  A token has a kind and, depending on it, a tag, content, an info
string, attributes and data about footnotes.
-/

namespace ElementCode.Markup

/-- What a token stands for. -/
inductive Kind where
  | headingOpen | headingClose
  | paragraphOpen | paragraphClose
  | bulletListOpen | bulletListClose
  | orderedListOpen | orderedListClose
  | listItemOpen | listItemClose
  | blockquoteOpen | blockquoteClose
  | fence | codeBlock | htmlBlock | thematicBreak
  | mathBlock | mathBlockNumbered
  | footnoteBlockOpen | footnoteBlockClose
  | footnoteReferenceOpen | footnoteReferenceClose
  | footnoteOpen | footnoteClose | footnoteAnchor
  | inline
  | text | textSpecial | softbreak | hardbreak
  | emOpen | emClose
  | strongOpen | strongClose
  | codeInline
  | linkOpen | linkClose
  | image
  | mathInline | mathSingle | mathInlineDouble
  | footnoteRef
  | htmlInline
  /-- Any other name. -/
  | other (name : String)
  deriving DecidableEq, Repr, Inhabited

/-- The kind with a name. -/
def Kind.ofName : String → Kind
  | "heading_open" => headingOpen
  | "heading_close" => headingClose
  | "paragraph_open" => paragraphOpen
  | "paragraph_close" => paragraphClose
  | "bullet_list_open" => bulletListOpen
  | "bullet_list_close" => bulletListClose
  | "ordered_list_open" => orderedListOpen
  | "ordered_list_close" => orderedListClose
  | "list_item_open" => listItemOpen
  | "list_item_close" => listItemClose
  | "blockquote_open" => blockquoteOpen
  | "blockquote_close" => blockquoteClose
  | "fence" => fence
  | "code_block" => codeBlock
  | "html_block" => htmlBlock
  | "hr" => thematicBreak
  | "math_block" => mathBlock
  | "math_block_eqno" => mathBlockNumbered
  | "footnote_block_open" => footnoteBlockOpen
  | "footnote_block_close" => footnoteBlockClose
  | "footnote_reference_open" => footnoteReferenceOpen
  | "footnote_reference_close" => footnoteReferenceClose
  | "footnote_open" => footnoteOpen
  | "footnote_close" => footnoteClose
  | "footnote_anchor" => footnoteAnchor
  | "inline" => inline
  | "text" => text
  | "text_special" => textSpecial
  | "softbreak" => softbreak
  | "hardbreak" => hardbreak
  | "em_open" => emOpen
  | "em_close" => emClose
  | "strong_open" => strongOpen
  | "strong_close" => strongClose
  | "code_inline" => codeInline
  | "link_open" => linkOpen
  | "link_close" => linkClose
  | "image" => image
  | "math_inline" => mathInline
  | "math_single" => mathSingle
  | "math_inline_double" => mathInlineDouble
  | "footnote_ref" => footnoteRef
  | "html_inline" => htmlInline
  | name => other name

/-- A token. -/
structure Token where
  /-- What the token stands for. -/
  kind : Kind
  /-- The name of the element it becomes. -/
  tag : String := ""
  /-- Its text. -/
  content : String := ""
  /-- The info string of a code block, or the label of a numbered formula. -/
  info : String := ""
  /-- The attributes of the element it becomes. -/
  attrs : List (String × Value) := []
  /-- What is known of a footnote: `id`, `subId` and `label`. -/
  data : List (String × Value) := []
  /-- The stream inside an inline or image token. -/
  children : List Token := []
  /-- Whether the element itself is left out, as for a paragraph of a tight list. -/
  hidden : Bool := false
  deriving Inhabited

/-- The attribute with a name; an absent one, like an empty or zero one, is the empty text. -/
def Token.attrValue (t : Token) (name : String) : Value :=
  match Value.field name t.attrs with
  | some v => if v.isTruthy then v else .str ""
  | none => .str ""

/-- How the footnote of a reference is named: by its label, or else by its number. -/
def Token.footnoteName (t : Token) : Value :=
  match Value.field "label" t.data with
  | some v => if v.isTruthy then v else (Value.field "id" t.data).getD (.str "")
  | none => (Value.field "id" t.data).getD (.str "")

end ElementCode.Markup
