import ElementCode.Code
import ElementCode.Document

/-!
# Documents as tagged data

Every node has a form as plain data: a mapping that names the kind of the node under `type` and
then lists its fields.  `Value.tagged` gives this form for any value, `Value.ofTagged` reads it
back, and `Document.toValue` and `Document.ofValue` join nodes with the types of documents.
`Code.ofValue` does the same for code trees and reports the first value that is none.
-/

namespace ElementCode

/-- The fields of the nodes of each kind, in order; a field with a value may be left out. -/
def nodeFields : String → Option (List (String × Option Value))
  | "Document" => some [("blocks", some (.list []))]
  | "Paragraph" => some [("inline", none)]
  | "Heading" => some [("level", none), ("inline", none)]
  | "BulletList" => some [("items", none)]
  | "CodeBlock" => some [("language", none), ("content", none)]
  | "BlockQuote" => some [("blocks", none)]
  | "RawBlock" => some [("content", none)]
  | "ThematicBreak" => some []
  | "Block" => some []
  | "Text" => some [("text", none)]
  | "Emphasis" => some [("inline", none)]
  | "Strong" => some [("inline", none)]
  | "Code" => some [("text", none)]
  | "Link" => some [("inline", none), ("destination", none)]
  | "Image" => some [("inline", none), ("destination", none)]
  | "Footnote" => some [("reference", none)]
  | "Linebreak" => some []
  | "MathInline" => some [("latex", none)]
  | "MathDisplay" => some [("latex", none)]
  | "NonBreakingSpace" => some []
  | "Inline" => some []
  | "Url" => some [("url", none)]
  | "Reference" => some [("name", none)]
  | "Destination" => some []
  | "Element" =>
    some [("tag", none), ("attributes", some (.list [])), ("children", some (.list []))]
  | "SelfClosingElement" => some [("tag", none), ("attributes", some (.list []))]
  | "RawHtmlNode" => some [("namespace", none), ("tag", none), ("attributes", none),
      ("content", none)]
  | "TextNode" => some [("content", none)]
  | _ => none

namespace Value

mutual

/-- The data form of a value: nodes become mappings, in lists as well; a mapping is data
already. -/
def tagged : Value → Value
  | node kind fields => dict ((str "type", str kind) :: taggedFields fields)
  | list items => list (taggedAll items)
  | tuple items => list (taggedAll items)
  | v => v

/-- The data forms of the items of a list. -/
def taggedAll : List Value → List Value
  | [] => []
  | v :: rest => tagged v :: taggedAll rest

/-- The data forms of the fields of a node. -/
def taggedFields : List (String × Value) → List (Value × Value)
  | [] => []
  | (name, v) :: rest => (str name, tagged v) :: taggedFields rest

end

/-- An attribute is a pair of a key and a value. -/
def toPair : Value → Value
  | list [k, v] => tuple [k, v]
  | v => v

/-- The value of a field, given the entries of a mapping.  The attributes of an element are
pairs. -/
def ofEntries (entries : List (Value × Value)) (spec : String × Option Value) : String × Value :=
  let v := (lookup spec.1 entries).getD (spec.2.getD null)
  (spec.1,
    match spec.1, v with
    | "attributes", list items => list (items.map toPair)
    | _, v => v)

mutual

/-- Reads nodes back from their data form: a mapping that names a kind is a node of it. -/
def ofTagged : Value → Value
  | dict entries =>
    let entries := ofTaggedEntries entries
    match lookup "type" entries with
    | some (str kind) =>
      match nodeFields kind with
      | some specs => node kind (specs.map (ofEntries entries))
      | none => dict entries
    | _ => dict entries
  | list items => list (ofTaggedAll items)
  | v => v

/-- Reads the items of a list. -/
def ofTaggedAll : List Value → List Value
  | [] => []
  | v :: rest => ofTagged v :: ofTaggedAll rest

/-- Reads the entries of a mapping. -/
def ofTaggedEntries : List (Value × Value) → List (Value × Value)
  | [] => []
  | (k, v) :: rest => (k, ofTagged v) :: ofTaggedEntries rest

end

end Value

namespace Destination

/-- The node of a destination. -/
def toValue : Destination → Value
  | url s => .node "Url" [("url", .str s)]
  | reference s => .node "Reference" [("name", .str s)]
  | foreign v => v

/-- The destination that a node stands for. -/
def ofValue : Value → Destination
  | .node "Url" [("url", .str s)] => url s
  | .node "Reference" [("name", .str s)] => reference s
  | v => foreign v

end Destination

namespace Level

/-- The level that a value stands for. -/
def ofValue : Value → Level
  | .int n => number n
  | v => foreign v

end Level

mutual

/-- The node of an inline. -/
def Inline.toValue : Inline → Value
  | .text s => .node "Text" [("text", .str s)]
  | .emphasis inline => .node "Emphasis" [("inline", .list (Inline.toValues inline))]
  | .strong inline => .node "Strong" [("inline", .list (Inline.toValues inline))]
  | .code s => .node "Code" [("text", .str s)]
  | .link inline destination =>
    .node "Link" [("inline", .list (Inline.toValues inline)), ("destination", destination.toValue)]
  | .image inline destination =>
    .node "Image" [("inline", .list (Inline.toValues inline)), ("destination", destination.toValue)]
  | .footnote reference => .node "Footnote" [("reference", .str reference)]
  | .linebreak => .node "Linebreak" []
  | .mathInline latex => .node "MathInline" [("latex", .str latex)]
  | .mathDisplay latex => .node "MathDisplay" [("latex", .str latex)]
  | .nonBreakingSpace => .node "NonBreakingSpace" []
  | .foreign value | .misfit value => value

/-- The nodes of a list of inlines. -/
def Inline.toValues : List Inline → List Value
  | [] => []
  | i :: rest => Inline.toValue i :: Inline.toValues rest

end

/-- The inlines that stand for a value in the place of a list of them. -/
def Inline.ofPlain (v : Value) : List Inline :=
  match v.elements? with
  | some vs => vs.map .foreign
  | none => [.misfit v]

mutual

/-- The inline that a node stands for. -/
def Inline.ofValue : Value → Inline
  | .node "Text" [("text", .str s)] => .text s
  | .node "Emphasis" [("inline", is)] => .emphasis (Inline.ofField is)
  | .node "Strong" [("inline", is)] => .strong (Inline.ofField is)
  | .node "Code" [("text", .str s)] => .code s
  | .node "Link" [("inline", is), ("destination", d)] => .link (Inline.ofField is) (.ofValue d)
  | .node "Image" [("inline", is), ("destination", d)] => .image (Inline.ofField is) (.ofValue d)
  | .node "Footnote" [("reference", .str s)] => .footnote s
  | .node "Linebreak" [] => .linebreak
  | .node "MathInline" [("latex", .str s)] => .mathInline s
  | .node "MathDisplay" [("latex", .str s)] => .mathDisplay s
  | .node "NonBreakingSpace" [] => .nonBreakingSpace
  | v => .foreign v

/-- The inlines that nodes stand for. -/
def Inline.ofValues : List Value → List Inline
  | [] => []
  | v :: rest => Inline.ofValue v :: Inline.ofValues rest

/-- The inlines that a field for a list of them gives. -/
def Inline.ofField : Value → List Inline
  | .list items | .tuple items | .set items => Inline.ofValues items
  | v => Inline.ofPlain v

end

/-- The value of an optional string. -/
def Value.ofOption : Option String → Value
  | none => .null
  | some s => .str s

mutual

/-- The node of a block. -/
def Block.toValue : Block → Value
  | .paragraph inline => .node "Paragraph" [("inline", .list (Inline.toValues inline))]
  | .heading level inline =>
    .node "Heading" [("level", level.toValue), ("inline", .list (Inline.toValues inline))]
  | .bulletList items => .node "BulletList" [("items", .list (Block.toItems items))]
  | .codeBlock language content =>
    .node "CodeBlock" [("language", .ofOption language), ("content", .str content)]
  | .blockQuote blocks => .node "BlockQuote" [("blocks", .list (Block.toValues blocks))]
  | .rawBlock content => .node "RawBlock" [("content", .str content)]
  | .thematicBreak => .node "ThematicBreak" []
  | .foreign value | .misfit value => value

/-- The nodes of a list of blocks. -/
def Block.toValues : List Block → List Value
  | [] => []
  | b :: rest => Block.toValue b :: Block.toValues rest

/-- The lists of nodes of list items. -/
def Block.toItems : List (List Block) → List Value
  | [] => []
  | item :: rest => .list (Block.toValues item) :: Block.toItems rest

end

/-- The blocks that stand for a value in the place of a list of them. -/
def Block.ofPlain (v : Value) : List Block :=
  match v.elements? with
  | some vs => vs.map .foreign
  | none => [.misfit v]

mutual

/-- The block that a node stands for. -/
def Block.ofValue : Value → Block
  | .node "Paragraph" [("inline", is)] => .paragraph (Inline.ofField is)
  | .node "Heading" [("level", level), ("inline", is)] =>
    .heading (.ofValue level) (Inline.ofField is)
  | .node "BulletList" [("items", vs)] => .bulletList (Block.ofItemField vs)
  | .node "CodeBlock" [("language", .null), ("content", .str s)] => .codeBlock none s
  | .node "CodeBlock" [("language", .str l), ("content", .str s)] => .codeBlock (some l) s
  | .node "BlockQuote" [("blocks", bs)] => .blockQuote (Block.ofField bs)
  | .node "RawBlock" [("content", .str s)] => .rawBlock s
  | .node "ThematicBreak" [] => .thematicBreak
  | v => .foreign v

/-- The blocks that nodes stand for. -/
def Block.ofValues : List Value → List Block
  | [] => []
  | v :: rest => Block.ofValue v :: Block.ofValues rest

/-- The blocks that a field for a list of them gives. -/
def Block.ofField : Value → List Block
  | .list items | .tuple items | .set items => Block.ofValues items
  | v => Block.ofPlain v

/-- The list items that values stand for. -/
def Block.ofItems : List Value → List (List Block)
  | [] => []
  | v :: rest => Block.ofField v :: Block.ofItems rest

/-- The list items that a field for them gives. -/
def Block.ofItemField : Value → List (List Block)
  | .list items | .tuple items | .set items => Block.ofItems items
  | v =>
    match v.elements? with
    | some vs => vs.map Block.ofPlain
    | none => [[.misfit v]]

end

namespace Document

/-- The node of a document. -/
def toValue (d : Document) : Value := .node "Document" [("blocks", .list (Block.toValues d.blocks))]

/-- The data form of a document. -/
def tagged (d : Document) : Value := d.toValue.tagged

/-- The document that a node stands for: any node with a list of blocks. -/
def ofValue? : Value → Option Document
  | .node _ fields =>
    match Value.field "blocks" fields with
    | some (.list items) => some ⟨Block.ofValues items⟩
    | _ => none
  | _ => none

/-- Reads a document back from its data form. -/
def ofTagged? (v : Value) : Option Document := ofValue? v.ofTagged

end Document

namespace Code

/-- An attribute list as data. -/
def attributesToValue (attributes : List (String × String)) : Value :=
  .list (attributes.map fun a => .tuple [.str a.1, .str a.2])

/-- Reads an attribute. -/
def attributeOfValue? : Value → Option (String × String)
  | .tuple [.str k, .str v] => some (k, v)
  | _ => none

/-- Reads an attribute list. -/
def attributesOfValues? (items : List Value) : Option (List (String × String)) :=
  items.mapM attributeOfValue?

mutual

/-- The node of a call. -/
def toValue : Code → Value
  | element tag attributes children =>
    .node "Element" [("tag", .str tag), ("attributes", attributesToValue attributes),
      ("children", .list (toValues children))]
  | selfClosing tag attributes =>
    .node "SelfClosingElement" [("tag", .str tag), ("attributes", attributesToValue attributes)]
  | rawHtml space tag attributes content =>
    .node "RawHtmlNode" [("namespace", .str space), ("tag", .str tag),
      ("attributes", attributesToValue attributes), ("content", .str content)]
  | text content => .node "TextNode" [("content", .str content)]

/-- The nodes of a list of calls. -/
def toValues : List Code → List Value
  | [] => []
  | c :: rest => toValue c :: toValues rest

end

mutual

/-- The call that a node stands for, or the first value within it that is no call. -/
def ofValue : Value → Except Value Code
  | .node "Element" [("tag", .str tag), ("attributes", .list attributes),
      ("children", .list children)] => do
    let children ← ofValues children
    match attributesOfValues? attributes with
    | some attributes => return element tag attributes children
    | none => .error (.list attributes)
  | .node "SelfClosingElement" [("tag", .str tag), ("attributes", .list attributes)] =>
    match attributesOfValues? attributes with
    | some attributes => .ok (selfClosing tag attributes)
    | none => .error (.list attributes)
  | .node "RawHtmlNode" [("namespace", .str space), ("tag", .str tag),
      ("attributes", .list attributes), ("content", .str content)] =>
    match attributesOfValues? attributes with
    | some attributes => .ok (rawHtml space tag attributes content)
    | none => .error (.list attributes)
  | .node "TextNode" [("content", .str content)] => .ok (text content)
  | v => .error v

/-- The calls that nodes stand for, or the first value within them that is no call. -/
def ofValues : List Value → Except Value (List Code)
  | [] => .ok []
  | v :: rest => do
    let c ← ofValue v
    let cs ← ofValues rest
    return c :: cs

end

end Code

end ElementCode
