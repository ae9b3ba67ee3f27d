import ElementCode.Code
import ElementCode.Document
import ElementCode.Value.Display

/-!
# Documents as element construction code

Every block and inline that the element constructors can express becomes a constructor call.  The
first one that they cannot express, in reading order, rejects the whole document: block quotes,
footnotes, line breaks, math, non-breaking spaces, links and images that do not point to a URL,
and foreign values.  The alternative text of an image and the language of a code block leave no
trace.

The level of a heading is written into its tag, whatever it is.  A number with too many digits
cannot be written, and the mapping ends there with an error that is no rejection; so it does at a
value in the place of a list that cannot be gone through.
-/

namespace ElementCode

/-- A construct that the element constructors cannot express. -/
structure Rejection where
  /-- The kind of the construct. -/
  construct : String
  /-- What about it cannot be expressed, when it is not the whole of it. -/
  detail : Option String
  deriving DecidableEq, Repr

/-- The message for a rejected construct; an empty detail is left out. -/
def Rejection.message (r : Rejection) : String :=
  "Unsupported construct: " ++ r.construct ++
    match r.detail with
    | none => ""
    | some detail => if detail.isEmpty then "" else " (" ++ detail ++ ")"

/-- The rejection of a link or an image that does not point to a URL. -/
def Rejection.ofDestination (construct : String) : Rejection :=
  ⟨construct, some "reference destination"⟩

/-- Why a document has no code. -/
inductive MappingError where
  /-- It holds a construct that cannot be expressed. -/
  | rejected (r : Rejection)
  /-- The level of a heading holds a number that is too long to be written. -/
  | longLevel
  /-- A value in the place of a list cannot be gone through; it is of this class. -/
  | notIterable (className : String)
  deriving DecidableEq, Repr

/-- The text of an error. -/
def MappingError.message : MappingError → String
  | rejected r => r.message
  | longLevel => Display.digitLimitText none
  | notIterable className => "'" ++ className ++ "' object is not iterable"

/-- The rejection of a whole construct. -/
def MappingError.unsupported (construct : String) : MappingError := .rejected ⟨construct, none⟩

/-- A level as it is written. -/
def Level.text (level : Level) : Except MappingError String :=
  if level.toValue.isShowable then .ok level.toValue.text else .error .longLevel

mutual

/-- The constructor call for an inline. -/
def Inline.toCode : Inline → Except MappingError Code
  | .text s => .ok (.text s)
  | .code s => .ok (.element "code" [] [.text s])
  | .emphasis inline => do return .element "em" [] (← Inline.toCodeAll inline)
  | .strong inline => do return .element "strong" [] (← Inline.toCodeAll inline)
  | .link inline destination =>
    match destination with
    | .url url => do return .element "a" [("href", url)] (← Inline.toCodeAll inline)
    | _ => .error (.rejected (.ofDestination "Link"))
  | .image _ destination =>
    match destination with
    | .url url => .ok (.selfClosing "img" [("src", url)])
    | _ => .error (.rejected (.ofDestination "Image"))
  | .footnote reference => .error (.unsupported (Inline.footnote reference).kind)
  | .linebreak => .error (.unsupported Inline.linebreak.kind)
  | .mathInline latex => .error (.unsupported (Inline.mathInline latex).kind)
  | .mathDisplay latex => .error (.unsupported (Inline.mathDisplay latex).kind)
  | .nonBreakingSpace => .error (.unsupported Inline.nonBreakingSpace.kind)
  | .foreign value => .error (.unsupported (Inline.foreign value).kind)
  | .misfit value => .error (.notIterable value.className)

/-- The constructor calls for a list of inlines. -/
def Inline.toCodeAll : List Inline → Except MappingError (List Code)
  | [] => .ok []
  | i :: rest => do
    let c ← Inline.toCode i
    let cs ← Inline.toCodeAll rest
    return c :: cs

end

mutual

/-- The constructor call for a block. -/
def Block.toCode : Block → Except MappingError Code
  | .paragraph inline => do return .element "p" [] (← Inline.toCodeAll inline)
  | .heading level inline => do
    let level ← level.text
    return .element ("h" ++ level) [] (← Inline.toCodeAll inline)
  | .bulletList items => do return .element "ul" [] (← Block.toCodeItems items)
  | .codeBlock _ content =>
    .ok (.element "pre" [] [.text (String.ofList (Literal.doubled content.toList))])
  | .thematicBreak => .ok (.selfClosing "hr" [])
  | .rawBlock content => .ok (.rawHtml "html" "div" [] content)
  | .blockQuote blocks => .error (.unsupported (Block.blockQuote blocks).kind)
  | .foreign value => .error (.unsupported (Block.foreign value).kind)
  | .misfit value => .error (.notIterable value.className)

/-- The constructor calls for a list of blocks. -/
def Block.toCodeAll : List Block → Except MappingError (List Code)
  | [] => .ok []
  | b :: rest => do
    let c ← Block.toCode b
    let cs ← Block.toCodeAll rest
    return c :: cs

/-- The constructor calls for the items of a list, one `li` element each. -/
def Block.toCodeItems : List (List Block) → Except MappingError (List Code)
  | [] => .ok []
  | item :: rest => do
    let children ← Block.toCodeAll item
    let cs ← Block.toCodeItems rest
    return .element "li" [] children :: cs

end

namespace Document

/-- The constructor calls for a document. -/
def toCode (d : Document) : Except MappingError (List Code) := Block.toCodeAll d.blocks

/-- The code for a document. -/
def printCode (d : Document) (mode : PrefixMode) : Except MappingError String := do
  return Code.printAll mode (← d.toCode)

end Document

end ElementCode
