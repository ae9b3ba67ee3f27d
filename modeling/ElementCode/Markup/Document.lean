import ElementCode.Document.Elements
import ElementCode.Markup.Token
import ElementCode.Text.Blank
import ElementCode.Text.Digit
import ElementCode.Value.Display

/-!
# Documents from token streams

A document is built from a token stream by two loops, one over block tokens and one over the
children of an inline token.  A loop runs until a token that stops it or the end of the stream and
reports how many tokens it has stepped over.  Streams need not be well nested: a missing closer
counts as one token that was stepped over beyond the end, unknown tokens and stray closers are
skipped, and the definitions of footnotes are skipped up to their closer.
-/

namespace ElementCode.Markup

/-- Why a token stream has no document. -/
inductive BuildError where
  /-- The stream holds a construct that documents cannot express. -/
  | rejected (r : Rejection)
  /-- A heading or paragraph is not followed by a token. -/
  | missingToken
  /-- The tag of a heading has less than two characters. -/
  | shortTag
  /-- The second character of a heading's tag is no digit. -/
  | badLevel (c : Char)
  deriving DecidableEq, Repr

/-- The message for a token stream without a document. -/
def BuildError.message : BuildError → String
  | rejected r => r.message
  | missingToken => "list index out of range"
  | shortTag => "string index out of range"
  | badLevel c =>
    "invalid literal for int() with base 10: " ++ Display.string (String.ofList [c])

/-- The level that a heading's tag names: the digit in second place. -/
def headingLevel (tag : String) : Except BuildError Int :=
  match tag.toList with
  | _ :: c :: _ =>
    match Text.digitValue? c with
    | some n => .ok n
    | none => .error (.badLevel c)
  | _ => .error .shortTag

/-- The non-breaking space. -/
def nbsp : Char := '\u00a0'

/-- A piece of text between non-breaking spaces; an empty piece leaves nothing. -/
def textPiece (cs : List Char) : List Inline :=
  if cs.isEmpty then [] else [.text (String.ofList cs)]

/-- Text with its non-breaking spaces set apart. -/
def textInlines (content : String) : List Inline :=
  match Text.splitAtChar nbsp content.toList with
  | [] => []
  | piece :: rest => textPiece piece ++ rest.flatMap fun p => .nonBreakingSpace :: textPiece p

/-- The language of a code block: the first word of its info string. -/
def firstWord (info : String) : Option String :=
  (Text.words info.toList).head?.map String.ofList

/-- How many tokens stand before the first one of a kind. -/
def countBefore (kind : Kind) : List Token → Nat
  | [] => 0
  | t :: rest => if t.kind = kind then 0 else countBefore kind rest + 1

theorem sizeOf_drop_le (n : Nat) (ts : List Token) : sizeOf (ts.drop n) ≤ sizeOf ts := by
  induction ts generalizing n with
  | nil => simp
  | cons t rest ih =>
    cases n with
    | zero => simp
    | succ n => simp only [List.drop_succ_cons, List.cons.sizeOf_spec]; have := ih n; omega

theorem Token.sizeOf_children_lt (t : Token) : sizeOf t.children < sizeOf t := by
  cases t; simp only [Token.mk.sizeOf_spec]; omega

theorem Token.sizeOf_pos (t : Token) : 0 < sizeOf t := by
  have := t.sizeOf_children_lt; omega

mutual

/-- The inlines of a stream up to a token of kind `stop`, and how many tokens they take. -/
def inlines (stop : Option Kind) (ts : List Token) : Except BuildError (List Inline × Nat) :=
  match ts with
  | [] => .ok ([], 0)
  | t :: rest =>
    if some t.kind = stop then .ok ([], 0)
    else do
      let (found, used) ← inlinesAt t rest
      let (more, n) ← inlines stop (rest.drop used)
      return (found ++ more, used + 1 + n)
termination_by (sizeOf ts, 1)
decreasing_by
  · simp; omega
  · simp only [List.cons.sizeOf_spec]
    have := sizeOf_drop_le used rest
    left; omega

/-- The inlines that start with the token `t`, and how many of the tokens after it they take. -/
def inlinesAt (t : Token) (rest : List Token) : Except BuildError (List Inline × Nat) :=
  match t.kind with
  | .text | .textSpecial => .ok (textInlines t.content, 0)
  | .softbreak => .ok ([.text " "], 0)
  | .hardbreak => .ok ([.linebreak], 0)
  | .emOpen => do
    let (inner, n) ← inlines (some .emClose) rest
    return ([.emphasis inner], n + 1)
  | .strongOpen => do
    let (inner, n) ← inlines (some .strongClose) rest
    return ([.strong inner], n + 1)
  | .codeInline => .ok ([.code t.content], 0)
  | .linkOpen => do
    let (inner, n) ← inlines (some .linkClose) rest
    return ([.link inner (.url (t.attrValue "href").text)], n + 1)
  | .image => do
    let (alt, _) ← inlines none t.children
    return ([.image alt (.url (t.attrValue "src").text)], 0)
  | .mathInline => .ok ([.mathInline t.content], 0)
  | .mathInlineDouble => .ok ([.mathDisplay t.content], 0)
  | .footnoteRef => .ok ([.footnote t.footnoteName.text], 0)
  | .htmlInline => .error (.rejected ⟨"RawInline", some t.content⟩)
  | _ => .ok ([], 0)
termination_by (sizeOf t + sizeOf rest, 0)
decreasing_by
  · left; have := t.sizeOf_pos; omega
  · left; have := t.sizeOf_pos; omega
  · left; have := t.sizeOf_pos; omega
  · left; have := t.sizeOf_children_lt; omega

end

/-- The inlines of the running text that follows the opening token of a heading or paragraph. -/
def runningText : List Token → Except BuildError (List Inline)
  | [] => .error .missingToken
  | t :: _ => do
    let (inner, _) ← inlines none t.children
    return inner

mutual

/-- The blocks of a stream up to a token of a kind in `stop`, and how many tokens they take. -/
def blocks (stop : List Kind) (ts : List Token) : Except BuildError (List Block × Nat) :=
  match ts with
  | [] => .ok ([], 0)
  | t :: rest =>
    if t.kind ∈ stop then .ok ([], 0)
    else do
      let (found, used) ← blocksAt t rest
      let (more, n) ← blocks stop (rest.drop used)
      return (found ++ more, used + 1 + n)
termination_by (ts.length, 1)

/-- The blocks that start with the token `t`, and how many of the tokens after it they take. -/
def blocksAt (t : Token) (rest : List Token) : Except BuildError (List Block × Nat) :=
  match t.kind with
  | .headingOpen => do
    let level ← headingLevel t.tag
    let inner ← runningText rest
    return ([.heading (.number level) inner], 2)
  | .paragraphOpen => do
    let inner ← runningText rest
    return ([.paragraph inner], 2)
  | .bulletListOpen => do
    let (items, n) ← listItems rest
    return ([.bulletList items], n + 1)
  | .orderedListOpen => .error (.rejected ⟨"OrderedList", none⟩)
  | .blockquoteOpen => do
    let (quoted, n) ← blocks [.blockquoteClose] rest
    return ([.blockQuote quoted], n + 1)
  | .fence | .codeBlock => .ok ([.codeBlock (firstWord t.info) t.content], 0)
  | .htmlBlock => .ok ([.rawBlock t.content], 0)
  | .thematicBreak => .ok ([.thematicBreak], 0)
  | .mathBlock | .mathBlockNumbered =>
    .ok ([.paragraph [.mathDisplay (Text.strip t.content)]], 0)
  | .footnoteBlockOpen => .ok ([], countBefore .footnoteBlockClose rest + 1)
  | .footnoteReferenceOpen => .ok ([], countBefore .footnoteReferenceClose rest + 1)
  | _ => .ok ([], 0)
termination_by (rest.length + 1, 0)

/-- The items of a bullet list up to its closer, and how many tokens they take. -/
def listItems (ts : List Token) : Except BuildError (List (List Block) × Nat) :=
  match ts with
  | [] => .ok ([], 0)
  | t :: rest =>
    match t.kind with
    | .bulletListClose => .ok ([], 0)
    | .listItemOpen => do
      let (item, n) ← blocks [.listItemClose] rest
      let (more, m) ← listItems (rest.drop (n + 1))
      return (item :: more, n + 2 + m)
    | _ => do
      let (more, m) ← listItems rest
      return (more, m + 1)
termination_by (ts.length, 1)

end

/-- The document of a token stream. -/
def document (ts : List Token) : Except BuildError Document := do
  let (found, _) ← blocks [] ts
  return ⟨found⟩

end ElementCode.Markup
