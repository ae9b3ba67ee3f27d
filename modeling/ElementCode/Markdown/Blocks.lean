import ElementCode.Markdown.Definition
import ElementCode.Markdown.Leaf

/-!
# Block structure

The lines of a source text become a stream of block tokens, and the definitions met on the way are
collected.  Block quotes, list items and footnotes are containers: they give their content a scope
of its own, in which the same rules apply, down to a fixed depth.

A block is found by trying the kinds of blocks in a fixed order at the first line that is not
empty; a paragraph is what is left.  A paragraph runs on until an empty line or a line that starts
a block which may interrupt it.
-/

namespace ElementCode.Markdown

open Markup (Token Kind)

/-- The depth at which containers are no longer looked into. -/
def maxNesting : Nat := 20

/-- What a run of lines gives. -/
structure Parsed where
  /-- The tokens. -/
  tokens : Array Token
  /-- The line after the blocks. -/
  next : Nat
  /-- What has been defined so far. -/
  defs : Definitions
  /-- Whether no empty line stands between two blocks. -/
  tight : Bool := true
  /-- Whether the source ended within the indentation of raw HTML. -/
  cutShort : Bool := false

/-- The parser for the content of a container: the lines from one to before another. -/
abbrev Nested := Scope → Nat → Nat → Definitions → Parsed

/-! ## List markers -/

/-- The marker of a list item. -/
structure Marker where
  /-- The number, for an ordered list. -/
  number : Option Nat
  /-- The character that tells lists apart. -/
  mark : Char
  /-- How many characters the marker has. -/
  length : Nat

/-- Whether a marker may end before `rest`. -/
def endsMarker (rest : List Char) : Bool := rest.head?.all isSpace

/-- The marker of an ordered list: up to nine digits and a dot or parenthesis. -/
def orderedMarker? (text : List Char) : Option Marker :=
  let digits := text.takeWhile isDigit
  match text.drop digits.length with
  | c :: rest =>
    if !digits.isEmpty && digits.length ≤ 9 && (c == '.' || c == ')') && endsMarker rest then
      some ⟨some (decimalNat digits), c, digits.length + 1⟩
    else none
  | [] => none

/-- The marker of a bullet list. -/
def bulletMarker? (text : List Char) : Option Marker :=
  match text with
  | c :: rest =>
    if (c == '*' || c == '-' || c == '+') && endsMarker rest then some ⟨none, c, 1⟩ else none
  | [] => none

/-- The marker of a list item at the start of a text. -/
def marker? (text : List Char) : Option Marker :=
  match orderedMarker? text with
  | some m => some m
  | none => bulletMarker? text

/-- The marker of a list that starts at a line.  A list that interrupts a paragraph starts with
the number one and with an item that is not empty. -/
def listStart? (s : Scope) (interrupting : Bool) (n : Nat) : Option Marker :=
  let l := s.line n
  if s.isCode n then none
  else if 0 ≤ s.listIndent && 4 ≤ l.indent - s.listIndent && l.indent < s.indent then none
  else
    let text := s.text n
    (marker? text).filter fun m =>
      !(interrupting && s.indent ≤ l.indent &&
        ((m.number.any (· != 1)) || (text.drop m.length).all isSpace))

/-! ## What ends a paragraph -/

/-- Whether a line starts a block quote. -/
def quoteStart (s : Scope) (n : Nat) : Bool := !s.isCode n && s.firstChar? n == some '>'

/-- Whether a line starts a footnote. -/
def footnoteStart? (s : Scope) (n : Nat) : Option (List Char × Nat) :=
  if s.isCode n then none else footnoteLabel? (s.text n)

/-- Whether a line ends a list: a fence, a block quote or a thematic break. -/
def endsList (s : Scope) (n : Nat) : Bool :=
  (fence? s n).isSome || quoteStart s n || isBreak s n

/-- Whether a line ends a block quote that it does not continue. -/
def endsQuote (s : Scope) (n : Nat) : Bool :=
  endsList s n || (listStart? s false n).isSome || (htmlStart? s n).any HtmlBlock.interrupts ||
    (heading? s n).isSome

/-- Whether a line ends a link reference definition. -/
def endsDefinition (s : Scope) (n : Nat) : Bool :=
  endsQuote s n || (footnoteStart? s n).isSome

/-- Whether a line ends a paragraph. -/
def endsParagraph (s : Scope) (n : Nat) : Bool :=
  endsList s n || (listStart? s true n).isSome || (footnoteStart? s n).isSome ||
    (htmlStart? s n).any HtmlBlock.interrupts || (heading? s n).isSome

/-- Whether a line continues a paragraph whatever it holds: it is indented like code, or stands
outside the block quote of the paragraph. -/
def isContinuation (s : Scope) (n : Nat) : Bool := s.isCode n || (s.line n).indent < 0

/-! ## Paragraphs -/

/-- The line after a paragraph of which the lines before `n` are part. -/
def paragraphEnd (s : Scope) (n : Nat) : Nat :=
  if n < s.limit then
    if s.isEmpty n then n
    else if isContinuation s n || !endsParagraph s n then paragraphEnd s (n + 1)
    else n
  else n
termination_by s.limit - n

/-- The paragraph that starts at a line. -/
def paragraph (s : Scope) (n : Nat) : Leaf :=
  let next := paragraphEnd s (n + 1)
  let text := Text.trimBy Text.isGap (s.textOf n next s.indent false)
  (textBlock .paragraphOpen .paragraphClose "p" text, next)

/-- The line that underlines the paragraph of which the lines before `n` are part, and the level
it gives. -/
def underlineEnd? (s : Scope) (stop n : Nat) : Option (Nat × Nat) :=
  if n < stop then
    if s.isEmpty n then none
    else if s.isCode n then underlineEnd? s stop (n + 1)
    else
      match underline? s n with
      | some level => some (n, level)
      | none =>
        if isContinuation s n || !endsParagraph s n then underlineEnd? s stop (n + 1) else none
  else none
termination_by stop - n

/-- A heading that is underlined. -/
def underlinedHeading? (s : Scope) (n stop : Nat) : Option Leaf :=
  if s.isCode n then none
  else
    (underlineEnd? s stop (n + 1)).map fun (last, level) =>
      (textBlock .headingOpen .headingClose ("h" ++ toString level)
        (Text.trimBy Text.isGap (s.textOf n last s.indent false)), last + 1)

/-! ## Link reference definitions -/

/-- The lines from `n` on that may continue a definition, each with its line ending. -/
def continuations (s : Scope) (n : Nat) : List (List Char) :=
  if n < s.limit then
    if s.isEmpty n then []
    else if isContinuation s n || !endsDefinition s n then
      let l := s.line n
      s.src.slice l.first (l.stop + 1) :: continuations s (n + 1)
    else []
  else []
termination_by s.limit - n

/-- A link reference definition: what is defined then, and the line after it. -/
def definition? (s : Scope) (n : Nat) (defs : Definitions) : Option (Definitions × Nat) :=
  if s.isCode n || s.firstChar? n != some '[' then none
  else
    let l := s.line n
    let more := continuations s (n + 1)
    (linkDefinition? (s.src.slice l.first (l.stop + 1)) more).map fun d =>
      (defs.addLink d.label d.target, n + 1 + (more.length - d.unread))

/-! ## Block quotes -/

/-- Skips blanks from position `pos` at column `column`: the position and column reached. -/
def skipColumns (src : Source) (base stop pos column : Nat) : Nat × Nat :=
  if pos < stop then
    match src[pos]? with
    | some c =>
      if c == '\t' then skipColumns src base stop (pos + 1) (column + (4 - (column + base) % 4))
      else if c == ' ' then skipColumns src base stop (pos + 1) (column + 1)
      else (pos, column)
    | none => (pos, column)
  else (pos, column)
termination_by stop - pos

/-- A quoted line as the content of the quote sees it: the mark and one blank after it are
skipped. -/
def quotedLine (src : Source) (l : Line) : Line :=
  let pos := l.first + 1
  let column := l.indent.toNat + 1
  let tab := src[pos]? == some '\t'
  let wide := tab && (l.base + column) % 4 != 3
  let blank := tab || src[pos]? == some ' '
  let start := if blank && !wide then pos + 1 else pos
  let initial := if blank && !wide then column + 1 else column
  let (first, reached) := skipColumns src (l.base + if wide then 1 else 0) l.stop start initial
  { start, stop := l.stop, shift := first - start, indent := reached - initial,
    base := column + if blank then 1 else 0 }

/-- Goes over the lines after the first of a block quote from line `n` on; `lastEmpty` says that
the last quoted line was empty.  Gives the scope of the content and the line after the quote. -/
def quoteLines (s : Scope) (stop n : Nat) (lastEmpty : Bool) (inner : Scope) : Scope × Nat :=
  if n < stop then
    let l := s.line n
    if l.isEmpty then (inner, n)
    else if s.indent ≤ l.indent && s.firstChar? n == some '>' then
      let q := quotedLine s.src l
      quoteLines s stop (n + 1) q.isEmpty (inner.setLine n q)
    else if lastEmpty then (inner, n)
    else if endsQuote s n then
      ({ inner.setLine n { l with indent := l.indent - s.indent } with limit := n }, n)
    else quoteLines s stop (n + 1) false (inner.setLine n { l with indent := -1 })
  else (inner, n)
termination_by stop - n

/-- A block quote. -/
def blockQuote? (nested : Nested) (s : Scope) (n stop : Nat) (defs : Definitions) :
    Option Parsed :=
  if quoteStart s n then
    let q := quotedLine s.src (s.line n)
    let (inner, last) := quoteLines s stop (n + 1) q.isEmpty (s.setLine n q)
    let r := nested { inner with indent := 0, level := s.level + 1 } n last defs
    some { r with
      tokens := #[{ kind := .blockquoteOpen, tag := "blockquote" }] ++ r.tokens ++
        #[{ kind := .blockquoteClose, tag := "blockquote" }] }
  else none

/-! ## Lists -/

/-- Leaves out the paragraph elements of a list item, those of nested containers excepted;
`depth` counts the containers around a token. -/
def hideParagraphs (depth : Int) : List Token → List Token
  | [] => []
  | t :: rest =>
    match t.kind with
    | .paragraphOpen | .paragraphClose =>
      (if depth == 0 then { t with hidden := true } else t) :: hideParagraphs depth rest
    | .bulletListOpen | .orderedListOpen | .listItemOpen | .blockquoteOpen
    | .footnoteReferenceOpen => t :: hideParagraphs (depth + 1) rest
    | .bulletListClose | .orderedListClose | .listItemClose | .blockquoteClose
    | .footnoteReferenceClose => t :: hideParagraphs (depth - 1) rest
    | _ => t :: hideParagraphs depth rest

/-- The content of the list item with marker `m` at line `n`. -/
def listItem (nested : Nested) (s : Scope) (stop n : Nat) (m : Marker) (defs : Definitions) :
    Parsed :=
  let l := s.line n
  let after := l.first + m.length
  let initial := l.indent.toNat + m.length
  let (first, column) := skipColumns s.src l.base l.stop after initial
  let gap := if l.stop ≤ first then 1 else column - initial
  let indent := initial + if 4 < gap then 1 else gap
  let inner := { s.setLine n { l with shift := first - l.start, indent := column } with
    indent, listIndent := s.indent, level := s.level + 2 }
  if l.stop ≤ first && s.isEmpty (n + 1) then { tokens := #[], next := min (n + 2) stop, defs }
  else nested inner n stop defs

/-- The items of a list with marker `m` from line `n` on, at most `fuel` of them.  `endsEmpty`
says that the item before ended with an empty line. -/
def listItems (nested : Nested) (s : Scope) (stop : Nat) :
    Nat → Nat → Marker → Bool → Definitions → List (Array Token) × Parsed
  | 0, n, _, _, defs => ([], { tokens := #[], next := n, defs })
  | fuel + 1, n, m, endsEmpty, defs =>
    let r := listItem nested s stop n m defs
    let tight := r.tight && !endsEmpty
    let next := r.next
    let endsEmpty := 1 < next - n && s.isEmpty (next - 1)
    let following := if next < stop && s.indent ≤ (s.line next).indent && !s.isCode next &&
        !endsList s next then
      let text := s.text next
      (if m.number.isSome then orderedMarker? text else bulletMarker? text).filter
        (·.mark == m.mark)
      else none
    match following with
    | some m =>
      let (items, last) := listItems nested s stop fuel next m endsEmpty r.defs
      (r.tokens :: items,
        { last with tight := last.tight && tight, cutShort := last.cutShort || r.cutShort })
    | none => ([r.tokens], { r with tokens := #[], tight })

/-- A list. -/
def list? (nested : Nested) (s : Scope) (n stop : Nat) (defs : Definitions) : Option Parsed :=
  (listStart? s false n).map fun m =>
    let (items, r) := listItems nested s stop (stop - n) n m false defs
    let tokens := items.flatMap fun item =>
      [({ kind := .listItemOpen, tag := "li" } : Token)] ++
        (if r.tight then hideParagraphs 0 item.toList else item.toList) ++
        [{ kind := .listItemClose, tag := "li" }]
    let (opening, closing) : Token × Token := match m.number with
      | some number =>
        ({ kind := .orderedListOpen, tag := "ol",
           attrs := if number == 1 then [] else [("start", .int number)] },
          { kind := .orderedListClose, tag := "ol" })
      | none =>
        ({ kind := .bulletListOpen, tag := "ul" }, { kind := .bulletListClose, tag := "ul" })
    { r with tokens := (opening :: tokens ++ [closing]).toArray }

/-! ## Footnotes -/

/-- A footnote. -/
def footnote? (nested : Nested) (s : Scope) (n stop : Nat) (defs : Definitions) :
    Option Parsed :=
  (footnoteStart? s n).map fun (label, length) =>
    let name := String.ofList label
    let l := s.line n
    let start := l.first + length
    let initial := l.indent.toNat + length
    let (first, column) := skipColumns s.src 0 l.stop start initial
    let indent := s.indent + 4
    let own : Int := column - initial
    let line := { l with
      start, shift := first - start, indent := if own < indent then own + indent else own }
    let inner := { s.setLine n line with indent, level := s.level + 1 }
    let r := nested inner n stop (defs.addNote name)
    { r with
      tokens := #[{ kind := .footnoteReferenceOpen, data := [("label", .str name)] }] ++
        r.tokens ++ #[{ kind := .footnoteReferenceClose }] }

/-! ## The loop over blocks -/

/-- A leaf block as the result of a rule. -/
def ofLeaf (defs : Definitions) (leaf : Leaf) : Parsed :=
  { tokens := leaf.1.toArray, next := leaf.2, defs }

/-- The block at a line that is not empty. -/
def block (nested : Nested) (s : Scope) (n stop : Nat) (defs : Definitions) : Parsed :=
  let leaf := ofLeaf defs
  ((codeBlock? s n stop).map leaf)
    |>.or ((mathBlock? s n stop).map leaf)
    |>.or ((fencedCode? s n stop).map leaf)
    |>.or (blockQuote? nested s n stop defs)
    |>.or ((thematicBreak? s n).map leaf)
    |>.or (list? nested s n stop defs)
    |>.or (footnote? nested s n stop defs)
    |>.or ((definition? s n defs).map fun (defs, next) => { tokens := #[], next, defs })
    |>.or ((htmlBlock? s n stop).map fun (l, cutShort) => { leaf l with cutShort })
    |>.or ((numberedHeading? s n).map leaf)
    |>.or ((underlinedHeading? s n stop).map leaf)
    |>.getD (leaf (paragraph s n))

/-- The blocks from line `n` on, at most `fuel` of them, after those in `done`; `hasEmpty` says
that an empty line has been passed after a block. -/
def blocksFrom (nested : Nested) (s : Scope) (stop : Nat) :
    Nat → Nat → Bool → Parsed → Parsed
  | 0, _, _, done => done
  | fuel + 1, n, hasEmpty, done =>
    if n < stop then
      let n := s.skipEmpty n
      let done := { done with next := n }
      if stop ≤ n then done
      else if (s.line n).indent < s.indent then done
      else if maxNesting ≤ s.level then { done with next := stop }
      else
        let r := block nested s n stop done.defs
        let next := r.next
        let done :=
          { tokens := done.tokens ++ r.tokens, next, defs := r.defs, tight := !hasEmpty
            cutShort := done.cutShort || r.cutShort }
        let hasEmpty := hasEmpty || (next - 1 < stop && s.isEmpty (next - 1))
        if next < stop && s.isEmpty next then
          blocksFrom nested s stop fuel (next + 1) true { done with next := next + 1 }
        else blocksFrom nested s stop fuel next hasEmpty done
    else done

/-- The blocks of a container, looking into containers `depth` levels deep. -/
def blocksWithin : Nat → Nested
  | 0 => fun _ _ stop defs => { tokens := #[], next := stop, defs }
  | depth + 1 => fun s start stop defs =>
    blocksFrom (blocksWithin depth) s stop (stop - start + 1) start false
      { tokens := #[], next := start, defs }

/-- The blocks of a source text. -/
def blocks (src : Source) : Parsed :=
  let lines := Line.layout src
  let s : Scope :=
    { src, lines, limit := lines.size, indent := 0, listIndent := -1, level := 0 }
  blocksWithin (maxNesting + 1) s 0 lines.size {}

end ElementCode.Markdown
