import ElementCode.Markdown.Autolink
import ElementCode.Markdown.Definition
import ElementCode.Markdown.Emphasis
import ElementCode.Markdown.HtmlTag
import ElementCode.Markdown.Math
import ElementCode.Markdown.Note
import Std.Data.HashMap

/-!
# Running text

The text of a paragraph or heading becomes a stream of inline tokens.  One recogniser finds what
stands at a position: plain text, a line ending, a formula, an escape, a code span, a link, an
image, a footnote, raw HTML or a character reference.  It is used twice: to look ahead for the
bracket that closes a link label, where only the position after each construct counts, and to
build the tokens.  Looking ahead is limited in depth and remembers its results.
-/

namespace ElementCode.Markdown

open Markup (Token Kind)

/-- The depth at which constructs in running text are no longer looked into. -/
def maxInlineNesting : Nat := 20

/-- A stretch of running text, up to `stop`, in a document with definitions. -/
structure Stretch where
  /-- The running text. -/
  src : Source
  /-- Where the stretch ends. -/
  stop : Nat
  /-- What the document defines. -/
  defs : Definitions

/-- What has been learnt about a running text: for positions looked at, the position after what
stands there. -/
abbrev Memo := Std.HashMap Nat Nat

/-- Looks ahead: the position after what stands at a position. -/
abbrev Skip := Nat → Memo → Nat × Memo

/-- What is recognised in running text. -/
inductive Piece where
  /-- Characters that stand for themselves. -/
  | plain (text : List Char)
  /-- A line ending. -/
  | newline
  /-- A single token. -/
  | token (t : Token)
  /-- A link around the text from `start` to before `stop`. -/
  | link (start stop : Nat) (target : LinkTarget)
  /-- An image described by the text from `start` to before `stop`. -/
  | image (start stop : Nat) (target : LinkTarget)
  /-- A footnote written here, from `start` to before `stop`. -/
  | note (start stop : Nat)
  /-- A reference to a footnote. -/
  | noteReference (label : String)
  /-- A link to an address that is also its text. -/
  | autolink (href text : List Char)

/-- A piece and the position after it. -/
structure Found where
  /-- What was found. -/
  piece : Piece
  /-- The position after it. -/
  stop : Nat

/-! ## Text, escapes, code spans -/

/-- Whether a character may be more than text. -/
def isSpecial (c : Char) : Bool :=
  "\n!#$%&*+-:<=>@[\\]^_`\x7b\x7d~".toList.contains c

/-- A text token. -/
def textToken (cs : List Char) : Token := { kind := .text, content := String.ofList cs }

/-- A text token that keeps apart from the text around it. -/
def specialToken (cs : List Char) : Token :=
  { kind := .textSpecial, content := String.ofList cs }

/-- A hard line break. -/
def hardBreak : Token := { kind := .hardbreak, tag := "br" }

/-- A backslash escape: a hard break before a line ending, else the next character, with the
backslash unless it is ASCII punctuation. -/
def escape? (s : Stretch) (pos : Nat) : Option Found :=
  if pos + 1 < s.stop then
    let c := s.src.getD (pos + 1) ' '
    if c == '\n' then some ⟨.token hardBreak, s.src.skipWhile isSpace (pos + 2) s.stop⟩
    else
      let content := if Text.isAsciiPunctuation c then [c] else ['\\', c]
      some ⟨.token (specialToken content), pos + 2⟩
  else none

/-- The content of a code span: line endings are spaces, and one space is left out at both ends
unless there are only spaces. -/
def codeContent (cs : List Char) : List Char :=
  let cs := cs.map fun c => if c == '\n' then ' ' else c
  if cs.head? == some ' ' && cs.getLast? == some ' ' && cs.any (· != ' ') then
    (cs.drop 1).dropLast
  else cs

/-- Searches from `pos` on for a run of exactly `length` backticks: the start and the end of the
run. -/
def closingRun? (s : Stretch) (length : Nat) : Nat → Nat → Option (Nat × Nat)
  | 0, _ => none
  | fuel + 1, pos =>
    let start := s.src.skipWhile (· != '`') pos s.src.size
    if start < s.src.size then
      let stop := max (start + 1) (s.src.skipWhile (· == '`') start s.stop)
      if stop - start == length then some (start, stop) else closingRun? s length fuel stop
    else none

/-- A code span, or the backticks that open none. -/
def codeSpan (s : Stretch) (pos : Nat) : Found :=
  let after := s.src.skipWhile (· == '`') pos s.stop
  match closingRun? s (after - pos) (s.src.size + 1) after with
  | some (start, stop) =>
    let content := codeContent (s.src.slice after start)
    ⟨.token { kind := .codeInline, tag := "code", content := String.ofList content }, stop⟩
  | none => ⟨.plain (s.src.slice pos after), after⟩

/-! ## Formulas, raw HTML, references -/

/-- A formula at a dollar sign. -/
def formulaAt? (s : Stretch) (pos : Nat) : Option Found :=
  let before := if pos == 0 then none else s.src[pos - 1]?
  if before == some '\\' || !notDigit before then none
  else
    let rest := s.src.slice pos s.src.size
    let token (kind : Kind) (cs : List Char) : Found :=
      ⟨.token { kind, tag := "math", content := String.ofList cs }, pos + cs.length + 2⟩
    match formula? rest with
    | some cs => some (token .mathInline cs)
    | none => (singleFormula? rest).map fun c => token .mathSingle [c]

/-- An automatic link or raw HTML at a `<`. -/
def angle? (s : Stretch) (pos : Nat) : Option Found :=
  let close := s.src.skipWhile (fun c => c != '<' && c != '>') (pos + 1) s.stop
  let address := s.src.slice (pos + 1) close
  let auto := if close < s.stop && s.src[close]? == some '>' then autolink? address else none
  match auto with
  | some href => some ⟨.autolink href (Url.display address), close + 1⟩
  | none =>
    let second := s.src.getD (pos + 1) ' '
    if pos + 2 < s.stop && (second == '!' || second == '?' || second == '/' || isLetter second) then
      (htmlInline? (s.src.slice pos s.src.size)).map fun rest =>
        let stop := s.src.size - rest.length
        ⟨.token { kind := .htmlInline, content := String.ofList (s.src.slice pos stop) }, stop⟩
    else none

/-- A character reference at an `&`. -/
def entity? (s : Stretch) (pos : Nat) : Option Found :=
  if pos + 1 < s.stop then
    match referenceName? (s.src.slice (pos + 1) (pos + 40)) with
    | some name =>
      (referenceInText? name).map fun cs => ⟨.token (specialToken cs), pos + name.length + 2⟩
    | none => none
  else none

/-! ## Links, images, footnotes -/

/-- The position of the bracket that closes a label, from position `pos` on inside it; `depth`
counts the open brackets.  With `simple` set the label may not hold a link or footnote. -/
def labelEnd? (s : Stretch) (skip : Skip) (simple : Bool) :
    Nat → Nat → Nat → Memo → Option Nat × Memo
  | 0, _, _, memo => (none, memo)
  | fuel + 1, pos, depth, memo =>
    if pos < s.stop then
      let c := s.src.getD pos ' '
      if c == ']' && depth ≤ 1 then (some pos, memo)
      else
        let depth := if c == ']' then depth - 1 else depth
        let (next, memo) := skip pos memo
        if c == '[' && next == pos + 1 then labelEnd? s skip simple fuel next (depth + 1) memo
        else if c == '[' && simple then (none, memo)
        else labelEnd? s skip simple fuel next depth memo
    else (none, memo)

/-- The position of the bracket that closes the label which opens at `pos`. -/
def closingBracket? (s : Stretch) (skip : Skip) (simple : Bool) (pos : Nat) (memo : Memo) :
    Option Nat × Memo :=
  labelEnd? s skip simple (s.stop - pos) (pos + 1) 1 memo

/-- Skips blanks and line endings. -/
def skipGap (s : Stretch) (pos : Nat) : Nat :=
  s.src.skipWhile (fun c => isSpace c || c == '\n') pos s.stop

/-- The destination and title in the parentheses of a link, and the position where the closing
parenthesis is expected. -/
def resource (s : Stretch) (pos : Nat) : LinkTarget × Nat :=
  match destination? (s.src.slice pos s.stop) with
  | none => (⟨"", ""⟩, pos)
  | some (raw, rest) =>
    match allowed? raw with
    | none => (⟨"", ""⟩, pos)
    | some href =>
      let href := String.ofList href
      let after := s.stop - rest.length
      let next := skipGap s after
      if after == next then (⟨href, ""⟩, next)
      else
        match titleScan (s.src.slice next s.stop) with
        | .closed title rest => (⟨href, String.ofList title⟩, skipGap s (s.stop - rest.length))
        | _ => (⟨href, ""⟩, next)

/-- The target that a label refers to: the label in brackets at `pos`, or else the text from
`start` to before `close`; and the position after it. -/
def referenced? (s : Stretch) (skip : Skip) (start close pos : Nat) (memo : Memo) :
    Option (LinkTarget × Nat) × Memo :=
  if s.defs.links.isEmpty then (none, memo)
  else
    let (label, next, memo) :=
      if pos < s.stop && s.src[pos]? == some '[' then
        match closingBracket? s skip false pos memo with
        | (some stop, memo) => (s.src.slice (pos + 1) stop, stop + 1, memo)
        | (none, memo) => ([], close + 1, memo)
      else ([], close + 1, memo)
    let label := if label.isEmpty then s.src.slice start close else label
    ((s.defs.link? (normalLabel label)).map fun target => (target, next), memo)

/-- A link at a `[`.  When the parentheses after the label do not hold, the label may still be
that of a definition. -/
def link? (s : Stretch) (skip : Skip) (pos : Nat) (memo : Memo) : Option Found × Memo :=
  match closingBracket? s skip true pos memo with
  | (none, memo) => (none, memo)
  | (some close, memo) =>
    let link (target : LinkTarget) (stop : Nat) : Found := ⟨.link (pos + 1) close target, stop⟩
    let byLabel (at' : Nat) : Option Found × Memo :=
      let (found, memo) := referenced? s skip (pos + 1) close at' memo
      (found.map fun (target, stop) => link target stop, memo)
    if close + 1 < s.stop && s.src[close + 1]? == some '(' then
      let inner := skipGap s (close + 2)
      if s.stop ≤ inner then (none, memo)
      else
        let (target, next) := resource s inner
        if next < s.stop && s.src[next]? == some ')' then (some (link target (next + 1)), memo)
        else byLabel (next + 1)
    else byLabel (close + 1)

/-- An image at a `!`. -/
def image? (s : Stretch) (skip : Skip) (pos : Nat) (memo : Memo) : Option Found × Memo :=
  if s.src[pos + 1]? != some '[' then (none, memo)
  else
    match closingBracket? s skip false (pos + 1) memo with
    | (none, memo) => (none, memo)
    | (some close, memo) =>
      let image (target : LinkTarget) (stop : Nat) : Found := ⟨.image (pos + 2) close target, stop⟩
      if close + 1 < s.stop && s.src[close + 1]? == some '(' then
        let inner := skipGap s (close + 2)
        if s.stop ≤ inner then (none, memo)
        else
          let (target, next) := resource s inner
          if next < s.stop && s.src[next]? == some ')' then (some (image target (next + 1)), memo)
          else (none, memo)
      else
        let (found, memo) := referenced? s skip (pos + 2) close (close + 1) memo
        (found.map fun (target, stop) => image target stop, memo)

/-- A footnote written in place, at a `^`. -/
def inlineNote? (s : Stretch) (skip : Skip) (pos : Nat) (memo : Memo) : Option Found × Memo :=
  if pos + 2 < s.stop && s.src[pos + 1]? == some '[' then
    match closingBracket? s skip false (pos + 1) memo with
    | (some close, memo) => (some ⟨.note (pos + 2) close, close + 1⟩, memo)
    | (none, memo) => (none, memo)
  else (none, memo)

/-- A reference to a footnote, at a `[`. -/
def noteReference? (s : Stretch) (pos : Nat) : Option Found :=
  if pos + 3 ≤ s.stop && s.src[pos + 1]? == some '^' then
    let close := s.src.skipWhile (fun c => c != ' ' && c != '\n' && c != ']') (pos + 2) s.stop
    let label := String.ofList (s.src.slice (pos + 2) close)
    if close < s.stop && s.src[close]? == some ']' && pos + 2 < close &&
        s.defs.notes.contains label then
      some ⟨.noteReference label, close + 1⟩
    else none
  else none

/-! ## The recogniser -/

/-- What stands at a position, delimiters of emphasis apart. -/
def found? (s : Stretch) (skip : Skip) (pos : Nat) (memo : Memo) : Option Found × Memo :=
  match s.src.getD pos ' ' with
  | '\n' => (some ⟨.newline, s.src.skipWhile isSpace (pos + 1) s.stop⟩, memo)
  | '$' => (formulaAt? s pos, memo)
  | '\\' => (escape? s pos, memo)
  | '`' => (some (codeSpan s pos), memo)
  | '[' =>
    match link? s skip pos memo with
    | (some found, memo) => (some found, memo)
    | (none, memo) => (noteReference? s pos, memo)
  | '!' => image? s skip pos memo
  | '^' => inlineNote? s skip pos memo
  | '<' => (angle? s pos, memo)
  | '&' => (entity? s pos, memo)
  | c =>
    if isSpecial c then (none, memo)
    else
      let stop := s.src.skipWhile (!isSpecial ·) pos s.stop
      (some ⟨.plain (s.src.slice pos stop), stop⟩, memo)

/-- Looks ahead `room` levels deep; where there is no room left, it passes the end. -/
def skipPiece (s : Stretch) : Nat → Skip
  | 0, pos, memo =>
    match memo[pos]? with
    | some stop => (stop, memo)
    | none => (s.stop + 1, memo.insert pos (s.stop + 1))
  | room + 1, pos, memo =>
    match memo[pos]? with
    | some stop => (stop, memo)
    | none =>
      let (found, memo) := found? s (skipPiece s room) pos memo
      let stop := match found with
        | some f => f.stop
        | none => pos + 1
      (stop, memo.insert pos stop)

/-! ## Tokens -/

/-- The tokens of one level of running text so far. -/
structure Level where
  /-- The tokens. -/
  tokens : Array Token := #[]
  /-- The delimiters among them. -/
  delims : Array Delimiter := #[]
  /-- The last text, in reverse, that is not a token yet. -/
  pending : List Char := []

namespace Level

/-- Makes the last text a token. -/
def flush (l : Level) : Level :=
  if l.pending.isEmpty then l
  else { l with tokens := l.tokens.push (textToken l.pending.reverse), pending := [] }

/-- Adds a token. -/
def push (l : Level) (t : Token) : Level :=
  let l := l.flush
  { l with tokens := l.tokens.push t }

/-- Adds a line break: a hard one after two spaces.  The spaces before it are left out. -/
def lineBreak (l : Level) : Level :=
  match l.pending with
  | ' ' :: ' ' :: rest => { l with pending := rest.dropWhile (· == ' ') }.push hardBreak
  | ' ' :: rest => { l with pending := rest }.push { kind := .softbreak, tag := "br" }
  | _ => l.push { kind := .softbreak, tag := "br" }

/-- Adds a run of delimiters, each a text token of its own. -/
def pushRun (l : Level) (mark : Char) (run : DelimiterRun) : Level :=
  (List.range run.length).foldl (fun l _ =>
    let l := l.push (textToken [mark])
    let delim : Delimiter :=
      { mark, length := run.length, token := l.tokens.size - 1
        opens := run.opens, closes := run.closes }
    { l with delims := l.delims.push delim }) l

end Level

/-- Reads a running text that stands by itself. -/
abbrev Fresh := Source → Notes → List Token × Notes

/-- Reads a part of the running text one level deeper. -/
abbrev Deeper := Nat → Nat → Memo → Notes → Array Token × Memo × Notes

/-- The attributes of a link or image. -/
def targetAttrs (attrs : List (String × String)) (target : LinkTarget) : List (String × Value) :=
  (attrs ++ if target.title.isEmpty then [] else [("title", target.title)]).map
    fun (name, value) => (name, .str value)

/-- Adds a piece to a level. -/
def addPiece (fresh : Fresh) (deeper : Deeper) (src : Source) (piece : Piece) (l : Level)
    (memo : Memo) (notes : Notes) : Level × Memo × Notes :=
  match piece with
  | .plain text => ({ l with pending := text.reverse ++ l.pending }, memo, notes)
  | .newline => (l.lineBreak, memo, notes)
  | .token t => (l.push t, memo, notes)
  | .link start stop target =>
    let (inner, memo, notes) := deeper start stop memo notes
    let l := l.push
      { kind := .linkOpen, tag := "a", attrs := targetAttrs [("href", target.href)] target }
    ({ l with tokens := l.tokens ++ inner }.push { kind := .linkClose, tag := "a" }, memo, notes)
  | .image start stop target =>
    let (children, notes) := fresh (src.extract start stop) notes
    (l.push
      { kind := .image, tag := "img", content := String.ofList (src.slice start stop), children,
        attrs := targetAttrs [("src", target.href), ("alt", "")] target }, memo, notes)
  | .note start stop =>
    let (id, notes) := notes.reserve
    let (children, notes) := fresh (src.extract start stop) notes
    (l.push { kind := .footnoteRef, data := [("id", .int id)] }, memo, notes.fill id children)
  | .noteReference label =>
    let (id, subId, notes) := notes.refer label
    (l.push
      { kind := .footnoteRef
        data := [("id", .int id), ("subId", .int subId), ("label", .str label)] }, memo, notes)
  | .autolink href text =>
    let opener : Token :=
      { kind := .linkOpen, tag := "a", attrs := [("href", .str (String.ofList href))] }
    (((l.push opener).push (textToken text)).push { kind := .linkClose, tag := "a" }, memo, notes)

/-- Reads the pieces from position `pos` on, at most `fuel` of them. -/
def pieces (fresh : Fresh) (deeper : Deeper) (s : Stretch) (skip : Skip) :
    Nat → Nat → Level → Memo → Notes → Level × Memo × Notes
  | 0, _, l, memo, notes => (l, memo, notes)
  | fuel + 1, pos, l, memo, notes =>
    if pos < s.stop then
      let c := s.src.getD pos ' '
      if c == '*' || c == '_' then
        let run := DelimiterRun.scan s.src c pos s.stop
        pieces fresh deeper s skip fuel (pos + run.length) (l.pushRun c run) memo notes
      else
        match found? s skip pos memo with
        | (some found, memo) =>
          let (l, memo, notes) := addPiece fresh deeper s.src found.piece l memo notes
          pieces fresh deeper s skip fuel found.stop l memo notes
        | (none, memo) =>
          pieces fresh deeper s skip fuel (pos + 1) { l with pending := c :: l.pending } memo notes
    else (l, memo, notes)

/-- The tokens of the running text from one position to before another, with `room` levels left;
where there is none, all is text. -/
def runningTokens (fresh : Fresh) (src : Source) (defs : Definitions) : Nat → Deeper
  | 0, start, stop, memo, notes =>
    let text := src.slice start stop
    (if text.isEmpty then #[] else #[textToken text], memo, notes)
  | room + 1, start, stop, memo, notes =>
    let s : Stretch := ⟨src, stop, defs⟩
    let (l, memo, notes) := pieces fresh (runningTokens fresh src defs room) s
      (skipPiece s (room + 1)) (stop - start) start {} memo notes
    let l := l.flush
    (resolveEmphasis l.tokens l.delims, memo, notes)

/-- Reads a running text in which the texts of images and of footnotes nest at most `fuel` deep. -/
def runningText (defs : Definitions) : Nat → Fresh
  | 0, _, notes => ([], notes)
  | fuel + 1, src, notes =>
    let (tokens, _, notes) :=
      runningTokens (runningText defs fuel) src defs maxInlineNesting 0 src.size {} notes
    (joinText tokens.toList, notes)

/-- The tokens of a running text.  Every nested text is shorter than the one around it. -/
def inlines (defs : Definitions) (text : String) (notes : Notes) : List Token × Notes :=
  let src := text.toList.toArray
  runningText defs (src.size + 1) src notes

end ElementCode.Markdown
