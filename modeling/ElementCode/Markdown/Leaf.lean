import ElementCode.Markdown.HtmlTag
import ElementCode.Markdown.Line
import ElementCode.Markdown.Math
import ElementCode.Markup.Token
import ElementCode.Text.Blank

/-!
# Leaf blocks

The blocks that hold no other blocks: indented and fenced code, thematic breaks, headings, raw
HTML and displayed formulas.  For each there is a test whether a line starts it, which paragraphs
also use to see whether they end, and a function that gives its tokens and the line after it.
-/

namespace ElementCode.Markdown

open Markup (Token Kind)

/-- The tokens of a block and the line after it. -/
abbrev Leaf := List Token × Nat

/-- A heading, paragraph or the like: an opening token, running text, a closing token. -/
def textBlock (opening closing : Kind) (tag : String) (content : List Char) : List Token :=
  [{ kind := opening, tag := tag }, { kind := .inline, content := String.ofList content },
    { kind := closing, tag := tag }]

/-! ## Indented code -/

/-- The line after the last code line, going from line `n` to before `stop`; empty lines count if
a code line follows. -/
def codeEnd (s : Scope) (stop n last : Nat) : Nat :=
  if n < stop then
    if s.isEmpty n then codeEnd s stop (n + 1) last
    else if s.isCode n then codeEnd s stop (n + 1) (n + 1)
    else last
  else last
termination_by stop - n

/-- A block of indented code. -/
def codeBlock? (s : Scope) (n stop : Nat) : Option Leaf :=
  if s.isCode n then
    let last := codeEnd s stop (n + 1) (n + 1)
    let content := s.textOf n last (4 + s.indent) false ++ ['\n']
    some ([{ kind := .codeBlock, tag := "code", content := String.ofList content }], last)
  else none

/-! ## Fenced code -/

/-- An opening fence. -/
structure Fence where
  /-- The character of the fence. -/
  marker : Char
  /-- How many of them it has. -/
  length : Nat
  /-- What follows them on the line. -/
  info : List Char

/-- The fence that a line opens: at least three backticks or tildes; the info string after
backticks holds none. -/
def fence? (s : Scope) (n : Nat) : Option Fence :=
  if s.isCode n then none
  else
    match s.text n with
    | c :: rest =>
      if c == '~' || c == '`' then
        let more := rest.takeWhile (· == c)
        let info := rest.drop more.length
        if more.length < 2 || (c == '`' && info.contains '`') then none
        else some ⟨c, more.length + 1, info⟩
      else none
    | [] => none

/-- Whether a line closes a fence. -/
def closesFence (s : Scope) (f : Fence) (n : Nat) : Bool :=
  !s.isCode n &&
    (let text := s.text n
     let marks := text.takeWhile (· == f.marker)
     f.length ≤ marks.length && (text.drop marks.length).all isSpace)

/-- The line that ends fenced code, and whether it is a closing fence.  The code also ends before
a line with too little indentation and before an empty line at the end of the source. -/
def fenceEnd (s : Scope) (f : Fence) (stop n : Nat) : Nat × Bool :=
  if n < stop then
    let l := s.line n
    if !l.isEmpty && l.indent < s.indent then (n, false)
    else if s.src.size ≤ l.first then (n, false)
    else if closesFence s f n then (n, true)
    else fenceEnd s f stop (n + 1)
  else (n, false)
termination_by stop - n

/-- Fenced code. -/
def fencedCode? (s : Scope) (n stop : Nat) : Option Leaf :=
  (fence? s n).map fun f =>
    let (last, closed) := fenceEnd s f stop (n + 1)
    let content := s.textOf (n + 1) last (s.line n).indent true
    ([{ kind := .fence, tag := "code", content := String.ofList content,
        info := String.ofList f.info }],
      if closed then last + 1 else last)

/-! ## Thematic breaks -/

/-- Whether a line is a thematic break: three or more of one mark, and blanks. -/
def isBreak (s : Scope) (n : Nat) : Bool :=
  !s.isCode n &&
    match s.text n with
    | c :: rest =>
      (c == '*' || c == '-' || c == '_') && rest.all (fun d => d == c || isSpace d) &&
        2 ≤ rest.count c
    | [] => false

/-- A thematic break. -/
def thematicBreak? (s : Scope) (n : Nat) : Option Leaf :=
  if isBreak s n then some ([{ kind := .thematicBreak, tag := "hr" }], n + 1) else none

/-! ## Headings -/

/-- The level and the content of a heading that starts with number signs: one to six of them,
then a blank or the end of the line. -/
def heading? (s : Scope) (n : Nat) : Option (Nat × List Char) :=
  if s.isCode n then none
  else
    let text := s.text n
    let marks := text.takeWhile (· == '#')
    let rest := text.drop marks.length
    if marks.isEmpty || 6 < marks.length || !(rest.head?.all isSpace) then none
    else some (marks.length, rest)

/-- Drops the number signs that close a heading, with the blanks around them. -/
def dropClosing (content : List Char) : List Char :=
  let back := content.reverse.dropWhile isSpace
  match back.dropWhile (· == '#') with
  | c :: front => if isSpace c then (c :: front).reverse else back.reverse
  | [] => back.reverse

/-- A heading that starts with number signs. -/
def numberedHeading? (s : Scope) (n : Nat) : Option Leaf :=
  (heading? s n).map fun (level, content) =>
    (textBlock .headingOpen .headingClose ("h" ++ toString level)
      (Text.trimBy Text.isGap (dropClosing content)), n + 1)

/-- The level that a line gives to the paragraph above it when it underlines it. -/
def underline? (s : Scope) (n : Nat) : Option Nat :=
  if (s.line n).indent < s.indent then none
  else
    match s.text n with
    | c :: rest =>
      if (c == '-' || c == '=') && (rest.dropWhile (· == c)).all isSpace then
        some (if c == '=' then 1 else 2)
      else none
    | [] => none

/-! ## HTML blocks -/

/-- The kind of HTML block that a line starts. -/
def htmlStart? (s : Scope) (n : Nat) : Option HtmlBlock :=
  if s.isCode n then none else HtmlBlock.ofLine? (s.text n)

/-- The line after an HTML block of which the lines before `n` are part. -/
def htmlEnd (s : Scope) (b : HtmlBlock) (stop n : Nat) : Nat :=
  if n < stop then
    let l := s.line n
    if l.indent < s.indent && !l.isEmpty then n
    else
      let text := s.text n
      if b.endsWith text then (if text.isEmpty then n else n + 1)
      else htmlEnd s b stop (n + 1)
  else n
termination_by stop - n

/-- A block of raw HTML, and whether the source ends within the indentation of its last line. -/
def htmlBlock? (s : Scope) (n stop : Nat) : Option (Leaf × Bool) :=
  (htmlStart? s n).map fun b =>
    let next := if b.endsWith (s.text n) then n + 1 else htmlEnd s b stop (n + 1)
    let content := s.textOf n next s.indent true
    (([{ kind := .htmlBlock, content := String.ofList content }], next),
      s.runsOut (next - 1) s.indent)

/-! ## Displayed formulas -/

/-- The line from `n` to before `stop` that holds a position. -/
def lineOf? (s : Scope) (pos stop n : Nat) : Option Nat :=
  if n < stop then
    let l := s.line n
    if l.start ≤ pos && pos ≤ l.stop then some n else lineOf? s pos stop (n + 1)
  else none
termination_by stop - n

/-- A displayed formula that takes `length` characters, if it ends within the container. -/
def formulaBlock? (s : Scope) (n stop length : Nat) (token : Token) : Option Leaf :=
  (lineOf? s ((s.line n).first + length - 1) stop n).map fun last => ([token], last + 1)

/-- A displayed formula.  It is searched in the source text, so that it may span any lines of the
container; what follows it on its last line is dropped. -/
def mathBlock? (s : Scope) (n stop : Nat) : Option Leaf :=
  let start := (s.line n).first
  if s.src[start]? == some '$' then
    match display? (s.src.slice start s.src.size) with
    | some d =>
      let formula := String.ofList d.formula
      let plain := formulaBlock? s n stop (d.formula.length + 4)
        { kind := .mathBlock, tag := "math", content := formula, info := formula }
      match d.label with
      | some label =>
        match formulaBlock? s n stop d.length
            { kind := .mathBlockNumbered, tag := "math", content := formula,
              info := String.ofList label } with
        | some leaf => some leaf
        | none => plain
      | none => plain
    | none => none
  else none

end ElementCode.Markdown
