import ElementCode.Text.Ranges
import ElementCode.Yaml.Place

/-!
# Scalars

The four ways to write a scalar: plain, in single or double quotes, and as a block that keeps or
folds its lines.  Inside plain and quoted scalars one line break stands for a space, and more of
them for one less than there are.
-/

namespace ElementCode.Yaml

/-- The text of a line break inside a scalar, given those that follow. -/
def foldBreaks (first : Char) (more : List Char) : List Char :=
  (if first != '\n' then [first] else if more.isEmpty then [' '] else []) ++ more

/-! ## Plain scalars -/

/-- A run of a plain scalar without blanks. -/
def plainRun (flow : Bool) : List Char → List Char
  | [] => []
  | c :: rest =>
    if endsWord c ||
        (c == ':' && rest.head?.all fun d =>
          endsWord d || (flow && ",[]\x7b\x7d".toList.contains d)) ||
        (flow && ",?[]\x7b\x7d".toList.contains c) then []
    else c :: plainRun flow rest

/-- What separates two runs of a plain scalar. -/
structure PlainGap where
  /-- What it counts as; nothing when the scalar ends. -/
  text : List Char
  /-- The place after it. -/
  place : Place
  /-- Whether it leaves the line. -/
  crosses : Bool

/-- The spaces and line breaks inside a plain scalar after its first break `first`. -/
def plainBreaks (first : Char) : Nat → Place → List Char → PlainGap
  | 0, p, _ => ⟨[], p, true⟩
  | fuel + 1, p, breaks =>
    if p.has (· == ' ') then plainBreaks first fuel p.next breaks
    else
      match p.lineBreak? with
      | some (c, p) =>
        if p.atSeparator then ⟨[], p, true⟩ else plainBreaks first fuel p (breaks ++ [c])
      | none => ⟨foldBreaks first breaks, p, true⟩

/-- The spaces and line breaks after a run of a plain scalar. -/
def plainGap (p : Place) : PlainGap :=
  let (spaces, p) := p.span (· == ' ')
  match p.lineBreak? with
  | some (c, p) =>
    if p.atSeparator then ⟨[], p, true⟩ else plainBreaks c (p.rest.length + 1) p []
  | none => ⟨spaces, p, false⟩

/-- A plain scalar and the place after it; also whether a key may follow there, which is so at the
start of a line.  `gap` is what separates the next run from the text in `done`. -/
def plainScalar (flow : Bool) (indent : Int) :
    Nat → Place → List Char → List Char → Bool → List Char × Place × Bool
  | 0, p, done, _, fresh => (done, p, fresh)
  | fuel + 1, p, done, gap, fresh =>
    let run := if p.has (· == '#') then [] else plainRun flow p.rest
    if run.isEmpty then (done, p, fresh)
    else
      let done := done ++ gap ++ run
      let g := plainGap (p.advance run.length)
      if g.text.isEmpty || g.place.has (· == '#') || (!flow && g.place.column < indent) then
        (done, g.place, g.crosses)
      else plainScalar flow indent fuel g.place done g.text g.crosses

/-! ## Quoted scalars -/

/-- The character that a letter after a backslash stands for. -/
def shortEscape? (c : Char) : Option Char :=
  let table : List (Char × Nat) :=
    [('0', 0), ('a', 7), ('b', 8), ('t', 9), ('\t', 9), ('n', 10), ('v', 11), ('f', 12), ('r', 13),
      ('e', 27), (' ', 32), ('"', 34), ('\\', 92), ('/', 47), ('N', 0x85), ('_', 0xA0),
      ('L', 0x2028), ('P', 0x2029)]
  (table.find? (·.1 == c)).map fun (_, n) => Char.ofNat n

/-- How many hexadecimal digits follow a letter after a backslash. -/
def escapeWidth? : Char → Option Nat
  | 'x' => some 2
  | 'u' => some 4
  | 'U' => some 8
  | _ => none

/-- Reads a hexadecimal escape of `width` digits. -/
def hexEscape (p : Place) (width : Nat) : Except Error (Nat × Place) :=
  let digits := p.rest.take width
  if digits.length == width && digits.all fun c => (Text.hexValue? c).isSome then
    let n := Text.hexNat digits
    if 0x7FFFFFFF < n then .error .escapeTooLarge
    else if 0x10FFFF < n then .error .notCodePoint
    else .ok (n, p.advance width)
  else .error .invalid

/-- The further line breaks inside a quoted scalar; a line may not separate documents. -/
def quotedBreaks : Nat → Place → Except Error (List Char × Place)
  | 0, p => .ok ([], p)
  | fuel + 1, p =>
    if p.atSeparator then .error .invalid
    else
      let p := p.skip Plain.isSpace
      match p.lineBreak? with
      | some (c, p) => do
        let (more, p) ← quotedBreaks fuel p
        return (c :: more, p)
      | none => .ok ([], p)

/-- Reads a quoted scalar up to its closing quote, at most `fuel` steps; `done` holds, in reverse,
what it says so far. -/
def quotedScalar (quote : Char) : Nat → Place → Text.Points → Except Error (Text.Points × Place)
  | 0, _, _ => .error .invalid
  | fuel + 1, p, done =>
    match p.rest with
    | [] => .error .invalid
    | c :: rest =>
      if c == quote then
        if quote == '\'' && rest.head? == some '\'' then
          quotedScalar quote fuel (p.advance 2) ('\''.toNat :: done)
        else .ok (done.reverse, p.next)
      else if c == '\\' && quote == '"' then
        let p := p.next
        match rest with
        | [] => .error .invalid
        | d :: _ =>
          match shortEscape? d, escapeWidth? d with
          | some e, _ => quotedScalar quote fuel p.next (e.toNat :: done)
          | none, some width => do
            let (e, p) ← hexEscape p.next width
            quotedScalar quote fuel p (e :: done)
          | none, none =>
            match p.lineBreak? with
            | some (_, p) => do
              let (breaks, p) ← quotedBreaks (p.rest.length + 1) p
              quotedScalar quote fuel p (addAll breaks done)
            | none => .error .invalid
      else if endsWord c then
        let (blanks, p) := p.span Plain.isSpace
        match p.lineBreak? with
        | some (first, p) => do
          let (breaks, p) ← quotedBreaks (p.rest.length + 1) p
          quotedScalar quote fuel p (addAll (foldBreaks first breaks) done)
        | none =>
          if p.rest.isEmpty then .error .invalid
          else quotedScalar quote fuel p (addAll blanks done)
      else quotedScalar quote fuel p.next (c.toNat :: done)
where
  /-- Adds characters to a text in reverse. -/
  addAll (cs : List Char) (done : Text.Points) : Text.Points :=
    (Text.Points.ofChars cs).reverse ++ done

/-! ## Block scalars -/

/-- What becomes of the line breaks at the end of a block scalar. -/
inductive Chomping where
  | strip | clip | keep
  deriving DecidableEq, Repr

/-- The indicator of what becomes of the last line breaks. -/
def chomping? : Option Char → Option Chomping
  | some '+' => some .keep
  | some '-' => some .strip
  | _ => none

/-- The indicator of how deep a block scalar is indented. -/
def increment? (c : Option Char) : Except Error (Option Nat) :=
  match c with
  | some d =>
    if Plain.isDigit d then
      if d == '0' then .error .invalid else .ok (some (d.toNat - '0'.toNat))
    else .ok none
  | none => .ok none

/-- The indicators after the mark of a block scalar, in either order. -/
def blockHeader (p : Place) : Except Error (Chomping × Option Nat × Place) := do
  let (chomping, increment, p) ← (match chomping? p.peek with
    | some chomping => do
      let p := p.next
      let increment ← increment? p.peek
      return (chomping, increment, if increment.isSome then p.next else p)
    | none => do
      let increment ← increment? p.peek
      if increment.isSome then
        let p := p.next
        match chomping? p.peek with
        | some chomping => return (chomping, increment, p.next)
        | none => return (.clip, increment, p)
      else return (.clip, none, p) : Except Error (Chomping × Option Nat × Place))
  if p.endsOr fun c => c == ' ' || endsLine c then
    let p ← p.endOfLine
    return (chomping, increment, p)
  else .error .invalid

/-- The blank lines before a block scalar: their breaks, the deepest indentation met, and the place
after them. -/
def blockIndentation : Nat → Place → Nat → List Char × Nat × Place
  | 0, p, deepest => ([], deepest, p)
  | fuel + 1, p, deepest =>
    if p.has (· == ' ') then blockIndentation fuel p.next (max deepest p.next.column)
    else
      match p.lineBreak? with
      | some (c, p) =>
        let (breaks, deepest, p) := blockIndentation fuel p deepest
        (c :: breaks, deepest, p)
      | none => ([], deepest, p)

/-- Skips spaces up to a column. -/
def toColumn (column : Int) : Nat → Place → Place
  | 0, p => p
  | fuel + 1, p =>
    if p.column < column && p.has (· == ' ') then toColumn column fuel p.next else p

/-- The blank lines inside a block scalar: their breaks, and the place after the indentation of the
next line. -/
def blockBreaks (indent : Int) : Nat → Place → List Char × Place
  | 0, p => ([], p)
  | fuel + 1, p =>
    let p := toColumn indent (p.rest.length + 1) p
    match p.lineBreak? with
    | some (c, p) =>
      let (breaks, p) := blockBreaks indent fuel p
      (c :: breaks, p)
    | none => ([], p)

/-- The lines of a block scalar from place `p` on, `breaks` before them: the text without its last
break, that break, the blank lines at the end, and the place after them. -/
def blockLines (folded : Bool) (indent : Int) :
    Nat → Place → List Char → List Char × List Char × List Char × Place
  | 0, p, breaks => ([], [], breaks, p)
  | fuel + 1, p, breaks =>
    let inside (p : Place) : Bool := p.column == indent && !p.rest.isEmpty
    if inside p then
      let flush := !p.has Plain.isSpace
      let (line, p) := p.span (!endsLine ·)
      let (lineBreak, p) : List Char × Place := match p.lineBreak? with
        | some (c, p) => ([c], p)
        | none => ([], p)
      let (next, p) := blockBreaks indent (p.rest.length + 1) p
      if inside p then
        let joint :=
          if folded && lineBreak == ['\n'] && flush && !p.has Plain.isSpace then
            if next.isEmpty then [' '] else []
          else lineBreak
        let (more, last, final, p) := blockLines folded indent fuel p next
        (breaks ++ line ++ joint ++ more, last, final, p)
      else (breaks ++ line, lineBreak, next, p)
    else ([], [], breaks, p)

/-- A block scalar after its mark, inside a block with an indentation. -/
def blockScalar (folded : Bool) (outer : Int) (p : Place) : Except Error (List Char × Place) := do
  let (chomping, increment, p) ← blockHeader p
  let least := max (outer + 1) 1
  let fuel := p.rest.length + 1
  let (breaks, indent, p) : List Char × Int × Place := match increment with
    | none =>
      let (breaks, deepest, p) := blockIndentation fuel p 0
      (breaks, max least deepest, p)
    | some n =>
      let indent := least + n - 1
      let (breaks, p) := blockBreaks indent fuel p
      (breaks, indent, p)
  let (text, last, final, p) := blockLines folded indent fuel p breaks
  return (text ++ (match chomping with
    | .strip => []
    | .clip => last
    | .keep => last ++ final), p)

end ElementCode.Yaml
