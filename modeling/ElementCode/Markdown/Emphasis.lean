import ElementCode.Markdown.Source
import ElementCode.Markup.Token
import ElementCode.Text.Punctuation

/-!
# Emphasis

A run of asterisks or underscores may open or close emphasis, depending on the characters around
it.  Every character of a run is first a text token of its own with a delimiter that points to it.
At the end of the running text closing delimiters are paired with the nearest opening ones, and
paired delimiters become the opening and closing tokens of emphasis; two adjacent pairs become
strong emphasis.
-/

namespace ElementCode.Markdown

open Markup (Token Kind)

/-- One character of a run of asterisks or underscores. -/
structure Delimiter where
  /-- The asterisk or underscore. -/
  mark : Char
  /-- The length of the run. -/
  length : Nat
  /-- The index of its token. -/
  token : Nat
  /-- Whether it may open emphasis. -/
  opens : Bool
  /-- Whether it may close emphasis. -/
  closes : Bool
  /-- The index of the delimiter that closes what it opens. -/
  closer : Option Nat := none
  deriving Inhabited

/-! ## Runs -/

/-- The white space that keeps a run from opening or closing. -/
def isSpacing (c : Char) : Bool :=
  let n := c.toNat
  (0x09 ≤ n && n ≤ 0x0D) || n == 0x20 || n == 0xA0 || n == 0x1680 ||
    (0x2000 ≤ n && n ≤ 0x200A) || n == 0x202F || n == 0x205F || n == 0x3000

/-- Punctuation and symbols. -/
def isMark (c : Char) : Bool := Text.isAsciiPunctuation c || Text.isPunctuation c

/-- What a run of delimiters may do. -/
structure DelimiterRun where
  /-- How many delimiters it has. -/
  length : Nat
  /-- Whether it may open emphasis. -/
  opens : Bool
  /-- Whether it may close emphasis. -/
  closes : Bool

/-- The run of `mark` at position `pos`.  It opens if what follows is attached to it, and closes
if what precedes is; only asterisks may do both inside a word. -/
def DelimiterRun.scan (src : Source) (mark : Char) (pos stop : Nat) : DelimiterRun :=
  let after := src.skipWhile (· == mark) pos stop
  let last := if pos == 0 then ' ' else src.getD (pos - 1) ' '
  let next := if after < stop then src.getD after ' ' else ' '
  let leftFlanking := !(isSpacing next || (isMark next && !(isSpacing last || isMark last)))
  let rightFlanking := !(isSpacing last || (isMark last && !(isSpacing next || isMark next)))
  let inWords := mark == '*'
  { length := after - pos
    opens := leftFlanking && (inWords || !rightFlanking || isMark last)
    closes := rightFlanking && (inWords || !leftFlanking || isMark next) }

/-! ## Pairing -/

/-- The state of the pairing of delimiters, from left to right. -/
structure Pairing where
  /-- The delimiters. -/
  delims : Array Delimiter
  /-- For every delimiter passed, how many before it the search for an opener skips. -/
  jumps : Array Nat := #[]
  /-- The delimiters before which there is no opener, by mark, by whether the closer may open,
  and by the length of its run modulo three. -/
  bottoms : List ((Char × Bool × Nat) × Nat) := []
  /-- The first delimiter of the current run. -/
  header : Nat := 0
  /-- The token of the delimiter before, if it may belong to the current run. -/
  lastToken : Option Nat := none

namespace Pairing

/-- Whether the lengths of the runs forbid a pair: if one of them can both open and close, the
sum must not be a multiple of three unless both lengths are. -/
def isOdd (opener closer : Delimiter) : Bool :=
  (opener.closes || closer.opens) && (opener.length + closer.length) % 3 == 0 &&
    (opener.length % 3 != 0 || closer.length % 3 != 0)

/-- The nearest opener for a closer among the delimiters before `count`, but not among those before
`least`. -/
def opener? (p : Pairing) (closer : Delimiter) (least count : Nat) : Option Nat :=
  match count with
  | 0 => none
  | i + 1 =>
    if least < i + 1 then
      let opener := p.delims.getD i default
      if opener.mark == closer.mark && opener.opens && opener.closer.isNone &&
          !isOdd opener closer then some i
      else opener? p closer least (i - p.jumps.getD i 0)
    else none
termination_by count
decreasing_by omega

/-- Takes one delimiter into account. -/
def step (p : Pairing) (i : Nat) : Pairing :=
  let closer := p.delims.getD i default
  let p := { p with jumps := p.jumps.push 0 }
  let sameRun := (p.delims.getD p.header default).mark == closer.mark &&
    p.lastToken.any (· + 1 == closer.token)
  let p := { p with
    header := if sameRun then p.header else i
    lastToken := some closer.token }
  if !closer.closes then p
  else
    let key := (closer.mark, closer.opens, closer.length % 3)
    let least := ((p.bottoms.find? (·.1 == key)).map (·.2)).getD 0
    let count := p.header - p.jumps.getD p.header 0
    match p.opener? closer least count with
    | some j =>
      let before := p.delims.getD (j - 1) default
      let lastJump := if 0 < j && !before.opens then p.jumps.getD (j - 1) 0 + 1 else 0
      { p with
        delims := (p.delims.modify i ({ · with opens := false })).modify j
          ({ · with closer := some i, closes := false })
        jumps := (p.jumps.setIfInBounds i (i - j + lastJump)).setIfInBounds j lastJump
        lastToken := none }
    | none => if count == 0 then p else { p with bottoms := (key, count) :: p.bottoms }

/-- Pairs all delimiters. -/
def run (delims : Array Delimiter) : Array Delimiter :=
  ((List.range delims.size).foldl step ({ delims } : Pairing)).delims

end Pairing

/-! ## Emphasis tokens -/

/-- Makes the tokens of paired delimiters those of emphasis, going over the delimiters before
`count` from right to left. -/
def markPairs (delims : Array Delimiter) (count : Nat) (tokens : Array Token) : Array Token :=
  match count with
  | 0 => tokens
  | i + 1 =>
    let opener := delims.getD i default
    match opener.closer with
    | none => markPairs delims i tokens
    | some j =>
      let closer := delims.getD j default
      let before := delims.getD (i - 1) default
      let after := delims.getD (j + 1) default
      let strong := 0 < i && before.closer == some (j + 1) && before.mark == opener.mark &&
        before.token + 1 == opener.token && after.token == closer.token + 1
      let set (at' : Nat) (t : Token) (tokens : Array Token) := tokens.setIfInBounds at' t
      if strong then
        markPairs delims (i - 1) <| tokens
          |> set opener.token { kind := .strongOpen, tag := "strong" }
          |> set closer.token { kind := .strongClose, tag := "strong" }
          |> set before.token { kind := .text }
          |> set after.token { kind := .text }
      else
        markPairs delims i <| tokens
          |> set opener.token { kind := .emOpen, tag := "em" }
          |> set closer.token { kind := .emClose, tag := "em" }
termination_by count
decreasing_by all_goals omega

/-- Joins adjacent text tokens. -/
def joinText : List Token → List Token
  | [] => []
  | t :: rest =>
    match joinText rest with
    | u :: more =>
      if t.kind == .text && u.kind == .text then
        { u with content := t.content ++ u.content } :: more
      else t :: u :: more
    | [] => [t]

/-- Resolves the delimiters of a stream. -/
def resolveEmphasis (tokens : Array Token) (delims : Array Delimiter) : Array Token :=
  if delims.isEmpty then tokens
  else
    let paired := Pairing.run delims
    markPairs paired paired.size tokens

end ElementCode.Markdown
