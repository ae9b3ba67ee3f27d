import ElementCode.Markdown.Source

/-!
# Lines and scopes

A source text is cut into lines once.  A container gives its content a view of the same lines in
which the marker of the container is skipped: the line starts later and its indentation is counted
from there.  A scope is such a view together with the indentation that the container asks for.
-/

namespace ElementCode.Markdown

/-- A line as a container sees it. -/
structure Line where
  /-- The position at which the content of the container starts. -/
  start : Nat
  /-- The position of the line's end. -/
  stop : Nat
  /-- How many characters of indentation follow `start`. -/
  shift : Nat
  /-- The columns of that indentation; negative for a line that only continues a paragraph. -/
  indent : Int
  /-- The columns taken by the markers of containers before `start`. -/
  base : Nat
  deriving Inhabited

namespace Line

/-- The position of the first character after the indentation. -/
def first (l : Line) : Nat := l.start + l.shift

/-- Whether nothing but indentation is left of a line. -/
def isEmpty (l : Line) : Bool := l.stop ≤ l.first

/-- The column after a space or a tab at a column; tab stops are four columns apart. -/
def columnAfter (c : Char) (column : Nat) : Nat :=
  if c == '\t' then column + (4 - column % 4) else column + 1

/-- The lines of the text `cs` that starts at position `pos`.  The current line starts at `start`;
`indented` says that only indentation has been read of it, of `shift` characters and `indent`
columns.  Indentation at the very end of the text is no line. -/
def layoutFrom (pos start shift indent : Nat) (indented : Bool) : List Char → List Line
  | [] => []
  | c :: cs =>
    if indented && isSpace c then
      layoutFrom (pos + 1) start (shift + 1) (columnAfter c indent) true cs
    else if c == '\n' then
      ⟨start, pos, shift, indent, 0⟩ :: layoutFrom (pos + 1) (pos + 1) 0 0 true cs
    else if cs.isEmpty then [⟨start, pos + 1, shift, indent, 0⟩]
    else layoutFrom (pos + 1) start shift indent false cs

/-- The lines of a source text. -/
def layout (src : Source) : Array Line := (layoutFrom 0 0 0 0 true src.toList).toArray

end Line

/-- What a container gives to the blocks inside it. -/
structure Scope where
  /-- The source text. -/
  src : Source
  /-- The lines, as the container sees them. -/
  lines : Array Line
  /-- The number of lines that a paragraph may run over. -/
  limit : Nat
  /-- The indentation that content has to have. -/
  indent : Int
  /-- The indentation of the list around the current item, or -1. -/
  listIndent : Int
  /-- How deep the container is nested. -/
  level : Nat

namespace Scope

/-- A line; beyond the last one there is an empty line. -/
def line (s : Scope) (n : Nat) : Line := s.lines.getD n ⟨s.src.size, s.src.size, 0, 0, 0⟩

/-- Replaces a line. -/
def setLine (s : Scope) (n : Nat) (l : Line) : Scope :=
  { s with lines := s.lines.setIfInBounds n l }

/-- Whether a line is empty. -/
def isEmpty (s : Scope) (n : Nat) : Bool := (s.line n).isEmpty

/-- Whether a line is indented far enough to be code. -/
def isCode (s : Scope) (n : Nat) : Bool := 4 ≤ (s.line n).indent - s.indent

/-- The first line from `n` on that is not empty, at most the limit. -/
def skipEmpty (s : Scope) (n : Nat) : Nat :=
  if n < s.limit then
    if s.isEmpty n then skipEmpty s (n + 1) else n
  else n
termination_by s.limit - n

/-- The text of a line after its indentation. -/
def text (s : Scope) (n : Nat) : List Char :=
  let l := s.line n
  s.src.slice l.first l.stop

/-- The character at the first position of a line that is not indentation. -/
def firstChar? (s : Scope) (n : Nat) : Option Char :=
  let l := s.line n
  s.src[l.first]?

/-- Skips the indentation of a line from position `pos` on, until `column` has reached `indent` or
the indentation ends: the position and the column reached. -/
def cut (src : Source) (l : Line) (indent last : Nat) (pos column : Nat) : Nat × Nat :=
  if pos < last && column < indent then
    match src[pos]? with
    | some c =>
      if c == '\t' then cut src l indent last (pos + 1) (column + (4 - (column + l.base) % 4))
      else if c == ' ' || pos - l.start < l.shift then
        cut src l indent last (pos + 1) (column + 1)
      else (pos, column)
    | none => (pos, column)
  else (pos, column)
termination_by last - pos
decreasing_by
  all_goals simp_all
  all_goals omega

/-- The text of a line without `indent` columns of indentation, up to position `last`.  A tab that
reaches further leaves spaces. -/
def cutText (s : Scope) (l : Line) (indent last : Nat) : List Char :=
  let (pos, column) := cut s.src l indent last l.start 0
  List.replicate (column - indent) ' ' ++ s.src.slice pos last

/-- The text of the lines from `n` on, `count` of them, each without `indent` columns of
indentation.  The last line keeps its line ending if `keepLast` holds. -/
def cutLines (s : Scope) (indent : Nat) (keepLast : Bool) (n : Nat) : Nat → List Char
  | 0 => []
  | count + 1 =>
    let l := s.line n
    let last := if count != 0 || keepLast then l.stop + 1 else l.stop
    cutText s l indent last ++ cutLines s indent keepLast (n + 1) count

/-- Whether the source ends while `indent` columns of indentation are skipped on a line. -/
def runsOut (s : Scope) (n : Nat) (indent : Int) : Bool :=
  let l := s.line n
  let (pos, column) := cut s.src l indent.toNat (l.stop + 1) l.start 0
  s.src.size ≤ pos && column < indent.toNat

/-- The text of the lines from `first` to before `stop`. -/
def textOf (s : Scope) (first stop : Nat) (indent : Int) (keepLast : Bool) : List Char :=
  cutLines s indent.toNat keepLast first (stop - first)

end Scope

end ElementCode.Markdown
