import ElementCode.Text.Hex
import ElementCode.Value.Display
import ElementCode.Yaml.Tag

/-!
# Writing YAML

Values are written in block style, with two columns for each level; the items of a sequence under
a key start in the column of the key.  A text is written plain where it reads back as itself, else
in single quotes, and in double quotes where it holds characters that need an escape.  A line is
broken at a space once it is longer than eighty columns.
-/

namespace ElementCode.Yaml

/-- The column after which a line is broken. -/
def lineWidth : Nat := 80

/-! ## Styles -/

/-- A line break. -/
def isBreak (c : Char) : Bool := c == '\n' || c == '\u0085' || c == '\u2028' || c == '\u2029'

/-- The white space that makes an indicator special beside it. -/
def isGap (c : Char) : Bool := c.toNat == 0 || c == ' ' || c == '\t' || c == '\r' || isBreak c

/-- A character that can stand in a text without an escape. -/
def isWritable (c : Char) : Bool :=
  let n := c.toNat
  n == 0x0A || (0x20 ≤ n && n ≤ 0x7E) || n == 0x85 ||
    (((0xA0 ≤ n && n ≤ 0xD7FF) || (0xE000 ≤ n && n ≤ 0xFFFD) || (0x10000 ≤ n && n < 0x10FFFF)) &&
      n != 0xFEFF)

/-- Whether two characters in order stand side by side in a text. -/
def hasPair (p q : Char → Bool) : List Char → Bool
  | a :: b :: cs => (p a && q b) || hasPair p q (b :: cs)
  | _ => false

/-- Whether the start of a text would be read as something else. -/
def startsSpecial (cs : List Char) : Bool :=
  cs.take 3 == "---".toList || cs.take 3 == "...".toList ||
    match cs with
    | c :: rest =>
      "#,[]\x7b\x7d&*!|>'\"%@`".toList.contains c ||
        ((c == '?' || c == ':' || c == '-') && rest.head?.all isGap)
    | [] => false

/-- Whether an indicator inside a text would be read as one: a colon before white space or at the
end, or a number sign after white space. -/
def holdsIndicator (cs : List Char) : Bool :=
  cs.getLast? == some ':' || hasPair (· == ':') isGap cs || hasPair isGap (· == '#') cs

/-- The ways to write a text. -/
inductive Style where
  | plain | single | double
  deriving DecidableEq, Repr

/-- Whether a text can be written plain. -/
def allowsPlain (cs : List Char) : Bool :=
  Tag.ofPlain cs == .str && cs.head? != some ' ' && cs.getLast? != some ' ' &&
    !cs.any isBreak && cs.all isWritable && !startsSpecial cs && !holdsIndicator cs

/-- Whether a text can be written in single quotes. -/
def allowsSingle (cs : List Char) : Bool :=
  cs.all isWritable && !hasPair isBreak (· == ' ') cs && !hasPair (· == ' ') isBreak cs

/-- How a text is written; a key stands on one line. -/
def Style.choose (key : Bool) (cs : List Char) : Style :=
  if allowsPlain cs then plain
  else if allowsSingle cs && !(key && cs.any isBreak) then single
  else double

/-! ## Scalars -/

/-- A line break and the indentation of the next line. -/
def newLine (indent : Nat) : List Char := '\n' :: List.replicate indent ' '

/-- A plain text from a column on; a single space past the width is a line break. -/
def plainBody (fold : Bool) (indent column : Nat) (cs : List Char) : List Char :=
  match cs with
  | [] => []
  | c :: rest =>
    if c == ' ' then
      let spaces := rest.takeWhile (· == ' ')
      let after := rest.dropWhile (· == ' ')
      if fold && spaces.isEmpty && lineWidth < column then
        newLine indent ++ plainBody fold indent indent after
      else
        c :: spaces ++ plainBody fold indent (column + 1 + spaces.length) after
    else c :: plainBody fold indent (column + 1) rest
termination_by cs.length
decreasing_by
  all_goals simp only [List.length_cons]
  · have := (List.dropWhile_sublist (· == ' ') (l := rest)).length_le; omega
  · have := (List.dropWhile_sublist (· == ' ') (l := rest)).length_le; omega
  · omega

/-- A text in single quotes from a column on: a quote is written twice, and a run of line breaks
that starts with a line feed gets one more.  `first` says that nothing has been written. -/
def singleBody (fold first : Bool) (indent column : Nat) (cs : List Char) : List Char :=
  match cs with
  | [] => []
  | c :: rest =>
    if c == ' ' then
      let spaces := rest.takeWhile (· == ' ')
      let after := rest.dropWhile (· == ' ')
      if fold && spaces.isEmpty && lineWidth < column && !first && !after.isEmpty then
        newLine indent ++ singleBody fold false indent indent after
      else
        c :: spaces ++ singleBody fold false indent (column + 1 + spaces.length) after
    else if isBreak c then
      let breaks := rest.takeWhile isBreak
      let after := rest.dropWhile isBreak
      (if c == '\n' then ['\n'] else []) ++ c :: breaks ++ List.replicate indent ' ' ++
        singleBody fold false indent indent after
    else if c == '\'' then c :: c :: singleBody fold false indent (column + 2) rest
    else c :: singleBody fold false indent (column + 1) rest
termination_by cs.length
decreasing_by
  all_goals simp only [List.length_cons]
  · have := (List.dropWhile_sublist (· == ' ') (l := rest)).length_le; omega
  · have := (List.dropWhile_sublist (· == ' ') (l := rest)).length_le; omega
  · have := (List.dropWhile_sublist isBreak (l := rest)).length_le; omega
  · omega
  · omega

/-- The escape of a character in double quotes, if it needs one. -/
def escape? (c : Char) : Option (List Char) :=
  let n := c.toNat
  let short : List (Nat × Char) :=
    [(0, '0'), (7, 'a'), (8, 'b'), (9, 't'), (10, 'n'), (11, 'v'), (12, 'f'), (13, 'r'), (27, 'e'),
      (0x22, '"'), (0x5C, '\\'), (0x85, 'N'), (0x2028, 'L'), (0x2029, 'P')]
  match short.find? (·.1 == n) with
  | some (_, letter) => some ['\\', letter]
  | none =>
    if n != 0xFEFF && ((0x20 ≤ n && n ≤ 0x7E) || (0xA0 ≤ n && n ≤ 0xD7FF) ||
        (0xE000 ≤ n && n ≤ 0xFFFD)) then none
    else if n ≤ 0xFF then some ('\\' :: 'x' :: Text.hexPad true 2 n)
    else if n ≤ 0xFFFF then some ('\\' :: 'u' :: Text.hexPad true 4 n)
    else some ('\\' :: 'U' :: Text.hexPad true 8 n)

/-- A text in double quotes.  `pending` holds, in reverse, what has been read and not yet written,
`column` is where it goes; `first` says that nothing has been read.  Past the width the line is
broken before a space or after an escape, with a backslash on both sides of the break if a space
follows. -/
def doubleBody (fold first : Bool) (indent column : Nat) (pending : List Char) :
    List Char → List Char
  | [] => pending.reverse
  | c :: rest =>
    let inside := fold && !first && !rest.isEmpty
    let broken (next : Option Char) : List Char × Nat :=
      if next == some ' ' then ('\\' :: newLine indent ++ ['\\'], indent + 1)
      else ('\\' :: newLine indent, indent)
    match escape? c with
    | some escape =>
      let column := column + pending.length + escape.length
      let written := pending.reverse ++ escape
      if inside && lineWidth + 1 < column then
        let (line, column) := broken rest.head?
        written ++ line ++ doubleBody fold false indent column [] rest
      else written ++ doubleBody fold false indent column [] rest
    | none =>
      if inside && (c == ' ' || pending.isEmpty) && lineWidth < column + pending.length then
        let (line, column) := broken (some c)
        pending.reverse ++ line ++ doubleBody fold false indent column [c] rest
      else doubleBody fold false indent column (c :: pending) rest

/-- A text from a column on, with the indentation of its further lines. -/
def scalar (key : Bool) (indent column : Nat) (s : String) : String :=
  let cs := s.toList
  String.ofList <| match Style.choose key cs with
    | .plain => plainBody (!key) indent column cs
    | .single => '\'' :: singleBody (!key) true indent (column + 1) cs ++ ['\'']
    | .double => '"' :: doubleBody (!key) true indent (column + 1) [] cs ++ ['"']

/-- A number with a point; a point is added to an exponent without one. -/
def number (x : Float) : String :=
  if x.isNaN then ".nan"
  else if x.isInf then if x < 0.0 then "-.inf" else ".inf"
  else
    let s := Display.float x
    if s.contains '.' then s
    else
      let whole := s.toList.takeWhile (· != 'e')
      let exponent := s.toList.dropWhile (· != 'e')
      if exponent.isEmpty then s else String.ofList (whole ++ ['.', '0'] ++ exponent)

/-! ## Blocks -/

/-- Whether a key stands on the line of its value: it is short, not empty and on one line. -/
def isSimpleKey (s : String) : Bool :=
  !s.isEmpty && s.length ≤ 122 && !s.toList.any isBreak

/-- Puts texts on lines of their own in a column, the first one where it stands. -/
def lines (indent : Nat) (texts : List String) : String :=
  (String.ofList (newLine indent)).intercalate texts

mutual

/-- A value from a column on, its further lines at an indentation.  `indent` is that of a scalar's
further lines, and the column of the entries of a mapping or sequence. -/
def node (indent column : Nat) : Value → String
  | .null => "null"
  | .bool b => if b then "true" else "false"
  | .int n => toString n
  | .float x => number x
  | .str s => scalar false indent column s
  | .list items | .tuple items | .set items =>
    if items.isEmpty then "[]" else lines indent (nodeItems indent items)
  | .dict entries =>
    if entries.isEmpty then "\x7b\x7d" else lines indent (nodeEntries indent entries)
  | v => scalar false indent column v.text

/-- The items of a sequence in a column. -/
def nodeItems (indent : Nat) : List Value → List String
  | [] => []
  | v :: rest => ("- " ++ node (indent + 2) (indent + 2) v) :: nodeItems indent rest

/-- The entries of a mapping in a column. -/
def nodeEntries (indent : Nat) : List (Value × Value) → List String
  | [] => []
  | (k, v) :: rest =>
    let name := k.text
    (if isSimpleKey name then
      let key := scalar true (indent + 2) indent name ++ ":"
      match v with
      | .list (item :: items) =>
        key ++ String.ofList (newLine indent) ++ node indent indent (.list (item :: items))
      | .dict (entry :: entries) =>
        key ++ String.ofList (newLine (indent + 2)) ++
          node (indent + 2) (indent + 2) (.dict (entry :: entries))
      | v => key ++ " " ++ node (indent + 2) (indent + key.length + 1) v
    else
      "? " ++ scalar false (indent + 2) (indent + 2) name ++ String.ofList (newLine indent) ++
        ": " ++ node (indent + 2) (indent + 2) v) :: nodeEntries indent rest

end

/-- A value as a YAML document. -/
def write (v : Value) : String := node 0 0 v ++ "\n"

end ElementCode.Yaml
