import ElementCode.Markdown.Line
import ElementCode.Markdown.Link

/-!
# Link reference definitions and footnote labels

A definition may run over several lines of what would otherwise be a paragraph.  It is read
through a cursor that holds what is left of the lines fetched so far and the lines that can still
be fetched; a line is fetched when a line ending is passed.
-/

namespace ElementCode.Markdown

/-- What a document defines for use elsewhere in it. -/
structure Definitions where
  /-- The targets of link labels in normal form; the first definition of a label counts. -/
  links : List (String × LinkTarget) := []
  /-- The labels of footnotes. -/
  notes : List String := []
  deriving Inhabited

namespace Definitions

/-- The target of a label in normal form. -/
def link? (d : Definitions) (label : String) : Option LinkTarget :=
  (d.links.find? (·.1 == label)).map (·.2)

/-- Adds a definition unless the label has one. -/
def addLink (d : Definitions) (label : String) (target : LinkTarget) : Definitions :=
  if (d.link? label).isSome then d else { d with links := d.links ++ [(label, target)] }

/-- Adds the label of a footnote. -/
def addNote (d : Definitions) (label : String) : Definitions :=
  if d.notes.contains label then d else { d with notes := d.notes ++ [label] }

end Definitions

/-- A place in a text of several lines. -/
structure Cursor where
  /-- What is left of the lines fetched so far. -/
  rest : List Char
  /-- The lines that can be fetched. -/
  more : List (List Char)

namespace Cursor

/-- Skips blanks and line endings. -/
def skipBlanks (rest : List Char) (more : List (List Char)) : Cursor :=
  match rest with
  | [] => ⟨[], more⟩
  | c :: after =>
    if c == '\n' then
      match more with
      | [] => skipBlanks after []
      | l :: more => skipBlanks (after ++ l) more
    else if isSpace c then skipBlanks after more
    else ⟨c :: after, more⟩
termination_by (more.length, rest.length)

/-- The label up to its closing bracket, after its opening one, and the cursor after it. -/
def label? (done rest : List Char) (more : List (List Char)) : Option (List Char × Cursor) :=
  match rest with
  | [] => none
  | c :: after =>
    if c == '[' then none
    else if c == ']' then some (done.reverse, ⟨after, more⟩)
    else if c == '\n' then
      match more with
      | [] => label? (c :: done) after []
      | l :: more => label? (c :: done) (after ++ l) more
    else if c == '\\' then
      match after with
      | [] => none
      | d :: after =>
        if d == '\n' then
          match more with
          | [] => label? (d :: c :: done) after []
          | l :: more => label? (d :: c :: done) (after ++ l) more
        else label? (d :: c :: done) after more
    else label? (c :: done) after more
termination_by (more.length, rest.length)

/-- The title at a cursor, which may go on over the lines that can be fetched. -/
def title? (closer : Char) (before : List Char) : List (List Char) → Option (List Char × Cursor)
  | [] => none
  | l :: more =>
    match titleBody closer before [] l with
    | .closed title rest => some (title, ⟨rest, more⟩)
    | .unclosed _ title => title? closer title more
    | .absent => none

end Cursor

/-- A link reference definition. -/
structure LinkDefinition where
  /-- The label in normal form. -/
  label : String
  /-- The target. -/
  target : LinkTarget
  /-- How many of the lines that could be fetched it did not need. -/
  unread : Nat

/-- Whether only blanks are left of a line. -/
def endsLine (rest : List Char) : Bool :=
  match rest.dropWhile isSpace with
  | [] => true
  | c :: _ => c == '\n'

/-- The title after a destination, with the cursor after it.  It has to be the last thing on its
line, and to be set apart by blanks unless it runs over several lines. -/
def definitionTitle? (after : Cursor) : Option (List Char × Cursor) :=
  let c := Cursor.skipBlanks after.rest after.more
  let apart := c.rest.length != after.rest.length || c.more.length != after.more.length
  let found : Option (List Char × Cursor) := match titleScan c.rest with
    | .closed title rest => if apart then some (title, ⟨rest, c.more⟩) else none
    | .unclosed closer title => Cursor.title? closer title c.more
    | .absent => none
  found.filter fun (title, c) => title.isEmpty || endsLine c.rest

/-- Reads a link reference definition; `first` is its first line, `more` are the lines that may
continue it. -/
def linkDefinition? (first : List Char) (more : List (List Char)) : Option LinkDefinition :=
  match first with
  | '[' :: rest => do
    let (label, c) ← Cursor.label? [] rest more
    match c.rest with
    | ':' :: rest =>
      let c := Cursor.skipBlanks rest c.more
      let (raw, rest) ← destination? c.rest
      let href ← allowed? raw
      let after : Cursor := ⟨rest, c.more⟩
      let (title, c) := (definitionTitle? after).getD ([], after)
      let name := normalLabel label
      if endsLine c.rest && !name.isEmpty then
        return ⟨name, ⟨String.ofList href, String.ofList title⟩, c.more.length⟩
      else none
    | _ => none
  | _ => none

/-- The label of the footnote that a line defines, and how many characters take it and the colon
after it. -/
def footnoteLabel? (text : List Char) : Option (List Char × Nat) :=
  match text with
  | '[' :: '^' :: rest =>
    let label := rest.takeWhile fun c => !(c == ' ' || c == ']')
    match label, rest.drop label.length with
    | [], _ => none
    | label, ']' :: ':' :: _ => some (label, label.length + 4)
    | _, _ => none
  | _ => none

end ElementCode.Markdown
