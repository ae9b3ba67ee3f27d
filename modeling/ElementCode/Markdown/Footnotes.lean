import ElementCode.Markdown.Note

/-!
# The footnote section

Definitions of footnotes are taken out of the stream of blocks, and the footnotes that are used
are put into a section at its end, in the order of their numbers.  Each ends with a link back to
every place that refers to it, inside its last paragraph if it ends with one.
-/

namespace ElementCode.Markdown

open Markup (Token Kind)

/-- The stream apart from the definitions, and the definitions met. -/
structure Sorted where
  /-- The tokens outside definitions. -/
  body : Array Token := #[]
  /-- The content of the definitions by label; a later one counts. -/
  notes : List (String × List Token) := []
  /-- The label of the definition that was opened last. -/
  label : String := ""
  /-- What that definition holds so far. -/
  content : Array Token := #[]
  /-- Whether the place is inside a definition. -/
  inside : Bool := false

/-- Takes one token into account.  A definition ends at the first closing token, also when another
one has been opened inside it. -/
def Sorted.step (s : Sorted) (t : Token) : Sorted :=
  match t.kind with
  | .footnoteReferenceOpen =>
    let label := match Value.field "label" t.data with
      | some (.str label) => label
      | _ => ""
    { s with label, content := #[], inside := true }
  | .footnoteReferenceClose =>
    { s with notes := (s.label, s.content.toList) :: s.notes, inside := false }
  | _ =>
    if s.inside then { s with content := s.content.push t } else { s with body := s.body.push t }

/-- The links back from a footnote. -/
def anchors (id count : Nat) (label : Value) : List Token :=
  (List.range count).map fun (subId : Nat) =>
    { kind := .footnoteAnchor, data := [("id", .int id), ("subId", .int subId), ("label", label)] }

/-- A footnote in the section. -/
def footnoteTokens (defined : List (String × List Token)) (id : Nat) (note : Note) : List Token :=
  let (label, count, content) : Value × Nat × List Token := match note with
    | .labelled label count =>
      (.str label, max 1 count, ((defined.find? (·.1 == label)).map (·.2)).getD [])
    | .written children =>
      (.null, 1, [{ kind := .paragraphOpen, tag := "p" }, { kind := .inline, children },
        { kind := .paragraphClose, tag := "p" }])
  let links := anchors id count label
  let content := match content.getLast? with
    | some last =>
      if last.kind == .paragraphClose then content.dropLast ++ links ++ [last]
      else content ++ links
    | none => links
  { kind := .footnoteOpen, data := [("id", .int id), ("label", label)] } ::
    (content ++ [{ kind := .footnoteClose }])

/-- Moves the footnotes to the end of a stream. -/
def withFootnotes (tokens : List Token) (notes : Notes) : List Token :=
  let sorted := tokens.foldl Sorted.step {}
  let body := sorted.body.toList
  if notes.list.isEmpty then body
  else
    let items := (notes.list.toList.zipIdx).flatMap fun (note, id) =>
      footnoteTokens sorted.notes id note
    body ++ [({ kind := .footnoteBlockOpen } : Token)] ++ items ++ [{ kind := .footnoteBlockClose }]

end ElementCode.Markdown
