import ElementCode.Markup.Token

/-!
# Footnotes in use

Footnotes are numbered in the order in which the running text first refers to them.  A footnote is
either defined elsewhere under a label or written where it is used.
-/

namespace ElementCode.Markdown

open Markup (Token)

/-- A footnote that is used. -/
inductive Note where
  /-- A footnote defined under a label, with the number of references to it. -/
  | labelled (label : String) (count : Nat)
  /-- A footnote written where it is used. -/
  | written (children : List Token)
  deriving Inhabited

/-- The footnotes used so far. -/
structure Notes where
  /-- The numbers of the labels referred to. -/
  ids : List (String × Nat) := []
  /-- The footnotes by number. -/
  list : Array Note := #[]
  deriving Inhabited

namespace Notes

/-- Refers to a label: the number of its footnote, and how many references came before. -/
def refer (n : Notes) (label : String) : Nat × Nat × Notes :=
  match n.ids.find? (·.1 == label) with
  | none =>
    let id := n.list.size
    (id, 0, { n with ids := n.ids ++ [(label, id)], list := n.list.push (.labelled label 1) })
  | some (_, id) =>
    match n.list[id]? with
    | some (.labelled label count) =>
      (id, count, { n with list := n.list.setIfInBounds id (.labelled label (count + 1)) })
    | _ => (id, 0, n)

/-- Takes the next number for a footnote that is written where it is used, before its content is
read. -/
def reserve (n : Notes) : Nat × Notes :=
  (n.list.size, { n with list := n.list.push (.written []) })

/-- Gives a footnote its content. -/
def fill (n : Notes) (id : Nat) (children : List Token) : Notes :=
  { n with list := n.list.setIfInBounds id (.written children) }

end Notes

end ElementCode.Markdown
