import ElementCode.Markdown.Entity
import ElementCode.Text.Blank
import ElementCode.Text.CaseFold
import ElementCode.Url.Parts

/-!
# Link destinations, titles and labels

The grammar shared by inline links and link reference definitions.  A destination is written in
angle brackets or without blanks and with balanced parentheses; a title stands in quotes or
parentheses; a label is compared without regard to case and to the amount of white space.
-/

namespace ElementCode.Markdown

/-- What a link points to and the title it shows. -/
structure LinkTarget where
  /-- The destination, normalised. -/
  href : String
  /-- The title, empty when there is none. -/
  title : String
  deriving Inhabited

/-- The destination up to the closing angle bracket, and the rest after it. -/
def bracketed (done : List Char) : List Char → Option (List Char × List Char)
  | [] => none
  | '>' :: rest => some (done.reverse, rest)
  | '\\' :: c :: rest => bracketed (c :: '\\' :: done) rest
  | c :: rest => if c == '\n' || c == '<' then none else bracketed (c :: done) rest

/-- The destination up to a blank, a control character or an unbalanced parenthesis, and the rest;
`depth` counts the open parentheses, at most 32. -/
def unbracketed (depth : Nat) (done : List Char) : List Char → Option (List Char × List Char)
  | '\\' :: ' ' :: rest => finish ('\\' :: ' ' :: rest)
  | '\\' :: c :: rest => unbracketed depth (c :: '\\' :: done) rest
  | '(' :: rest => if depth < 32 then unbracketed (depth + 1) ('(' :: done) rest else none
  | ')' :: rest =>
    match depth with
    | 0 => finish (')' :: rest)
    | depth + 1 => unbracketed depth (')' :: done) rest
  | c :: rest =>
    if c.toNat ≤ 0x20 || c.toNat == 0x7F then finish (c :: rest)
    else unbracketed depth (c :: done) rest
  | [] => finish []
where
  /-- The destination ends before `rest`. -/
  finish (rest : List Char) : Option (List Char × List Char) :=
    if done.isEmpty || depth != 0 then none else some (done.reverse, rest)

/-- The destination at the start of a text, its escapes replaced, and the rest. -/
def destination? (cs : List Char) : Option (List Char × List Char) :=
  let found := match cs with
    | '<' :: rest => bracketed [] rest
    | cs => unbracketed 0 [] cs
  found.map fun (raw, rest) => (resolve raw, rest)

/-- What the scan of a title finds. -/
inductive TitleScan where
  /-- No title starts here. -/
  | absent
  /-- The whole title, and the rest after it. -/
  | closed (title rest : List Char)
  /-- The text ends inside the title, which ends with `closer`. -/
  | unclosed (closer : Char) (title : List Char)

/-- The title up to `closer`; `before` holds the part on earlier lines. -/
def titleBody (closer : Char) (before done : List Char) : List Char → TitleScan
  | [] => .unclosed closer (before ++ resolve done.reverse)
  | '\\' :: c :: rest => titleBody closer before (c :: '\\' :: done) rest
  | c :: rest =>
    if c == closer then .closed (before ++ resolve done.reverse) rest
    else if c == '(' && closer == ')' then .absent
    else titleBody closer before (c :: done) rest

/-- The title at the start of a text. -/
def titleScan : List Char → TitleScan
  | '"' :: rest => titleBody '"' [] [] rest
  | '\'' :: rest => titleBody '\'' [] [] rest
  | '(' :: rest => titleBody ')' [] [] rest
  | _ => .absent

/-- The normal form of a link label. -/
def normalLabel (cs : List Char) : String :=
  String.ofList ((Text.collapseBy Text.isGap (Text.trimBy Text.isGap cs)).flatMap Text.foldChar)

/-- A destination as an attribute shows it, if it may be linked to. -/
def allowed? (raw : List Char) : Option (List Char) :=
  let href := Url.normalize raw
  if Url.isAllowed href then some href else none

end ElementCode.Markdown
