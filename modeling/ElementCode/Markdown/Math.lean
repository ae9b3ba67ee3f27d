import ElementCode.Text.Blank

/-!
# Formulas between dollar signs

A formula in running text stands between single dollar signs; it neither starts nor ends with
white space and does not end with a backslash.  A displayed formula stands between pairs of dollar
signs at the start of a line and may be numbered by a label in parentheses.
-/

namespace ElementCode.Markdown

/-- A formula in running text of at least two characters, after its dollar sign and first
character: the other characters. -/
def formulaRest (done : List Char) : List Char → Option (List Char)
  | d :: '$' :: rest =>
    if !Text.isBlank d && d != '\\' then some (d :: done).reverse
    else if d == '$' then none
    else formulaRest (d :: done) ('$' :: rest)
  | d :: rest => if d == '$' then none else formulaRest (d :: done) rest
  | [] => none

/-- Whether a character may stand next to a dollar sign outside a formula. -/
def notDigit : Option Char → Bool
  | some c => !('0' ≤ c && c ≤ '9')
  | none => true

/-- A formula of at least two characters, from its dollar sign on. -/
def formula? (cs : List Char) : Option (List Char) :=
  match cs with
  | '$' :: c :: rest =>
    if Text.isBlank c then none
    else
      match formulaRest [] rest with
      | some body => if notDigit (rest.drop (body.length + 1)).head? then some (c :: body) else none
      | none => none
  | _ => none

/-- A formula of one character, from its dollar sign on. -/
def singleFormula? (cs : List Char) : Option Char :=
  match cs with
  | '$' :: c :: '$' :: rest =>
    if c == '$' || Text.isBlank c || c == '\\' then none
    else if notDigit rest.head? then some c else none
  | _ => none

/-- A displayed formula with its label, and how many characters it takes. -/
structure Display where
  /-- The formula. -/
  formula : List Char
  /-- The label in parentheses, for a numbered formula. -/
  label : Option (List Char)
  /-- The number of characters from the first dollar sign on. -/
  length : Nat

/-- The label after a displayed formula, with white space before it: the label and how many
characters it takes. -/
def formulaLabel? (cs : List Char) : Option (List Char × Nat) :=
  let blanks := cs.takeWhile Text.isBlank
  match cs.drop blanks.length with
  | '(' :: rest =>
    let label := rest.takeWhile fun c => !(c == ')' || c == '$' || c == '\r' || c == '\n')
    match label, rest.drop label.length with
    | [], _ => none
    | label, ')' :: _ => some (label, blanks.length + label.length + 2)
    | _, _ => none
  | _ => none

/-- The displayed formula at the start of a text. -/
def display? (cs : List Char) : Option Display :=
  match cs with
  | '$' :: '$' :: rest =>
    let formula := rest.takeWhile (· != '$')
    match rest.drop formula.length with
    | '$' :: '$' :: after =>
      match formulaLabel? after with
      | some (label, n) => some ⟨formula, some label, formula.length + 4 + n⟩
      | none => some ⟨formula, none, formula.length + 4⟩
    | _ => none
  | _ => none

end ElementCode.Markdown
