import ElementCode.Code
import ElementCode.Proofs.LiteralForms

/-!
# Printed code as marks and literals

Printed code is a sequence of *pieces*: single characters outside of literals, called marks, and
whole literals.  `Code.pieces` gives the pieces of a call and `text_pieces` says that their text is
what the printer writes.

A text argument escapes quotes but not backslashes, so a quote after a backslash may be part of
the content or end the literal, and no reading from the front can tell which.  From the end there
is no such doubt.  The last quote of the code closes a literal; inside a literal every quote of the
content comes right after a backslash, and a quote that opens a literal never does.  `readBack`
reads in this direction, and it recovers the pieces from their text (`readBack_text`), so a text
has one division into pieces (`text_injective`).
-/

namespace ElementCode

/-- A piece of printed code: a character outside of literals, or the body of a literal. -/
inductive Piece where
  | mark (c : Char)
  | literal (body : List Char)
  deriving DecidableEq, Repr

namespace Piece

/-- The characters of a piece; a literal stands between quotes. -/
def chars : Piece → List Char
  | mark c => [c]
  | literal body => '"' :: (body ++ ['"'])

/-- The text of a sequence of pieces. -/
def text (ps : List Piece) : List Char := ps.flatMap chars

/-- Characters as marks. -/
def marks (cs : List Char) : List Piece := cs.map mark

@[simp] lemma text_nil : text [] = [] := rfl

@[simp] lemma text_mark_cons (c : Char) (ps : List Piece) : text (mark c :: ps) = c :: text ps := by
  rw [text, List.flatMap_cons, chars, List.singleton_append, text]

@[simp] lemma text_literal_cons (body : List Char) (ps : List Piece) :
    text (literal body :: ps) = '"' :: (body ++ '"' :: text ps) := by
  rw [text, List.flatMap_cons, chars, List.cons_append, List.append_assoc, List.singleton_append,
    text]

@[simp] lemma text_append (ps qs : List Piece) : text (ps ++ qs) = text ps ++ text qs :=
  List.flatMap_append

@[simp] lemma text_marks (cs : List Char) : text (marks cs) = cs := by
  induction cs with
  | nil => rfl
  | cons c cs ih => rw [marks, List.map_cons, text_mark_cons, ← marks, ih]

@[simp] lemma marks_nil : marks [] = [] := rfl

@[simp] lemma marks_cons (c : Char) (cs : List Char) : marks (c :: cs) = mark c :: marks cs := rfl

end Piece

/-! ## Bodies whose quotes come after a backslash -/

namespace Literal

/-- Every quote of a body comes right after a backslash. -/
inductive Guarded : List Char → Prop
  | nil : Guarded []
  | plain {c : Char} {body : List Char} (hc : c ≠ '"') (h : Guarded body) : Guarded (c :: body)
  | quote {body : List Char} (h : Guarded body) : Guarded ('\\' :: '"' :: body)

lemma Guarded.append {a b : List Char} (ha : Guarded a) (hb : Guarded b) : Guarded (a ++ b) := by
  induction ha with
  | nil => exact hb
  | plain hc _ ih => exact .plain hc ih
  | quote _ ih => exact .quote ih

lemma Guarded.of_notMem {cs : List Char} (h : '"' ∉ cs) : Guarded cs := by
  induction cs with
  | nil => exact .nil
  | cons c cs ih =>
    rw [List.mem_cons, not_or] at h
    exact .plain (Ne.symm h.1) (ih h.2)

lemma Guarded.flatMap {f : Char → List Char} (hf : ∀ c, Guarded (f c)) (cs : List Char) :
    Guarded (cs.flatMap f) := by
  induction cs with
  | nil => exact .nil
  | cons c cs ih =>
    rw [List.flatMap_cons]
    exact (hf c).append ih

lemma guarded_textBody (cs : List Char) : Guarded (textBody cs) := by
  refine Guarded.flatMap (fun c => ?_) cs
  unfold textChar
  split_ifs with hc
  · exact .quote .nil
  · exact .plain (by simpa using hc) .nil

/-- A character that is no digit does not occur in a padded number. -/
lemma notMem_hexPad {c : Char} (hc : ∀ d < 16, Text.hexDigit true d ≠ c) (width n : Nat) :
    c ∉ Text.hexPad true width n := by
  induction width generalizing n with
  | zero => simp [Text.hexPad]
  | succ width ih =>
    rw [Text.hexPad, List.mem_append, not_or, List.mem_singleton]
    exact ⟨ih _, (hc (n % 16) (Nat.mod_lt n (by decide))).symm⟩

lemma guarded_quotedBody (cs : List Char) : Guarded (quotedBody cs) := by
  refine Guarded.flatMap (fun c => ?_) cs
  unfold quotedChar
  split_ifs with _ hquote
  · exact .plain (by decide) (.plain (by decide) .nil)
  · exact .quote .nil
  · exact .of_notMem (by decide)
  · exact .of_notMem (by decide)
  · exact .of_notMem (by decide)
  · exact .of_notMem (by decide)
  · exact .of_notMem (by simp [notMem_hexPad (c := '"') (by decide)])
  · exact .plain (by simpa using hquote) .nil

end Literal

/-! ## Reading from the end -/

namespace Piece

/-- Reads a reversed text.  Inside of a literal, `inside` holds the part of its body that has been
read; `after` holds the pieces that follow.  A quote opens the literal unless the character before
it is a backslash. -/
def readBack (inside : Option (List Char)) (after : List Piece) : List Char → Option (List Piece)
  | [] =>
    match inside with
    | none => some after
    | some _ => none
  | c :: before =>
    match inside with
    | none =>
      if c = '"' then readBack (some []) after before else readBack none (mark c :: after) before
    | some body =>
      if c = '"' ∧ before.head? ≠ some '\\' then readBack none (literal body :: after) before
      else readBack (some (c :: body)) after before

/-- A piece whose place in a text can be seen from the end: a mark is neither a quote nor a
backslash, and the quotes of a literal come after a backslash. -/
def Legible : Piece → Prop
  | mark c => c ≠ '"' ∧ c ≠ '\\'
  | literal body => Literal.Guarded body

lemma readBack_guarded {body : List Char} (hbody : Literal.Guarded body) (read : List Char)
    (after : List Piece) (before : List Char) :
    readBack (some read) after (body.reverse ++ before) =
      readBack (some (body ++ read)) after before := by
  induction hbody generalizing before with
  | nil => rfl
  | plain hc _ ih =>
    rw [List.reverse_cons, List.append_assoc, List.singleton_append, ih, readBack]
    rw [if_neg (fun h => hc h.1), List.cons_append]
  | quote _ ih =>
    rw [List.reverse_cons, List.reverse_cons, List.append_assoc, List.append_assoc,
      List.singleton_append, List.singleton_append, ih, readBack]
    rw [if_neg (fun h => h.2 rfl), readBack]
    rw [if_neg (fun h => absurd h.1 (by decide)), List.cons_append, List.cons_append]

/-- A literal is read as a whole when no backslash stands before it. -/
lemma readBack_literal {body : List Char} (hbody : Literal.Guarded body) (after : List Piece)
    {before : List Char} (hbefore : before.head? ≠ some '\\') :
    readBack none after ((literal body).chars.reverse ++ before) =
      readBack none (literal body :: after) before := by
  have hreverse : (literal body).chars.reverse ++ before =
      '"' :: (body.reverse ++ '"' :: before) := by
    simp [chars]
  rw [hreverse, readBack, if_pos rfl, readBack_guarded hbody, List.append_nil, readBack,
    if_pos ⟨rfl, hbefore⟩]

/-- Reading the text of legible pieces from its end gives the pieces back. -/
lemma readBack_text {ps : List Piece} (hps : ∀ p ∈ ps, p.Legible) (after : List Piece)
    {before : List Char} (hbefore : before.head? ≠ some '\\') :
    readBack none after ((text ps).reverse ++ before) = readBack none (ps ++ after) before := by
  induction ps generalizing before with
  | nil => rfl
  | cons p ps ih =>
    have hp := hps p List.mem_cons_self
    have htail := fun q hq => hps q (List.mem_cons_of_mem _ hq)
    have hsplit : (text (p :: ps)).reverse ++ before =
        (text ps).reverse ++ (p.chars.reverse ++ before) := by
      rw [text, List.flatMap_cons, List.reverse_append, List.append_assoc, text]
    rw [hsplit]
    cases p with
    | mark c =>
      rw [ih htail (by simpa [chars] using hp.2), chars, List.reverse_singleton,
        List.singleton_append, readBack, if_neg hp.1, List.cons_append]
    | literal body =>
      rw [ih htail (by simp [chars]), readBack_literal hp _ hbefore, List.cons_append]

/-- A text has at most one division into legible pieces. -/
theorem text_injective {ps qs : List Piece} (hps : ∀ p ∈ ps, p.Legible)
    (hqs : ∀ q ∈ qs, q.Legible) (h : text ps = text qs) : ps = qs := by
  have hend : ([] : List Char).head? ≠ some '\\' := by simp
  have hp := readBack_text hps [] hend
  have hq := readBack_text hqs [] hend
  rw [h, hq] at hp
  simpa [readBack] using hp.symm

end Piece

/-! ## The pieces of a call -/

namespace Literal

/-- The pieces of one attribute. -/
def attributePieces (a : String × String) : List Piece :=
  Piece.marks ("attribute.".toList ++ a.1.toList) ++
    [.mark '(', .literal (quotedBody a.2.toList), .mark ')']

/-- The pieces of an attribute list. -/
def attributeListPieces (attributes : List (String × String)) : List Piece :=
  .mark '[' :: (attributes.flatMap attributePieces ++ [.mark ']'])

lemma text_attributePieces (a : String × String) :
    Piece.text (attributePieces a) = attributeCall a := by
  unfold attributePieces attributeCall quoted
  simp only [Piece.text_append, Piece.text_marks, Piece.text_mark_cons, Piece.text_literal_cons,
    Piece.text_nil, List.append_assoc, List.cons_append, List.nil_append]

lemma text_flatMap_attributePieces (attributes : List (String × String)) :
    Piece.text (attributes.flatMap attributePieces) = attributes.flatMap attributeCall := by
  induction attributes with
  | nil => rfl
  | cons a attributes ih =>
    rw [List.flatMap_cons, List.flatMap_cons, Piece.text_append, ih, text_attributePieces]

lemma text_attributeListPieces (attributes : List (String × String)) :
    Piece.text (attributeListPieces attributes) = attributeList attributes := by
  rw [attributeListPieces, attributeList, Piece.text_mark_cons, Piece.text_append,
    text_flatMap_attributePieces, Piece.text_mark_cons, Piece.text_nil]

end Literal

namespace Code

open Piece (marks)

/-- The constructor that a call names. -/
def callee (mode : PrefixMode) : Code → List Char
  | element tag _ _ => mode.qualifier ++ tag.toList
  | selfClosing tag _ => mode.qualifier ++ tag.toList
  | rawHtml _ _ _ _ => "element.unsafe_raw_html".toList
  | text _ => mode.qualifier ++ "text".toList

@[simp] lemma callee_element (mode : PrefixMode) (tag : String)
    (attributes : List (String × String)) (children : List Code) :
    (element tag attributes children).callee mode = mode.qualifier ++ tag.toList := rfl

@[simp] lemma callee_selfClosing (mode : PrefixMode) (tag : String)
    (attributes : List (String × String)) :
    (selfClosing tag attributes).callee mode = mode.qualifier ++ tag.toList := rfl

@[simp] lemma callee_rawHtml (mode : PrefixMode) (space tag : String)
    (attributes : List (String × String)) (content : String) :
    (rawHtml space tag attributes content).callee mode = "element.unsafe_raw_html".toList := rfl

@[simp] lemma callee_text (mode : PrefixMode) (content : String) :
    (text content).callee mode = mode.qualifier ++ "text".toList := rfl

mutual

/-- The pieces of a call after its opening parenthesis. -/
def argumentPieces (mode : PrefixMode) (depth : Int) : Code → List Piece
  | element _ attributes children =>
    Literal.attributeListPieces attributes ++ (marks ", [\n".toList ++
      (piecesAll mode (depth + 1) children ++ marks ('\n' :: (indent depth ++ "])".toList))))
  | selfClosing _ attributes => Literal.attributeListPieces attributes ++ [.mark ')']
  | rawHtml space tag attributes content =>
    .literal (Literal.quotedBody space.toList) :: (marks ", ".toList ++
      .literal (Literal.quotedBody tag.toList) :: (marks ", ".toList ++
        (Literal.attributeListPieces attributes ++ (marks ", ".toList ++
          [.literal (Literal.quotedBody content.toList), .mark ')']))))
  | text content => [.literal (Literal.textBody content.toList), .mark ')']

/-- The pieces of several calls at one depth. -/
def piecesAll (mode : PrefixMode) (depth : Int) : List Code → List Piece
  | [] => []
  | [c] => marks (indent depth ++ c.callee mode) ++ .mark '(' :: argumentPieces mode depth c
  | c :: d :: rest =>
    (marks (indent depth ++ c.callee mode) ++ .mark '(' :: argumentPieces mode depth c) ++
      (marks ",\n".toList ++ piecesAll mode depth (d :: rest))

end

/-- The pieces of a call. -/
def pieces (mode : PrefixMode) (depth : Int) (c : Code) : List Piece :=
  marks (indent depth ++ c.callee mode) ++ .mark '(' :: argumentPieces mode depth c

@[simp] lemma piecesAll_nil (mode : PrefixMode) (depth : Int) : piecesAll mode depth [] = [] := by
  rw [piecesAll]

lemma piecesAll_singleton (mode : PrefixMode) (depth : Int) (c : Code) :
    piecesAll mode depth [c] = pieces mode depth c := by
  rw [piecesAll, pieces]

lemma piecesAll_cons_cons (mode : PrefixMode) (depth : Int) (c d : Code) (rest : List Code) :
    piecesAll mode depth (c :: d :: rest) =
      pieces mode depth c ++ (marks ",\n".toList ++ piecesAll mode depth (d :: rest)) := by
  rw [piecesAll, pieces]

mutual

/-- The text of a call's pieces is what the printer writes for it. -/
theorem text_pieces (mode : PrefixMode) (depth : Int) :
    (c : Code) → Piece.text (pieces mode depth c) = render mode depth c
  | element tag attributes children => by
    simp only [pieces, argumentPieces, render, callee_element, Piece.text_append,
      Piece.text_marks, Piece.text_mark_cons, Literal.text_attributeListPieces,
      text_piecesAll mode (depth + 1) children, List.append_assoc]
  | selfClosing tag attributes => by
    simp only [pieces, argumentPieces, render, callee_selfClosing, Piece.text_append,
      Piece.text_marks, Piece.text_mark_cons, Piece.text_nil, Literal.text_attributeListPieces,
      List.append_assoc]
  | rawHtml space tag attributes content => by
    -- the printer writes the opening parenthesis together with the constructor's name
    have hopen : "element.unsafe_raw_html(".toList = "element.unsafe_raw_html".toList ++ ['('] := by
      decide
    simp only [pieces, argumentPieces, render, callee_rawHtml, hopen, Literal.quoted,
      Piece.text_append, Piece.text_marks, Piece.text_mark_cons, Piece.text_literal_cons,
      Piece.text_nil, Literal.text_attributeListPieces, List.append_assoc, List.cons_append,
      List.nil_append]
  | text content => by
    have hopen : "text(\"".toList = "text".toList ++ ['(', '"'] := by decide
    have hclose : "\")".toList = ['"', ')'] := by decide
    simp only [pieces, argumentPieces, render, callee_text, hopen, hclose, Piece.text_append,
      Piece.text_marks, Piece.text_mark_cons, Piece.text_literal_cons, Piece.text_nil,
      List.append_assoc, List.cons_append, List.nil_append]

/-- The text of the pieces of several calls is what the printer writes for them. -/
theorem text_piecesAll (mode : PrefixMode) (depth : Int) :
    (cs : List Code) → Piece.text (piecesAll mode depth cs) = renderAll mode depth cs
  | [] => by rw [piecesAll, renderAll, Piece.text_nil]
  | [c] => by rw [piecesAll_singleton, renderAll, text_pieces mode depth c]
  | c :: d :: rest => by
    rw [piecesAll_cons_cons, renderAll, Piece.text_append, Piece.text_append, Piece.text_marks,
      text_pieces mode depth c, text_piecesAll mode depth (d :: rest)]

end

end Code

end ElementCode
