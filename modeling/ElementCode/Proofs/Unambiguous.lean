import ElementCode.Proofs.Pieces

/-!
# Printed code is unambiguous

No two lists of calls are printed alike.  The calls may be nested in any way and carry any number
of attributes; attribute values, text and raw HTML may be any strings; only the tags of elements
and the names of attributes have to be names, as they are in every HTML document.

The proof has two halves.  A text determines its pieces, by `Piece.text_injective`; that half deals
with everything that strings may contain.  Pieces determine the calls, by an induction over the
first tree: up to its opening parenthesis a call shows its constructor, what follows the
parenthesis shows which kind of call it is, and the mark after a call shows whether another one
follows (`argumentPieces_append_inj`, `piecesAll_append_inj`).
-/

namespace ElementCode

/-! ## Names -/

/-- A character of a name: an ASCII letter or digit, a hyphen, an underscore, or any character
outside of ASCII. -/
def isNameChar (c : Char) : Bool :=
  c.isAlphanum || c == '-' || c == '_' || 0x80 ≤ c.toNat

/-- A name is not empty and has only name characters. -/
def isName (s : String) : Bool := !s.isEmpty && s.toList.all isNameChar

lemma isNameChar_of_isName {s : String} (h : isName s) {c : Char} (hc : c ∈ s.toList) :
    isNameChar c := by
  rw [isName, Bool.and_eq_true, List.all_eq_true] at h
  exact h.2 c hc

/-- A character that is no name character does not occur in a name. -/
lemma notMem_of_isName {s : String} (h : isName s) {d : Char} (hd : ¬ isNameChar d) :
    d ∉ s.toList :=
  fun hmem => hd (isNameChar_of_isName h hmem)

namespace Code

mutual

/-- The tags of elements and the names of attributes in a call are names. -/
def named : Code → Bool
  | element tag attributes children =>
    isName tag && attributes.all (fun a => isName a.1) && namedAll children
  | selfClosing tag attributes => isName tag && attributes.all (fun a => isName a.1)
  | rawHtml _ _ attributes _ => attributes.all (fun a => isName a.1)
  | text _ => true

/-- The tags of elements and the names of attributes in several calls are names. -/
def namedAll : List Code → Bool
  | [] => true
  | c :: rest => named c && namedAll rest

end

lemma named_element {tag : String} {attributes : List (String × String)} {children : List Code} :
    named (element tag attributes children) ↔
      isName tag ∧ (∀ a ∈ attributes, isName a.1) ∧ namedAll children := by
  rw [named, Bool.and_eq_true, Bool.and_eq_true, List.all_eq_true, and_assoc]

lemma named_selfClosing {tag : String} {attributes : List (String × String)} :
    named (selfClosing tag attributes) ↔ isName tag ∧ ∀ a ∈ attributes, isName a.1 := by
  rw [named, Bool.and_eq_true, List.all_eq_true]

lemma named_rawHtml {space tag : String} {attributes : List (String × String)} {content : String} :
    named (rawHtml space tag attributes content) ↔ ∀ a ∈ attributes, isName a.1 := by
  rw [named, List.all_eq_true]

lemma namedAll_cons {c : Code} {rest : List Code} :
    namedAll (c :: rest) ↔ named c ∧ namedAll rest := by
  rw [namedAll, Bool.and_eq_true]

/-- A character of a constructor: of a name, or the dot after a module. -/
def isCalleeChar (c : Char) : Bool := isNameChar c || c == '.'

lemma all_isCalleeChar_of_isName {s : String} (h : isName s) : s.toList.all isCalleeChar := by
  rw [List.all_eq_true]
  intro c hc
  rw [isCalleeChar, isNameChar_of_isName h hc, Bool.true_or]

/-- A constructor is a name, or a name qualified by a module. -/
lemma all_isCalleeChar_callee (mode : PrefixMode) {c : Code} (hc : c.named) :
    (c.callee mode).all isCalleeChar := by
  have hqualifier : mode.qualifier.all isCalleeChar := by
    cases mode <;> decide
  cases c with
  | element tag attributes children =>
    rw [callee_element, List.all_append, Bool.and_eq_true]
    exact ⟨hqualifier, all_isCalleeChar_of_isName (named_element.1 hc).1⟩
  | selfClosing tag attributes =>
    rw [callee_selfClosing, List.all_append, Bool.and_eq_true]
    exact ⟨hqualifier, all_isCalleeChar_of_isName (named_selfClosing.1 hc).1⟩
  | rawHtml space tag attributes content =>
    rw [callee_rawHtml]
    decide
  | text content =>
    rw [callee_text, List.all_append, Bool.and_eq_true]
    exact ⟨hqualifier, by decide⟩

/-- No other mark occurs in a constructor. -/
lemma notMem_callee (mode : PrefixMode) {c : Code} (hc : c.named) {d : Char}
    (hd : ¬ isCalleeChar d) : d ∉ c.callee mode :=
  fun hmem => hd (List.all_eq_true.1 (all_isCalleeChar_callee mode hc) d hmem)

end Code

/-! ## The pieces of named calls are legible -/

lemma Piece.legible_marks {cs : List Char} (hquote : '"' ∉ cs) (hslash : '\\' ∉ cs) :
    ∀ p ∈ Piece.marks cs, p.Legible := by
  intro p hp
  obtain ⟨c, hc, rfl⟩ := List.mem_map.1 hp
  exact ⟨fun h => hquote (h ▸ hc), fun h => hslash (h ▸ hc)⟩

lemma Literal.legible_attributePieces {a : String × String} (ha : isName a.1) :
    ∀ p ∈ attributePieces a, p.Legible := by
  have hquote := notMem_of_isName ha (d := '"') (by decide)
  have hslash := notMem_of_isName ha (d := '\\') (by decide)
  have hword : '"' ∉ "attribute.".toList ∧ '\\' ∉ "attribute.".toList := by decide
  unfold attributePieces
  rw [List.forall_mem_append]
  refine ⟨Piece.legible_marks (by simp only [List.mem_append, hword, hquote, or_self,
    not_false_eq_true]) (by simp only [List.mem_append, hword, hslash, or_self,
    not_false_eq_true]), ?_⟩
  simp [Piece.Legible, guarded_quotedBody]

lemma Literal.legible_attributeListPieces {attributes : List (String × String)}
    (h : ∀ a ∈ attributes, isName a.1) : ∀ p ∈ attributeListPieces attributes, p.Legible := by
  rw [attributeListPieces, List.forall_mem_cons, List.forall_mem_append]
  refine ⟨by simp [Piece.Legible], ?_, by simp [Piece.Legible]⟩
  intro p hp
  obtain ⟨a, ha, hpa⟩ := List.mem_flatMap.1 hp
  exact legible_attributePieces (h a ha) p hpa

namespace Code

open Piece (marks)

lemma notMem_indent (depth : Int) {d : Char} (hd : d ≠ ' ') : d ∉ indent depth :=
  fun h => hd (List.eq_of_mem_replicate h)

/-- What stands before the opening parenthesis of a call. -/
lemma notMem_indent_append_callee (mode : PrefixMode) (depth : Int) {c : Code} (hc : c.named)
    {d : Char} (hd : ¬ isCalleeChar d) (hspace : d ≠ ' ') :
    d ∉ indent depth ++ c.callee mode := by
  rw [List.mem_append, not_or]
  exact ⟨notMem_indent depth hspace, notMem_callee mode hc hd⟩

lemma legible_pieces {mode : PrefixMode} {depth : Int} {c : Code} (hc : c.named)
    (h : ∀ p ∈ argumentPieces mode depth c, p.Legible) :
    ∀ p ∈ pieces mode depth c, p.Legible := by
  rw [pieces, List.forall_mem_append, List.forall_mem_cons]
  exact ⟨Piece.legible_marks (notMem_indent_append_callee mode depth hc (by decide) (by decide))
    (notMem_indent_append_callee mode depth hc (by decide) (by decide)), by simp [Piece.Legible], h⟩

mutual

lemma legible_argumentPieces (mode : PrefixMode) (depth : Int) :
    (c : Code) → c.named → ∀ p ∈ argumentPieces mode depth c, p.Legible
  | element tag attributes children, hc => by
    obtain ⟨-, hattributes, hchildren⟩ := named_element.1 hc
    have hopen : '"' ∉ ", [\n".toList ∧ '\\' ∉ ", [\n".toList := by decide
    have hclose : '"' ∉ "])".toList ∧ '\\' ∉ "])".toList := by decide
    rw [argumentPieces, List.forall_mem_append, List.forall_mem_append, List.forall_mem_append]
    refine ⟨Literal.legible_attributeListPieces hattributes, Piece.legible_marks hopen.1 hopen.2,
      legible_piecesAll mode (depth + 1) children hchildren, Piece.legible_marks ?_ ?_⟩
    · rw [List.mem_cons, List.mem_append, not_or, not_or]
      exact ⟨by decide, notMem_indent depth (by decide), hclose.1⟩
    · rw [List.mem_cons, List.mem_append, not_or, not_or]
      exact ⟨by decide, notMem_indent depth (by decide), hclose.2⟩
  | selfClosing tag attributes, hc => by
    rw [argumentPieces, List.forall_mem_append]
    exact ⟨Literal.legible_attributeListPieces (named_selfClosing.1 hc).2, by simp [Piece.Legible]⟩
  | rawHtml space tag attributes content, hc => by
    have hcomma : '"' ∉ ", ".toList ∧ '\\' ∉ ", ".toList := by decide
    have hmarks := Piece.legible_marks hcomma.1 hcomma.2
    rw [argumentPieces]
    simp only [List.forall_mem_append, List.forall_mem_cons]
    exact ⟨Literal.guarded_quotedBody _, hmarks, Literal.guarded_quotedBody _, hmarks,
      Literal.legible_attributeListPieces (named_rawHtml.1 hc), hmarks,
      Literal.guarded_quotedBody _, by simp [Piece.Legible]⟩
  | text content, _ => by
    rw [argumentPieces, List.forall_mem_cons]
    exact ⟨Literal.guarded_textBody _, by simp [Piece.Legible]⟩

lemma legible_piecesAll (mode : PrefixMode) (depth : Int) :
    (cs : List Code) → namedAll cs → ∀ p ∈ piecesAll mode depth cs, p.Legible
  | [], _ => by simp
  | [c], h => by
    have hc := (namedAll_cons.1 h).1
    rw [piecesAll_singleton]
    exact legible_pieces hc (legible_argumentPieces mode depth c hc)
  | c :: d :: rest, h => by
    obtain ⟨hc, hrest⟩ := namedAll_cons.1 h
    have hcomma : '"' ∉ ",\n".toList ∧ '\\' ∉ ",\n".toList := by decide
    rw [piecesAll_cons_cons, List.forall_mem_append, List.forall_mem_append]
    exact ⟨legible_pieces hc (legible_argumentPieces mode depth c hc),
      Piece.legible_marks hcomma.1 hcomma.2, legible_piecesAll mode depth (d :: rest) hrest⟩

end

end Code

/-! ## Pieces determine the calls -/

/-- The marks before the first opening parenthesis are determined. -/
lemma Piece.marks_paren_inj {as bs : List Char} (ha : '(' ∉ as) (hb : '(' ∉ bs)
    {r s : List Piece} (h : marks as ++ mark '(' :: r = marks bs ++ mark '(' :: s) :
    as = bs ∧ r = s := by
  induction as generalizing bs with
  | nil =>
    cases bs with
    | nil => exact ⟨rfl, (List.cons.inj h).2⟩
    | cons b bs =>
      rw [List.mem_cons, not_or] at hb
      exact absurd (Piece.mark.inj (List.cons.inj h).1) hb.1
  | cons a as ih =>
    rw [List.mem_cons, not_or] at ha
    cases bs with
    | nil => exact absurd (Piece.mark.inj (List.cons.inj h).1).symm ha.1
    | cons b bs =>
      rw [List.mem_cons, not_or] at hb
      obtain ⟨hhead, htail⟩ := List.cons.inj h
      obtain ⟨rfl, hrest⟩ := ih ha.2 hb.2 htail
      exact ⟨by rw [Piece.mark.inj hhead], hrest⟩

namespace Literal

open Piece (marks)

lemma attributePieces_append_inj {a b : String × String} {r s : List Piece} (ha : isName a.1)
    (hb : isName b.1) (h : attributePieces a ++ r = attributePieces b ++ s) : a = b ∧ r = s := by
  have hparen : ∀ {k : String}, isName k → '(' ∉ "attribute.".toList ++ k.toList := by
    intro k hk
    rw [List.mem_append, not_or]
    exact ⟨by decide, notMem_of_isName hk (by decide)⟩
  unfold attributePieces at h
  rw [List.append_assoc, List.append_assoc] at h
  obtain ⟨hkey, hrest⟩ := Piece.marks_paren_inj (hparen ha) (hparen hb) h
  obtain ⟨hvalue, htail⟩ := List.cons.inj hrest
  have hkey' : a.1 = b.1 := String.toList_inj.1 (List.append_cancel_left hkey)
  have hvalue' : a.2 = b.2 :=
    String.toList_inj.1 (quotedBody_injective (Piece.literal.inj hvalue))
  exact ⟨Prod.ext hkey' hvalue', (List.cons.inj htail).2⟩

lemma attributePieces_append_ne (a : String × String) (u r : List Piece) :
    attributePieces a ++ u ≠ .mark ']' :: r := by
  have hword : "attribute.".toList = 'a' :: "ttribute.".toList := by decide
  unfold attributePieces
  rw [hword]
  intro h
  exact absurd (Piece.mark.inj (List.cons.inj h).1) (by decide)

/-- An attribute list shows its attributes and where it ends, although nothing separates them. -/
lemma attributeListPieces_append_inj {as bs : List (String × String)} {r s : List Piece}
    (ha : ∀ a ∈ as, isName a.1) (hb : ∀ b ∈ bs, isName b.1)
    (h : attributeListPieces as ++ r = attributeListPieces bs ++ s) : as = bs ∧ r = s := by
  simp only [attributeListPieces, List.cons_append, List.append_assoc, List.nil_append] at h
  obtain ⟨has, hrest⟩ := flatMap_append_inj (P := fun a => isName a.1)
    (fun _ _ _ _ => attributePieces_append_inj) (fun a u _ => attributePieces_append_ne a u r)
    (fun a u _ => attributePieces_append_ne a u s) ha hb (List.cons.inj h).2
  exact ⟨has, (List.cons.inj hrest).2⟩

lemma attributeListPieces_append_ne_literal (as : List (String × String)) (r : List Piece)
    (body : List Char) (s : List Piece) : attributeListPieces as ++ r ≠ .literal body :: s := by
  intro h
  exact Piece.noConfusion (List.cons.inj h).1

end Literal

namespace Code

open Piece (marks)

/-- No constructor of elements or text is taken for that of raw HTML: a name has no dot, and the
two modules start with different letters. -/
lemma qualifier_append_ne_rawHtml (mode : PrefixMode) {name : List Char} (hname : '.' ∉ name) :
    mode.qualifier ++ name ≠ "element.unsafe_raw_html".toList := by
  intro h
  cases mode with
  | namespaced =>
    have hmodule : PrefixMode.namespaced.qualifier = 'h' :: "tml.".toList := by decide
    have hraw : "element.unsafe_raw_html".toList = 'e' :: "lement.unsafe_raw_html".toList := by
      decide
    rw [hmodule, hraw] at h
    exact absurd (List.cons.inj h).1 (by decide)
  | bare =>
    rw [PrefixMode.qualifier, List.nil_append] at h
    exact hname (h ▸ by decide)

/-- What may follow a list of calls: nothing, or a line break. -/
def Follows (r : List Piece) : Prop := r.head? = none ∨ r.head? = some (.mark '\n')

lemma Follows.ne_comma {r s : List Piece} (hr : Follows r) : r ≠ marks ",\n".toList ++ s := by
  rintro rfl
  have hcomma : ",\n".toList = [',', '\n'] := by decide
  rw [hcomma] at hr
  rcases hr with h | h
  · exact absurd h (by simp)
  · exact absurd h (by simp)

/-- The first piece of a call is neither missing nor a line break. -/
lemma Follows.ne_pieces {r s : List Piece} (hr : Follows r) (mode : PrefixMode) (depth : Int)
    {c : Code} (hc : c.named) : r ≠ pieces mode depth c ++ s := by
  rintro rfl
  have hbreak : '\n' ∉ indent depth ++ c.callee mode :=
    notMem_indent_append_callee mode depth hc (by decide) (by decide)
  unfold pieces at hr
  cases hfront : indent depth ++ c.callee mode with
  | nil =>
    rw [hfront] at hr
    rcases hr with h | h
    · exact absurd h (by simp)
    · exact absurd h (by simp)
  | cons x front =>
    rw [hfront] at hr hbreak
    rcases hr with h | h
    · exact absurd h (by simp)
    · have hx : x = '\n' := by simpa using h
      exact hbreak (hx ▸ List.mem_cons_self)

/-- The pieces of a call show its constructor and its arguments. -/
lemma callee_eq_of_pieces {mode : PrefixMode} {depth : Int} {c d : Code} (hc : c.named)
    (hd : d.named) {r s : List Piece}
    (h : pieces mode depth c ++ r = pieces mode depth d ++ s) :
    c.callee mode = d.callee mode ∧
      argumentPieces mode depth c ++ r = argumentPieces mode depth d ++ s := by
  unfold pieces at h
  rw [List.append_assoc, List.append_assoc, List.cons_append, List.cons_append] at h
  obtain ⟨hfront, hrest⟩ := Piece.marks_paren_inj
    (notMem_indent_append_callee mode depth hc (by decide) (by decide))
    (notMem_indent_append_callee mode depth hd (by decide) (by decide)) h
  exact ⟨List.append_cancel_left hfront, hrest⟩

/-- The pieces after the first of several calls. -/
def tailPieces (mode : PrefixMode) (depth : Int) : List Code → List Piece
  | [] => []
  | c :: rest => marks ",\n".toList ++ piecesAll mode depth (c :: rest)

lemma piecesAll_cons (mode : PrefixMode) (depth : Int) (c : Code) (cs : List Code) :
    piecesAll mode depth (c :: cs) = pieces mode depth c ++ tailPieces mode depth cs := by
  cases cs with
  | nil => rw [piecesAll_singleton, tailPieces, List.append_nil]
  | cons d rest => rw [piecesAll_cons_cons, tailPieces]

/-- A comma shows that another call follows. -/
lemma tailPieces_append_inj {mode : PrefixMode} {depth : Int} {cs ds : List Code}
    {r s : List Piece} (hr : Follows r) (hs : Follows s)
    (hall : piecesAll mode depth cs ++ r = piecesAll mode depth ds ++ s → cs = ds ∧ r = s)
    (h : tailPieces mode depth cs ++ r = tailPieces mode depth ds ++ s) : cs = ds ∧ r = s := by
  cases cs with
  | nil =>
    cases ds with
    | nil => exact ⟨rfl, h⟩
    | cons d ds =>
      rw [tailPieces, tailPieces, List.nil_append, List.append_assoc] at h
      exact absurd h hr.ne_comma
  | cons c cs =>
    cases ds with
    | nil =>
      rw [tailPieces, tailPieces, List.nil_append, List.append_assoc] at h
      exact absurd h.symm hs.ne_comma
    | cons d ds =>
      simp only [tailPieces, List.append_assoc] at h
      exact hall (List.append_cancel_left h)

/-- After its attributes an element goes on where a self-closing one ends. -/
lemma children_ne_close (u v : List Piece) : marks ", [\n".toList ++ u ≠ .mark ')' :: v := by
  have hcomma : ", [\n".toList = [',', ' ', '[', '\n'] := by decide
  rw [hcomma]
  intro h
  exact absurd (Piece.mark.inj (List.cons.inj h).1) (by decide)

mutual

/-- Calls of one constructor with the same argument pieces are equal, whatever follows them. -/
theorem argumentPieces_append_inj (mode : PrefixMode) (depth : Int) :
    (c d : Code) → c.named → d.named → c.callee mode = d.callee mode → (r s : List Piece) →
      argumentPieces mode depth c ++ r = argumentPieces mode depth d ++ s → c = d ∧ r = s
  | element tag attributes children, d, hc, hd, hcallee, r, s, h => by
    obtain ⟨htag, hattributes, hchildren⟩ := named_element.1 hc
    cases d with
    | element tag' attributes' children' =>
      obtain ⟨-, hattributes', hchildren'⟩ := named_element.1 hd
      simp only [argumentPieces, List.append_assoc] at h
      obtain ⟨rfl, hopen⟩ := Literal.attributeListPieces_append_inj hattributes hattributes' h
      obtain ⟨rfl, hclose⟩ := piecesAll_append_inj mode (depth + 1) children children' hchildren
        hchildren' _ _ (.inr rfl) (.inr rfl) (List.append_cancel_left hopen)
      have htag' : tag = tag' := String.toList_inj.1 (List.append_cancel_left hcallee)
      exact ⟨by rw [htag'], List.append_cancel_left hclose⟩
    | selfClosing tag' attributes' =>
      simp only [argumentPieces, List.append_assoc] at h
      obtain ⟨-, hopen⟩ :=
        Literal.attributeListPieces_append_inj hattributes (named_selfClosing.1 hd).2 h
      exact absurd hopen (children_ne_close _ _)
    | rawHtml space tag' attributes' content =>
      exact absurd hcallee (qualifier_append_ne_rawHtml mode (notMem_of_isName htag (by decide)))
    | text content =>
      simp only [argumentPieces, List.append_assoc] at h
      exact absurd h (Literal.attributeListPieces_append_ne_literal _ _ _ _)
  | selfClosing tag attributes, d, hc, hd, hcallee, r, s, h => by
    obtain ⟨htag, hattributes⟩ := named_selfClosing.1 hc
    cases d with
    | element tag' attributes' children' =>
      simp only [argumentPieces, List.append_assoc] at h
      obtain ⟨-, hopen⟩ :=
        Literal.attributeListPieces_append_inj hattributes (named_element.1 hd).2.1 h
      exact absurd hopen.symm (children_ne_close _ _)
    | selfClosing tag' attributes' =>
      simp only [argumentPieces, List.append_assoc] at h
      obtain ⟨rfl, hclose⟩ :=
        Literal.attributeListPieces_append_inj hattributes (named_selfClosing.1 hd).2 h
      have htag' : tag = tag' := String.toList_inj.1 (List.append_cancel_left hcallee)
      exact ⟨by rw [htag'], (List.cons.inj hclose).2⟩
    | rawHtml space tag' attributes' content =>
      exact absurd hcallee (qualifier_append_ne_rawHtml mode (notMem_of_isName htag (by decide)))
    | text content =>
      simp only [argumentPieces, List.append_assoc] at h
      exact absurd h (Literal.attributeListPieces_append_ne_literal _ _ _ _)
  | rawHtml space tag attributes content, d, hc, hd, hcallee, r, s, h => by
    cases d with
    | element tag' attributes' children' =>
      exact absurd hcallee.symm (qualifier_append_ne_rawHtml mode
        (notMem_of_isName (named_element.1 hd).1 (by decide)))
    | selfClosing tag' attributes' =>
      exact absurd hcallee.symm (qualifier_append_ne_rawHtml mode
        (notMem_of_isName (named_selfClosing.1 hd).1 (by decide)))
    | rawHtml space' tag' attributes' content' =>
      simp only [argumentPieces, List.append_assoc, List.cons_append, List.nil_append] at h
      obtain ⟨hspace, hafterSpace⟩ := List.cons.inj h
      obtain ⟨htag, hafterTag⟩ := List.cons.inj (List.append_cancel_left hafterSpace)
      obtain ⟨rfl, hafterAttributes⟩ := Literal.attributeListPieces_append_inj
        (named_rawHtml.1 hc) (named_rawHtml.1 hd) (List.append_cancel_left hafterTag)
      obtain ⟨hcontent, hclose⟩ := List.cons.inj (List.append_cancel_left hafterAttributes)
      have hspace' := String.toList_inj.1 (Literal.quotedBody_injective (Piece.literal.inj hspace))
      have htag' := String.toList_inj.1 (Literal.quotedBody_injective (Piece.literal.inj htag))
      have hcontent' :=
        String.toList_inj.1 (Literal.quotedBody_injective (Piece.literal.inj hcontent))
      exact ⟨by rw [hspace', htag', hcontent'], (List.cons.inj hclose).2⟩
    | text content' =>
      exact absurd hcallee.symm (qualifier_append_ne_rawHtml mode (by decide))
  | text content, d, hc, hd, hcallee, r, s, h => by
    cases d with
    | element tag' attributes' children' =>
      simp only [argumentPieces, List.append_assoc] at h
      exact absurd h.symm (Literal.attributeListPieces_append_ne_literal _ _ _ _)
    | selfClosing tag' attributes' =>
      simp only [argumentPieces, List.append_assoc] at h
      exact absurd h.symm (Literal.attributeListPieces_append_ne_literal _ _ _ _)
    | rawHtml space' tag' attributes' content' =>
      exact absurd hcallee (qualifier_append_ne_rawHtml mode (by decide))
    | text content' =>
      rw [argumentPieces, argumentPieces] at h
      obtain ⟨hbody, hclose⟩ := List.cons.inj h
      have hcontent := String.toList_inj.1 (Literal.textBody_injective (Piece.literal.inj hbody))
      exact ⟨by rw [hcontent], (List.cons.inj hclose).2⟩

/-- Lists of calls with the same pieces are equal, when what follows them shows that they end. -/
theorem piecesAll_append_inj (mode : PrefixMode) (depth : Int) :
    (cs ds : List Code) → namedAll cs → namedAll ds → (r s : List Piece) → Follows r →
      Follows s → piecesAll mode depth cs ++ r = piecesAll mode depth ds ++ s → cs = ds ∧ r = s
  | [], [], _, _, r, s, _, _, h => by
    rw [piecesAll_nil, List.nil_append, List.nil_append] at h
    exact ⟨rfl, h⟩
  | [], d :: ds, _, hds, r, s, hr, _, h => by
    rw [piecesAll_nil, List.nil_append, piecesAll_cons, List.append_assoc] at h
    exact absurd h (hr.ne_pieces mode depth (namedAll_cons.1 hds).1)
  | c :: cs, [], hcs, _, r, s, _, hs, h => by
    rw [piecesAll_nil, List.nil_append, piecesAll_cons, List.append_assoc] at h
    exact absurd h.symm (hs.ne_pieces mode depth (namedAll_cons.1 hcs).1)
  | c :: cs, d :: ds, hcs, hds, r, s, hr, hs, h => by
    obtain ⟨hc, hcs'⟩ := namedAll_cons.1 hcs
    obtain ⟨hd, hds'⟩ := namedAll_cons.1 hds
    simp only [piecesAll_cons, List.append_assoc] at h
    obtain ⟨hcallee, harguments⟩ := callee_eq_of_pieces hc hd h
    obtain ⟨rfl, htail⟩ := argumentPieces_append_inj mode depth c d hc hd hcallee _ _ harguments
    obtain ⟨rfl, hend⟩ := tailPieces_append_inj hr hs
      (piecesAll_append_inj mode depth cs ds hcs' hds' r s hr hs) htail
    exact ⟨rfl, hend⟩

end

/-- Named calls with the same printed lines are equal. -/
lemma renderAll_injective {mode : PrefixMode} {depth : Int} {cs ds : List Code}
    (hcs : namedAll cs) (hds : namedAll ds)
    (h : renderAll mode depth cs = renderAll mode depth ds) : cs = ds := by
  rw [← text_piecesAll, ← text_piecesAll] at h
  have hpieces : piecesAll mode depth cs = piecesAll mode depth ds :=
    Piece.text_injective (legible_piecesAll mode depth cs hcs)
      (legible_piecesAll mode depth ds hds) h
  refine (piecesAll_append_inj mode depth cs ds hcs hds [] [] (.inl rfl) (.inl rfl) ?_).1
  rw [hpieces]

/-- **The printer is injective.**  Two lists of calls have the same printed form only when they
are equal: no content, however it imitates code, moves the boundaries of the calls. -/
theorem printAll_eq_printAll_iff (mode : PrefixMode) (cs ds : List Code) (hcs : namedAll cs)
    (hds : namedAll ds) : printAll mode cs = printAll mode ds ↔ cs = ds := by
  constructor
  · intro h
    exact renderAll_injective hcs hds (String.ofList_injective h)
  · intro h
    rw [h]

/-- Two texts, the first of which ends in a backslash, and one text that imitates them, after an
element that is itself called `text` and has two attributes and no children. -/
theorem printAll_imitated_text :
    printAll .bare [element "text" [("a", "1"), ("b", "2\\")] [], text "x\\", text "y"] ≠
      printAll .bare [element "text" [("a", "1"), ("b", "2\\")] [], text "x\"),\ntext(\"y"] := by
  intro h
  have hequal := (printAll_eq_printAll_iff .bare _ _ (by decide) (by decide)).1 h
  exact absurd (congrArg List.length hequal) (by decide)

end Code

end ElementCode
