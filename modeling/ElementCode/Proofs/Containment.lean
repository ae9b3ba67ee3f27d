import ElementCode.Proofs.Mapping

/-!
# Content stays in its literal

A compiler reads literals from the front: a backslash takes the next character with it, whatever
it is, and the first quote that is not taken ends the literal.  `Literal.scan` is this reader, and
`Literal.Sealed` describes the bodies that it reads as they were written.

Quoted strings and the content of code blocks are always sealed.  A text argument is sealed exactly
when its content has an even number of backslashes wherever a run of them stands before a quote or
at the end (`sealed_textBody_iff`).  Reading a whole text gives the literals that were written
exactly when all of them are sealed, since the first one that is not is already read with another
body (`scan_text_iff`).  For documents this gives `scan_printCode_iff`.
-/

namespace ElementCode

namespace Literal

/-! ## Reading literals from the front -/

/-- The bodies of the literals of a text.  Inside of a literal, `inside` holds what has been read
of its body; a text that ends there cannot be read. -/
def scan : Option (List Char) → List Char → Option (List (List Char))
  | none, [] => some []
  | some _, [] => none
  | none, c :: rest => if c = '"' then scan (some []) rest else scan none rest
  | some body, '\\' :: c :: rest => scan (some (body ++ ['\\', c])) rest
  | some body, c :: rest =>
    if c = '"' then (scan none rest).map (body :: ·) else scan (some (body ++ [c])) rest

/-- A body in which every quote is taken by a backslash, and no backslash takes the character after
the body. -/
inductive Sealed : List Char → Prop
  | nil : Sealed []
  | plain {c : Char} {body : List Char} (hquote : c ≠ '"') (hslash : c ≠ '\\') (h : Sealed body) :
      Sealed (c :: body)
  | escape {c : Char} {body : List Char} (h : Sealed body) : Sealed ('\\' :: c :: body)

lemma sealed_escape_iff {c : Char} {body : List Char} :
    Sealed ('\\' :: c :: body) ↔ Sealed body := by
  constructor
  · intro h
    cases h with
    | plain _ hslash _ => exact absurd rfl hslash
    | escape h => exact h
  · exact .escape

lemma sealed_cons_iff {c : Char} {body : List Char} (hslash : c ≠ '\\') :
    Sealed (c :: body) ↔ c ≠ '"' ∧ Sealed body := by
  constructor
  · intro h
    cases h with
    | plain hquote _ h => exact ⟨hquote, h⟩
    | escape _ => exact absurd rfl hslash
  · rintro ⟨hquote, h⟩
    exact .plain hquote hslash h

lemma not_sealed_slash : ¬ Sealed ['\\'] := by
  intro h
  cases h with
  | plain _ hslash _ => exact hslash rfl

lemma Sealed.append {a b : List Char} (ha : Sealed a) (hb : Sealed b) : Sealed (a ++ b) := by
  induction ha with
  | nil => exact hb
  | plain hquote hslash _ ih => exact .plain hquote hslash ih
  | escape _ ih => exact .escape ih

/-- Marks outside of literals are passed over. -/
lemma scan_none_cons {c : Char} (hc : c ≠ '"') (rest : List Char) :
    scan none (c :: rest) = scan none rest := by
  rw [scan, if_neg hc]

lemma scan_some_cons {c : Char} (hslash : c ≠ '\\') (body rest : List Char) :
    scan (some body) (c :: rest) =
      if c = '"' then (scan none rest).map (body :: ·) else scan (some (body ++ [c])) rest := by
  rw [scan]
  intro _ _ h
  exact absurd h hslash

/-- A sealed body is read as it was written. -/
lemma scan_sealed {body : List Char} (h : Sealed body) (read rest : List Char) :
    scan (some read) (body ++ '"' :: rest) = (scan none rest).map ((read ++ body) :: ·) := by
  induction h generalizing read with
  | nil => rw [List.nil_append, scan_some_cons (by decide), if_pos rfl, List.append_nil]
  | plain hquote hslash _ ih =>
    rw [List.cons_append, scan_some_cons hslash, if_neg hquote, ih, List.append_assoc,
      List.singleton_append]
  | escape _ ih =>
    rw [List.cons_append, List.cons_append, scan, ih, List.append_assoc, List.cons_append,
      List.singleton_append]

/-- What has been read of a body stays at its front. -/
lemma length_le_of_scan (inside : Option (List Char)) (text : List Char) :
    ∀ read first more, inside = some read → scan inside text = some (first :: more) →
      read.length ≤ first.length := by
  fun_induction scan inside text with
  | case1 => simp
  | case2 read => simp
  | case3 rest ih => simp
  | case4 c rest hc ih => simp
  | case5 body c rest ih =>
    intro read first more hread hscan
    have hlonger := ih _ first more rfl hscan
    rw [List.length_append] at hlonger
    rw [← Option.some.inj hread]
    omega
  | case6 body rest hrest ih =>
    intro read first more hread hscan
    obtain ⟨found, -, hfound⟩ := Option.map_eq_some_iff.1 hscan
    rw [← (List.cons.inj hfound).1, ← Option.some.inj hread]
  | case7 body c rest hpair hc ih =>
    intro read first more hread hscan
    have hlonger := ih _ first more rfl hscan
    rw [List.length_append] at hlonger
    rw [← Option.some.inj hread]
    omega

/-- A body that is read as it was written is sealed. -/
lemma sealed_of_scan (rest : List Char) (more : List (List Char)) :
    (body read : List Char) →
      scan (some read) (body ++ '"' :: rest) = some ((read ++ body) :: more) → Sealed body
  | [], _, _ => .nil
  | c :: body, read, h => by
    by_cases hslash : c = '\\'
    · subst hslash
      cases body with
      | nil =>
        -- the backslash takes the closing quote, and the body read is too long
        rw [List.singleton_append, scan] at h
        have hlonger := length_le_of_scan _ _ _ _ _ rfl h
        simp at hlonger
      | cons d body =>
        rw [List.cons_append, List.cons_append, scan] at h
        refine .escape (sealed_of_scan rest more body (read ++ ['\\', d]) ?_)
        rw [h, List.append_assoc]
        rfl
    · rw [List.cons_append, scan_some_cons hslash] at h
      split_ifs at h with hquote
      · -- the literal ends too early
        obtain ⟨found, -, hfound⟩ := Option.map_eq_some_iff.1 h
        have hshort := congrArg List.length (List.cons.inj hfound).1
        simp at hshort
      · refine .plain hquote hslash (sealed_of_scan rest more body (read ++ [c]) ?_)
        rw [h, List.append_assoc]
        rfl

/-- A literal is read as it was written exactly when its body is sealed. -/
lemma scan_literal_iff (body rest : List Char) (more : List (List Char)) :
    scan (some []) (body ++ '"' :: rest) = some (body :: more) ↔
      Sealed body ∧ scan none rest = some more := by
  constructor
  · intro h
    have hsealed := sealed_of_scan rest more body [] h
    rw [scan_sealed hsealed, Option.map_eq_some_iff] at h
    obtain ⟨found, hfound, hmore⟩ := h
    rw [hfound, (List.cons.inj hmore).2]
    exact ⟨hsealed, rfl⟩
  · rintro ⟨hsealed, hrest⟩
    rw [scan_sealed hsealed, hrest]
    rfl

/-! ## Which bodies are sealed -/

lemma sealed_of_notMem {cs : List Char} (hquote : '"' ∉ cs) (hslash : '\\' ∉ cs) : Sealed cs := by
  induction cs with
  | nil => exact .nil
  | cons c cs ih =>
    rw [List.mem_cons, not_or] at hquote hslash
    exact .plain (Ne.symm hquote.1) (Ne.symm hslash.1) (ih hquote.2 hslash.2)

lemma sealed_quotedChar (c : Char) : Sealed (quotedChar c) := by
  unfold quotedChar
  split_ifs with hslash hquote
  · exact .escape .nil
  · exact .escape .nil
  · exact .escape .nil
  · exact .escape .nil
  · exact .escape .nil
  · exact .escape .nil
  · refine .escape (sealed_of_notMem ?_ ?_)
    · simp [notMem_hexPad (c := '"') (by decide)]
    · simp [notMem_hexPad (c := '\\') (by decide)]
  · exact .plain (by simpa using hquote) (by simpa using hslash) .nil

/-- Quoted strings are sealed, whatever they contain. -/
lemma sealed_quotedBody (cs : List Char) : Sealed (quotedBody cs) := by
  induction cs with
  | nil => exact .nil
  | cons c cs ih =>
    rw [quotedBody, List.flatMap_cons]
    exact (sealed_quotedChar c).append ih

/-- The content of code blocks is sealed, whatever it contains. -/
lemma sealed_textBody_doubled (cs : List Char) : Sealed (textBody (doubled cs)) := by
  induction cs with
  | nil => exact .nil
  | cons c cs ih =>
    by_cases hslash : c = '\\'
    · subst hslash
      rw [doubled_cons_slash, textBody_cons_of_ne (by decide), textBody_cons_of_ne (by decide)]
      exact .escape ih
    · rw [doubled_cons_of_ne hslash]
      by_cases hquote : c = '"'
      · subst hquote
        rw [textBody_cons_quote]
        exact .escape ih
      · rw [textBody_cons_of_ne hquote]
        exact .plain hquote hslash ih

/-- Every maximal run of backslashes right before a quote or at the end has an even length. -/
def EvenRuns (cs : List Char) : Prop :=
  ∀ before n after, cs = before ++ (List.replicate n '\\' ++ after) →
    before.getLast? ≠ some '\\' → (after = [] ∨ after.head? = some '"') → Even n

/-- Every maximal run of backslashes has an even length, when `P` holds for the character after it,
or for none at the end. -/
def RunsEven (P : Option Char → Prop) (cs : List Char) : Prop :=
  ∀ before n after, cs = before ++ (List.replicate n '\\' ++ after) →
    before.getLast? ≠ some '\\' → P after.head? → Even n

section RunsEven

variable {P : Option Char → Prop}

lemma runsEven_nil : RunsEven P [] := by
  intro before n after h _ _
  have hn : List.replicate n '\\' = [] :=
    (List.append_eq_nil_iff.1 (List.append_eq_nil_iff.1 h.symm).2).1
  rw [(List.replicate_eq_nil_iff _).1 hn]
  exact Even.zero

lemma getLast?_tail_ne {a x : Char} {l : List Char} (h : (a :: l).getLast? ≠ some x) :
    l.getLast? ≠ some x := by
  intro hl
  rw [List.getLast?_cons, hl] at h
  exact h rfl

/-- A character that is no backslash takes no part in a run. -/
lemma runsEven_cons_iff {c : Char} (hc : c ≠ '\\') (cs : List Char) :
    RunsEven P (c :: cs) ↔ RunsEven P cs := by
  constructor
  · intro h before n after hcs hbefore hafter
    refine h (c :: before) n after (by rw [hcs, List.cons_append]) ?_ hafter
    cases before with
    | nil => simpa using hc
    | cons b before => rwa [List.getLast?_cons_cons]
  · intro h before n after hcs hbefore hafter
    cases before with
    | nil =>
      cases n with
      | zero => exact Even.zero
      | succ n =>
        rw [List.nil_append, List.replicate_succ, List.cons_append] at hcs
        exact absurd (List.cons.inj hcs).1 hc
    | cons b before =>
      rw [List.cons_append] at hcs
      exact h before n after (List.cons.inj hcs).2 (getLast?_tail_ne hbefore) hafter

/-- A backslash and a character after it for which `P` does not hold can be taken off together: two
backslashes keep the parity of a run, and any other character ends it. -/
lemma runsEven_pair_iff {c : Char} (hc : ¬ P (some c)) (cs : List Char) :
    RunsEven P ('\\' :: c :: cs) ↔ RunsEven P cs := by
  constructor
  · intro h before n after hcs hbefore hafter
    cases before with
    | nil =>
      by_cases hslash : c = '\\'
      · have heven : Even (n + 2) := by
          refine h [] (n + 2) after ?_ (by simp) hafter
          rw [hcs, hslash, List.replicate_succ, List.replicate_succ]
          rfl
        exact (Nat.even_add.1 heven).2 even_two
      · refine h ['\\', c] n after (by rw [hcs]; rfl) ?_ hafter
        simpa using hslash
    | cons b before =>
      refine h ('\\' :: c :: b :: before) n after (by rw [hcs]; rfl) ?_ hafter
      rwa [List.getLast?_cons_cons, List.getLast?_cons_cons]
  · intro h before n after hcs hbefore hafter
    match before, n with
    | [], 0 => exact Even.zero
    | [], 1 =>
      have hhead : after = c :: cs := (List.cons.inj hcs).2.symm
      rw [hhead] at hafter
      exact absurd hafter hc
    | [], n + 2 =>
      rw [List.nil_append, List.replicate_succ, List.replicate_succ, List.cons_append,
        List.cons_append] at hcs
      have heven := h [] n after (List.cons.inj (List.cons.inj hcs).2).2 (by simp) hafter
      exact heven.add even_two
    | [b], n =>
      rw [(List.cons.inj hcs).1] at hbefore
      exact absurd rfl hbefore
    | b :: d :: before, n =>
      refine h before n after ?_ (getLast?_tail_ne (getLast?_tail_ne hbefore)) hafter
      exact (List.cons.inj (List.cons.inj hcs).2).2

/-- A single backslash is a run of odd length. -/
lemma not_runsEven_slash {cs : List Char} (hcs : P cs.head?) : ¬ RunsEven P ('\\' :: cs) := by
  intro h
  exact absurd (h [] 1 cs rfl (by simp) hcs) (by decide)

end RunsEven

lemma evenRuns_iff (cs : List Char) :
    EvenRuns cs ↔ RunsEven (fun next => next = none ∨ next = some '"') cs := by
  simp only [EvenRuns, RunsEven, List.head?_eq_none_iff]

/-- The body of a text argument is sealed exactly when the runs of backslashes before its quotes
and at its end have even lengths. -/
theorem sealed_textBody_iff : (cs : List Char) → (Sealed (textBody cs) ↔ EvenRuns cs)
  | [] => iff_of_true .nil ((evenRuns_iff []).2 runsEven_nil)
  | c :: cs => by
    by_cases hslash : c = '\\'
    · subst hslash
      rw [textBody_cons_of_ne (by decide), evenRuns_iff]
      cases cs with
      | nil => exact iff_of_false not_sealed_slash (not_runsEven_slash (.inl rfl))
      | cons d cs =>
        by_cases hquote : d = '"'
        · subst hquote
          rw [textBody_cons_quote, sealed_escape_iff, sealed_cons_iff (by decide)]
          exact iff_of_false (fun h => h.1 rfl) (not_runsEven_slash (.inr rfl))
        · rw [textBody_cons_of_ne hquote, sealed_escape_iff,
            runsEven_pair_iff (by simpa using hquote), ← evenRuns_iff]
          exact sealed_textBody_iff cs
    · rw [evenRuns_iff, runsEven_cons_iff hslash, ← evenRuns_iff, ← sealed_textBody_iff cs]
      by_cases hquote : c = '"'
      · subst hquote
        rw [textBody_cons_quote, sealed_escape_iff]
      · rw [textBody_cons_of_ne hquote, sealed_cons_iff hslash]
        exact and_iff_right hquote

end Literal

/-! ## The literals of printed code -/

namespace Piece

/-- The bodies of the literals among pieces. -/
def literals : List Piece → List (List Char)
  | [] => []
  | mark _ :: ps => literals ps
  | literal body :: ps => body :: literals ps

@[simp] lemma literals_append (ps qs : List Piece) :
    literals (ps ++ qs) = literals ps ++ literals qs := by
  induction ps with
  | nil => rfl
  | cons p ps ih =>
    cases p with
    | mark c => exact ih
    | literal body => rw [List.cons_append, literals, literals, ih, List.cons_append]

@[simp] lemma literals_marks (cs : List Char) : literals (marks cs) = [] := by
  induction cs with
  | nil => rfl
  | cons c cs ih => exact ih

/-- The text of pieces is read as they were written exactly when every literal is sealed. -/
theorem scan_text_iff {ps : List Piece} (hps : ∀ c, mark c ∈ ps → c ≠ '"') :
    Literal.scan none (text ps) = some (literals ps) ↔
      ∀ body ∈ literals ps, Literal.Sealed body := by
  induction ps with
  | nil => exact iff_of_true rfl (by simp [literals])
  | cons p ps ih =>
    have ih' := ih (fun c hc => hps c (List.mem_cons_of_mem _ hc))
    cases p with
    | mark c =>
      rw [text_mark_cons, Literal.scan_none_cons (hps c List.mem_cons_self)]
      exact ih'
    | literal body =>
      rw [text_literal_cons, Literal.scan, if_pos rfl, literals, Literal.scan_literal_iff, ih',
        List.forall_mem_cons]

end Piece

namespace Code

/-- The bodies of the attribute values of a call. -/
def attributeLiterals (attributes : List (String × String)) : List (List Char) :=
  attributes.map fun a => Literal.quotedBody a.2.toList

mutual

/-- The bodies of the literals that the printer writes for a call, in their order: the values of
its attributes, its text, or the parts of raw HTML. -/
def literals : Code → List (List Char)
  | element _ attributes children => attributeLiterals attributes ++ literalsAll children
  | selfClosing _ attributes => attributeLiterals attributes
  | rawHtml space tag attributes content =>
    Literal.quotedBody space.toList :: Literal.quotedBody tag.toList ::
      (attributeLiterals attributes ++ [Literal.quotedBody content.toList])
  | text content => [Literal.textBody content.toList]

/-- The bodies of the literals that the printer writes for several calls. -/
def literalsAll : List Code → List (List Char)
  | [] => []
  | c :: rest => literals c ++ literalsAll rest

end

lemma literals_attributeListPieces (attributes : List (String × String)) :
    Piece.literals (Literal.attributeListPieces attributes) = attributeLiterals attributes := by
  have hone : ∀ a,
      Piece.literals (Literal.attributePieces a) = [Literal.quotedBody a.2.toList] := by
    intro a
    unfold Literal.attributePieces
    rw [Piece.literals_append, Piece.literals_marks]
    rfl
  have hall : Piece.literals (attributes.flatMap Literal.attributePieces) =
      attributeLiterals attributes := by
    induction attributes with
    | nil => rfl
    | cons a attributes ih =>
      rw [List.flatMap_cons, Piece.literals_append, hone, ih]
      rfl
  rw [Literal.attributeListPieces, Piece.literals, Piece.literals_append, hall, Piece.literals,
    Piece.literals, List.append_nil]

lemma literals_pieces {mode : PrefixMode} {depth : Int} {c : Code}
    (h : Piece.literals (argumentPieces mode depth c) = literals c) :
    Piece.literals (pieces mode depth c) = literals c := by
  rw [pieces, Piece.literals_append, Piece.literals_marks, Piece.literals, h, List.nil_append]

mutual

lemma literals_argumentPieces (mode : PrefixMode) (depth : Int) :
    (c : Code) → Piece.literals (argumentPieces mode depth c) = literals c
  | element tag attributes children => by
    rw [argumentPieces, Piece.literals_append, Piece.literals_append, Piece.literals_append,
      Piece.literals_marks, Piece.literals_marks, literals_attributeListPieces,
      literals_piecesAll mode (depth + 1) children, List.nil_append, List.append_nil, literals]
  | selfClosing tag attributes => by
    rw [argumentPieces, Piece.literals_append, literals_attributeListPieces, Piece.literals,
      Piece.literals, List.append_nil, literals]
  | rawHtml space tag attributes content => by
    simp only [argumentPieces, Piece.literals, Piece.literals_append, Piece.literals_marks,
      literals_attributeListPieces, List.nil_append, literals]
  | text content => by
    rw [argumentPieces, literals]
    rfl

lemma literals_piecesAll (mode : PrefixMode) (depth : Int) :
    (cs : List Code) → Piece.literals (piecesAll mode depth cs) = literalsAll cs
  | [] => by rw [piecesAll_nil, literalsAll, Piece.literals]
  | [c] => by
    rw [piecesAll_singleton, literals_pieces (literals_argumentPieces mode depth c), literalsAll,
      literalsAll, List.append_nil]
  | c :: d :: rest => by
    rw [piecesAll_cons_cons, Piece.literals_append, Piece.literals_append, Piece.literals_marks,
      literals_pieces (literals_argumentPieces mode depth c), List.nil_append,
      literals_piecesAll mode depth (d :: rest)]
    rfl

end

/-- Printed calls are read as they were written exactly when every literal is sealed. -/
theorem scan_renderAll_iff (mode : PrefixMode) (depth : Int) {cs : List Code} (hcs : namedAll cs) :
    Literal.scan none (renderAll mode depth cs) = some (literalsAll cs) ↔
      ∀ body ∈ literalsAll cs, Literal.Sealed body := by
  rw [← text_piecesAll, ← literals_piecesAll mode depth cs]
  exact Piece.scan_text_iff (fun c hc => (legible_piecesAll mode depth cs hcs _ hc).1)

end Code

/-! ## The texts of a document that reach its code -/

mutual

/-- The contents of the texts and code spans of an inline that reach the code; the alternative
text of an image does not. -/
def Inline.shownTexts : Inline → List String
  | .text s => [s]
  | .code s => [s]
  | .emphasis inline => Inline.shownTextsAll inline
  | .strong inline => Inline.shownTextsAll inline
  | .link inline _ => Inline.shownTextsAll inline
  | _ => []

/-- The contents of the texts and code spans of inlines that reach the code. -/
def Inline.shownTextsAll : List Inline → List String
  | [] => []
  | i :: rest => Inline.shownTexts i ++ Inline.shownTextsAll rest

end

mutual

/-- The contents of the texts and code spans of a block that reach the code. -/
def Block.shownTexts : Block → List String
  | .paragraph inline => Inline.shownTextsAll inline
  | .heading _ inline => Inline.shownTextsAll inline
  | .bulletList items => Block.shownTextsItems items
  | _ => []

/-- The contents of the texts and code spans of blocks that reach the code. -/
def Block.shownTextsAll : List Block → List String
  | [] => []
  | b :: rest => Block.shownTexts b ++ Block.shownTextsAll rest

/-- The contents of the texts and code spans of list items that reach the code. -/
def Block.shownTextsItems : List (List Block) → List String
  | [] => []
  | item :: rest => Block.shownTextsAll item ++ Block.shownTextsItems rest

end

/-- The contents of the texts and code spans of a document that reach the code. -/
def Document.shownTexts (d : Document) : List String := Block.shownTextsAll d.blocks

namespace Literal

/-- All of these bodies are sealed exactly when all of these texts have even runs. -/
def Agree (bodies : List (List Char)) (texts : List String) : Prop :=
  (∀ body ∈ bodies, Sealed body) ↔ ∀ t ∈ texts, EvenRuns t.toList

lemma Agree.nil : Agree [] [] := iff_of_true (by simp) (by simp)

lemma Agree.append {bodies bodies' : List (List Char)} {texts texts' : List String}
    (h : Agree bodies texts) (h' : Agree bodies' texts') :
    Agree (bodies ++ bodies') (texts ++ texts') := by
  unfold Agree at *
  rw [List.forall_mem_append, List.forall_mem_append, h, h']

/-- A text argument agrees with its content. -/
lemma agree_text (s : String) : Agree [textBody s.toList] [s] := by
  unfold Agree
  rw [List.forall_mem_singleton, List.forall_mem_singleton, sealed_textBody_iff]

/-- Bodies that are sealed whatever their content agree with no text. -/
lemma agree_of_sealed {bodies : List (List Char)} (h : ∀ body ∈ bodies, Sealed body) :
    Agree bodies [] :=
  iff_of_true h (by simp)

end Literal

lemma Inline.agree_of_toCodeAll {is : List Inline} {cs : List Code}
    (h : Inline.toCodeAll is = .ok cs) :
    Literal.Agree (Code.literalsAll cs) (Inline.shownTextsAll is) := by
  have hcases : Inline.MappingCases (fun i c => Literal.Agree c.literals i.shownTexts)
      (fun is cs => Literal.Agree (Code.literalsAll cs) (Inline.shownTextsAll is)) := {
    text := fun s => Literal.agree_text s
    code := fun s => Literal.agree_text s
    emphasis := fun is cs hcs => hcs
    strong := fun is cs hcs => hcs
    link := by
      intro is cs url hcs
      refine Literal.Agree.append (Literal.agree_of_sealed ?_) hcs
      simp [Code.attributeLiterals, Literal.sealed_quotedBody]
    image := by
      intro alt url
      refine Literal.agree_of_sealed ?_
      simp [Code.literals, Code.attributeLiterals, Literal.sealed_quotedBody]
    nil := Literal.Agree.nil
    cons := fun i is c cs hc hcs => hc.append hcs }
  exact Inline.toCodeAll_induct hcases is cs h

lemma Block.agree_of_toCodeAll {bs : List Block} {cs : List Code}
    (h : Block.toCodeAll bs = .ok cs) :
    Literal.Agree (Code.literalsAll cs) (Block.shownTextsAll bs) := by
  have hcases : Block.MappingCases (fun b c => Literal.Agree c.literals b.shownTexts)
      (fun bs cs => Literal.Agree (Code.literalsAll cs) (Block.shownTextsAll bs))
      (fun items cs => Literal.Agree (Code.literalsAll cs) (Block.shownTextsItems items)) := {
    paragraph := fun is cs hcs => Inline.agree_of_toCodeAll hcs
    heading := fun level s is cs _ hcs => Inline.agree_of_toCodeAll hcs
    bulletList := fun items cs hcs => hcs
    codeBlock := by
      intro language content
      refine Literal.agree_of_sealed ?_
      simp [Code.literals, Code.literalsAll, Code.attributeLiterals,
        Literal.sealed_textBody_doubled]
    thematicBreak := Literal.Agree.nil
    rawBlock := by
      intro content
      refine Literal.agree_of_sealed ?_
      simp [Code.literals, Code.attributeLiterals, Literal.sealed_quotedBody]
    nil := Literal.Agree.nil
    cons := fun b bs c cs hc hcs => hc.append hcs
    noItem := Literal.Agree.nil
    item := fun item items children cs hchildren hcs => hchildren.append hcs }
  exact Block.toCodeAll_induct hcases bs cs h

/-- **Content stays in its literal, a backslash at the wrong place apart.**  A compiler reads from
the code of a document the literals that the printer wrote exactly when every text and code span
that reaches the code has even runs of backslashes before its quotes and at its end; the levels of
headings have to be numbers.  The content of code blocks and quoted strings, which hold URLs and raw
HTML, is read as it was written, whatever it is and whatever follows. -/
theorem Document.scan_printCode_iff (d : Document) (mode : PrefixMode) {cs : List Code}
    (h : d.toCode = .ok cs) (hlevels : ∀ level ∈ d.levels, level.isClosed) :
    (∃ s, d.printCode mode = .ok s ∧
      (Literal.scan none s.toList = some (Code.literalsAll cs) ↔
        ∀ t ∈ d.shownTexts, Literal.EvenRuns t.toList)) ∧
    (∀ content rest, Literal.scan none
        ('"' :: (Literal.textBody (Literal.doubled content) ++ '"' :: rest)) =
      (Literal.scan none rest).map (Literal.textBody (Literal.doubled content) :: ·)) ∧
    (∀ content rest, Literal.scan none (Literal.quoted content ++ rest) =
      (Literal.scan none rest).map (Literal.quotedBody content :: ·)) := by
  refine ⟨⟨_, printCode_of_toCode h mode, ?_⟩, ?_, ?_⟩
  · rw [Code.printAll, String.toList_ofList,
      Code.scan_renderAll_iff mode 0 (namedAll_of_toCode h hlevels)]
    exact Block.agree_of_toCodeAll h
  · intro content rest
    rw [Literal.scan, if_pos rfl, Literal.scan_sealed (Literal.sealed_textBody_doubled content),
      List.nil_append]
  · intro content rest
    rw [Literal.quoted, List.cons_append, List.append_assoc, List.singleton_append, Literal.scan,
      if_pos rfl, Literal.scan_sealed (Literal.sealed_quotedBody content), List.nil_append]

/-- A text that ends in a single backslash takes the closing quote with it. -/
theorem Document.scan_trailing_backslash :
    ∃ s, (Document.mk [.paragraph [.text "a\\"], .rawBlock "b\\"]).printCode .bare = .ok s ∧
      Literal.scan none s.toList ≠
        some ["a\\".toList, "html".toList, "div".toList, "b\\\\".toList] := by
  obtain ⟨⟨s, hs, hiff⟩, -⟩ := Document.scan_printCode_iff
    (Document.mk [.paragraph [.text "a\\"], .rawBlock "b\\"]) .bare rfl
    (by simp [Document.levels, Block.levelsAll, Block.levels])
  refine ⟨s, hs, fun hscan => ?_⟩
  have heven := hiff.1 hscan "a\\" (by simp [Document.shownTexts, Block.shownTextsAll,
    Block.shownTexts, Inline.shownTextsAll, Inline.shownTexts])
  exact absurd (heven ['a'] 1 [] rfl (by decide) (.inl rfl)) (by decide)

end ElementCode
