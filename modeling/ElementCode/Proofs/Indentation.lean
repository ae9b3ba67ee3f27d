import ElementCode.Proofs.Unambiguous

/-!
# Indentation follows the brackets

A line of printed code that ends in `[` opens a level, and a line that starts with `]` after its
spaces closes one.  The number of levels that are open at a line is its *nesting*, and every line is
indented by two spaces for each of them, starting from the depth at which the call is printed.

Nothing that a string contains can disturb this, as long as texts hold no line break: attribute
values and raw HTML are written without one, and the first and the last character of a line are
never part of a literal.  `Indents d lines e` walks through lines from the depth `d` to the depth
`e` and checks each of them on the way.  A call is printed from its depth back to its depth, with a
comma after it or without one (`laid_render`), so that its siblings stand at the same depth.
-/

namespace ElementCode.Code

/-! ## The calls in a tree -/

mutual

/-- The calls in a call: itself, and those in its children. -/
def calls : Code → List Code
  | element tag attributes children => element tag attributes children :: callsAll children
  | selfClosing tag attributes => [selfClosing tag attributes]
  | rawHtml space tag attributes content => [rawHtml space tag attributes content]
  | text content => [text content]

/-- The calls in several calls. -/
def callsAll : List Code → List Code
  | [] => []
  | c :: rest => calls c ++ callsAll rest

end

/-- Whether a call is an element with a list of children, be it empty. -/
def isElement : Code → Bool
  | element _ _ _ => true
  | _ => false

/-- Whether a call is an element whose list of children is empty. -/
def isChildless : Code → Bool
  | element _ _ [] => true
  | _ => false

/-! ## The nesting of a line -/

/-- Whether a line ends in an opening bracket. -/
def opens (line : List Char) : Bool := line.getLast? == some '['

/-- Whether the first character of a line that is no space is a closing bracket. -/
def closes (line : List Char) : Bool := (line.dropWhile (· == ' ')).head? == some ']'

/-- The lines before the one with number `n` that open a level, less those up to it that close
one. -/
def nesting (lines : List (List Char)) (n : Nat) : Int :=
  (lines.take n).countP opens - (lines.take (n + 1)).countP closes

/-- A line at a depth is empty, or has two spaces for each level and then no space. -/
def IsLineAt (depth : Int) (line : List Char) : Prop :=
  line = [] ∨ ∃ c rest, c ≠ ' ' ∧ line = List.replicate (2 * max 0 depth).toNat ' ' ++ c :: rest

/-- How the lines of calls look that are printed at a depth; `cs` lists all calls in them. -/
structure LaidOut (depth : Int) (cs : List Code) (lines : List (List Char)) : Prop where
  indented : ∀ n line, lines[n]? = some line → IsLineAt (depth + nesting lines n) line
  empty : lines.count [] = cs.countP isChildless
  closed : nesting lines (lines.length - 1) = 0
  length : lines.length =
    cs.countP (fun c => !c.isElement) + 2 * cs.countP isElement + cs.countP isChildless

/-! ## Walking through lines -/

/-- What a line adds to the depth of the lines after it. -/
def opening (line : List Char) : Int := if opens line then 1 else 0

/-- What a line takes from the depth of the lines before it. -/
def closing (line : List Char) : Int := if closes line then 1 else 0

/-- From one depth through some lines to another depth, with every line at the depth reached. -/
inductive Indents : Int → List (List Char) → Int → Prop
  | nil (d : Int) : Indents d [] d
  | cons {d e : Int} {line : List Char} {rest : List (List Char)} :
    IsLineAt (d - closing line) line → Indents (d - closing line + opening line) rest e →
    Indents d (line :: rest) e

lemma Indents.append {d e f : Int} {xs ys : List (List Char)} (h : Indents d xs e)
    (h' : Indents e ys f) : Indents d (xs ++ ys) f := by
  induction h with
  | nil d => exact h'
  | cons hline _ ih => exact .cons hline (ih h')

lemma nesting_cons_zero (line : List Char) (rest : List (List Char)) :
    nesting (line :: rest) 0 = -closing line := by
  by_cases hclose : closes line <;> simp [nesting, closing, hclose]

lemma nesting_cons_succ (line : List Char) (rest : List (List Char)) (n : Nat) :
    nesting (line :: rest) (n + 1) = opening line - closing line + nesting rest n := by
  simp only [nesting, opening, closing, List.take_succ_cons, List.countP_cons]
  split_ifs <;> push_cast <;> ring

/-- Every line on the way stands at its nesting. -/
lemma Indents.isLineAt {d e : Int} {lines : List (List Char)} (h : Indents d lines e) (n : Nat)
    (line : List Char) (hn : lines[n]? = some line) : IsLineAt (d + nesting lines n) line := by
  induction h generalizing n with
  | nil d => simp at hn
  | @cons d e first rest hline _ ih =>
    cases n with
    | zero =>
      obtain rfl : first = line := by simpa using hn
      rwa [nesting_cons_zero, ← sub_eq_add_neg]
    | succ n =>
      have hrest := ih n (by simpa using hn)
      rw [nesting_cons_succ]
      convert hrest using 1
      ring

lemma Indents.eq_add {d e : Int} {lines : List (List Char)} (h : Indents d lines e) :
    e = d + lines.countP opens - lines.countP closes := by
  induction h with
  | nil d => simp
  | cons _ _ ih =>
    simp only [ih, opening, closing, List.countP_cons]
    split_ifs <;> push_cast <;> ring

/-- What calls look like in print, in a form that can be put together from parts: the last line
opens no level, and the walk through the lines ends where it began. -/
structure Laid (depth : Int) (cs : List Code) (lines : List (List Char)) : Prop where
  indents : Indents depth lines depth
  last : ∀ line ∈ lines.getLast?, opens line = false
  empty : lines.count [] = cs.countP isChildless
  length : lines.length =
    cs.countP (fun c => !c.isElement) + 2 * cs.countP isElement + cs.countP isChildless

lemma Laid.append {depth : Int} {cs ds : List Code} {xs ys : List (List Char)}
    (h : Laid depth cs xs) (h' : Laid depth ds ys) : Laid depth (cs ++ ds) (xs ++ ys) where
  indents := h.indents.append h'.indents
  last line hline := by
    rw [List.getLast?_append, Option.mem_def, Option.or_eq_some_iff] at hline
    rcases hline with hline | ⟨-, hline⟩
    · exact h'.last line hline
    · exact h.last line hline
  empty := by rw [List.count_append, List.countP_append, h.empty, h'.empty]
  length := by
    have hxs := h.length
    have hys := h'.length
    simp only [List.length_append, List.countP_append]
    omega

lemma Laid.laidOut {depth : Int} {cs : List Code} {lines : List (List Char)}
    (h : Laid depth cs lines) : LaidOut depth cs lines where
  indented n line hn := h.indents.isLineAt n line hn
  empty := h.empty
  closed := by
    -- the last line opens no level, so that nothing changes when it is counted with the others
    have htotal := h.indents.eq_add
    rcases lines.eq_nil_or_concat' with rfl | ⟨front, line, rfl⟩
    · rfl
    · have hopen : opens line = false := h.last line (by simp)
      have hall : (front ++ [line]).countP opens = front.countP opens := by
        simp [List.countP_append, hopen]
      have hlast : nesting (front ++ [line]) front.length =
          front.countP opens - (front ++ [line]).countP closes := by
        simp [nesting, List.take_length_add_append]
      rw [List.length_append, List.length_singleton, Nat.add_sub_cancel, hlast]
      omega
  length := h.length

/-! ## The lines of calls -/

lemma indent_eq_replicate (depth : Int) :
    indent depth = List.replicate (2 * max 0 depth).toNat ' ' := by
  have hdepth : 2 * depth.toNat = (2 * max 0 depth).toNat := by omega
  rw [indent, hdepth]

lemma closes_indent_append (depth : Int) {c : Char} (hc : c ≠ ' ') (rest : List Char) :
    closes (indent depth ++ c :: rest) = (c == ']') := by
  have hdrop : (indent depth ++ c :: rest).dropWhile (· == ' ') = c :: rest := by
    rw [indent, List.dropWhile_append_of_pos (by simp)]
    simp [hc]
  simp [closes, hdrop]

lemma opens_append_singleton (line : List Char) (c : Char) : opens (line ++ [c]) = (c == '[') := by
  simp [opens]

lemma isLineAt_indent_append (depth : Int) {c : Char} (hc : c ≠ ' ') (rest : List Char) :
    IsLineAt depth (indent depth ++ c :: rest) :=
  .inr ⟨c, rest, hc, by rw [indent_eq_replicate]⟩

/-- Nothing, or the comma between two calls. -/
def Separates (suffix : List Char) : Prop := suffix = [] ∨ suffix = [',']

lemma Separates.notMem {suffix : List Char} (h : Separates suffix) : '\n' ∉ suffix := by
  rcases h with rfl | rfl <;> simp

lemma opens_append_separates {suffix : List Char} (h : Separates suffix) (line : List Char) :
    opens (line ++ ')' :: suffix) = false := by
  rcases h with rfl | rfl
  · simp [opens]
  · simp [opens]

/-- An element is printed from its depth back to its depth, when its children are printed one level
deeper. -/
lemma indents_element {depth : Int} {c : Char} (hspace : c ≠ ' ') (hclose : c ≠ ']')
    (front : List Char) {inner : List (List Char)} (hinner : Indents (depth + 1) inner (depth + 1))
    {suffix : List Char} (hsuffix : Separates suffix) :
    Indents depth ((indent depth ++ c :: (front ++ ['['])) ::
      (inner ++ [indent depth ++ ']' :: ')' :: suffix])) depth := by
  have hopening : opening (indent depth ++ c :: (front ++ ['['])) = 1 := by
    rw [opening, ← List.cons_append, ← List.append_assoc, opens_append_singleton]
    rfl
  have hclosing : closing (indent depth ++ c :: (front ++ ['['])) = 0 := by
    simp [closing, closes_indent_append depth hspace, hclose]
  have hlastOpening : opening (indent depth ++ ']' :: ')' :: suffix) = 0 := by
    have hlast := opens_append_separates hsuffix (indent depth ++ [']'])
    rw [List.append_assoc, List.singleton_append] at hlast
    simp [opening, hlast]
  have hlastClosing : closing (indent depth ++ ']' :: ')' :: suffix) = 1 := by
    simp [closing, closes_indent_append depth (c := ']') (by decide)]
  refine .cons ?_ ?_
  · rw [hclosing, sub_zero]
    exact isLineAt_indent_append depth hspace _
  · rw [hclosing, hopening, sub_zero]
    refine hinner.append (.cons ?_ ?_)
    · rw [hlastClosing, add_sub_cancel_right]
      exact isLineAt_indent_append depth (by decide) _
    · rw [hlastClosing, hlastOpening, add_sub_cancel_right, add_zero]
      exact .nil depth

/-- The lines of an element: that of its opener, those of its children and that of its closer.  An
element without children has an empty line in their place. -/
lemma laid_element {depth : Int} {c : Char} (hspace : c ≠ ' ') (hclose : c ≠ ']')
    (front : List Char) {tag : String} {attributes : List (String × String)} {children : List Code}
    {inner : List (List Char)} {suffix : List Char} (hsuffix : Separates suffix)
    (hinner : children = [] ∧ inner = [[]] ∨
      children ≠ [] ∧ Laid (depth + 1) (callsAll children) inner) :
    Laid depth (calls (element tag attributes children))
      ((indent depth ++ c :: (front ++ ['['])) ::
        (inner ++ [indent depth ++ ']' :: ')' :: suffix])) := by
  have hlast : opens (indent depth ++ ']' :: ')' :: suffix) = false := by
    have h := opens_append_separates hsuffix (indent depth ++ [']'])
    rwa [List.append_assoc, List.singleton_append] at h
  rcases hinner with ⟨rfl, rfl⟩ | ⟨hchildren, hlaid⟩
  · have hempty : Indents (depth + 1) [[]] (depth + 1) := .cons (.inl rfl) (by
      simpa [closing, opening, closes, opens] using Indents.nil (depth + 1))
    refine ⟨indents_element hspace hclose front hempty hsuffix, ?_, ?_, ?_⟩
    · simpa using hlast
    · simp [calls, callsAll, isChildless]
    · simp [calls, callsAll, isChildless, isElement]
  · have hnot : isChildless (element tag attributes children) = false := by
      cases children with
      | nil => exact absurd rfl hchildren
      | cons d rest => rfl
    refine ⟨indents_element hspace hclose front hlaid.indents hsuffix, ?_, ?_, ?_⟩
    · simpa [List.getLast?_cons] using hlast
    · simp [calls, hnot, hlaid.empty]
    · have hlength := hlaid.length
      have helement : isElement (element tag attributes children) = true := rfl
      simp only [calls, List.length_cons, List.length_append, List.length_nil, List.countP_cons,
        hnot, helement, Bool.not_true, Bool.false_eq_true, if_false, if_true]
      omega

/-- The line of a call that has no children. -/
lemma laid_line {depth : Int} {c : Char} (hspace : c ≠ ' ') (hclose : c ≠ ']') (rest : List Char)
    {call : Code} (hcall : call.isElement = false) {suffix : List Char}
    (hsuffix : Separates suffix) :
    Laid depth [call] [indent depth ++ c :: (rest ++ ')' :: suffix)] := by
  have hopen : opens (indent depth ++ c :: (rest ++ ')' :: suffix)) = false := by
    have h := opens_append_separates hsuffix (indent depth ++ c :: rest)
    rwa [List.append_assoc, List.cons_append] at h
  have hnot : closes (indent depth ++ c :: (rest ++ ')' :: suffix)) = false := by
    simp [closes_indent_append depth hspace, hclose]
  have hchildless : call.isChildless = false := by
    cases call with
    | element tag attributes children => exact absurd hcall (by simp [isElement])
    | _ => rfl
  refine ⟨.cons ?_ ?_, ?_, ?_, ?_⟩
  · rw [closing, hnot]
    simpa using isLineAt_indent_append depth hspace _
  · rw [closing, hnot, opening, hopen]
    simpa using Indents.nil depth
  · simpa using hopen
  · simp [hchildless]
  · simp [hcall, hchildless]

/-! ## Lines without a break -/

lemma newline_notMem_quotedChar (c : Char) : '\n' ∉ Literal.quotedChar c := by
  unfold Literal.quotedChar
  split_ifs with _ _ hbreak
  · simp
  · simp
  · simp
  · simp
  · simp
  · simp
  · simp [Literal.notMem_hexPad (c := '\n') (by decide)]
  · have hne : c ≠ '\n' := by simpa using hbreak
    simpa using hne.symm

lemma newline_notMem_quoted (cs : List Char) : '\n' ∉ Literal.quoted cs := by
  have hbody : '\n' ∉ Literal.quotedBody cs := by
    intro h
    obtain ⟨c, -, hc⟩ := List.mem_flatMap.1 h
    exact newline_notMem_quotedChar c hc
  simp [Literal.quoted, hbody]

lemma newline_notMem_attributeList {attributes : List (String × String)}
    (h : ∀ a ∈ attributes, isName a.1) : '\n' ∉ Literal.attributeList attributes := by
  have hword : '\n' ∉ "attribute.".toList := by decide
  have hcalls : '\n' ∉ attributes.flatMap Literal.attributeCall := by
    intro hmem
    obtain ⟨a, ha, hbreak⟩ := List.mem_flatMap.1 hmem
    have hkey : '\n' ∉ a.1.toList := notMem_of_isName (h a ha) (d := '\n') (by decide)
    have hvalue := newline_notMem_quoted a.2.toList
    unfold Literal.attributeCall at hbreak
    simp only [List.mem_append, List.mem_cons, hword, hkey, hvalue, false_or] at hbreak
    simp at hbreak
  simp [Literal.attributeList, hcalls]

lemma newline_notMem_textBody {cs : List Char} (h : '\n' ∉ cs) : '\n' ∉ Literal.textBody cs := by
  intro hmem
  obtain ⟨c, hc, hbreak⟩ := List.mem_flatMap.1 hmem
  have hne : c ≠ '\n' := fun heq => h (heq ▸ hc)
  unfold Literal.textChar at hbreak
  split_ifs at hbreak
  · simp at hbreak
  · exact hne (List.mem_singleton.1 hbreak).symm

/-- A call starts with its constructor, whose first character is neither a space nor a bracket. -/
lemma exists_callee_eq_cons (mode : PrefixMode) {c : Code} (hc : c.named) :
    ∃ first rest, c.callee mode = first :: rest ∧ first ≠ ' ' ∧ first ≠ ']' := by
  have hname {s : String} (hs : isName s) : s.toList ≠ [] := by
    intro hnil
    simp [isName, String.toList_eq_nil_iff.1 hnil] at hs
  have hne : c.callee mode ≠ [] := by
    cases c with
    | element tag _ _ => simp [hname (named_element.1 hc).1]
    | selfClosing tag _ => simp [hname (named_selfClosing.1 hc).1]
    | rawHtml _ _ _ _ => simp
    | text _ => simp
  have hspace : ' ' ∉ c.callee mode := notMem_callee mode hc (by decide)
  have hbracket : ']' ∉ c.callee mode := notMem_callee mode hc (by decide)
  obtain ⟨first, rest, heq⟩ := List.exists_cons_of_ne_nil hne
  rw [heq, List.mem_cons, not_or] at hspace hbracket
  exact ⟨first, rest, heq, Ne.symm hspace.1, Ne.symm hbracket.1⟩

/-! ## Printed calls -/

lemma splitOn_append_newline (xs ys : List Char) :
    (xs ++ '\n' :: ys).splitOn '\n' = xs.splitOn '\n' ++ ys.splitOn '\n' := by
  simp only [List.splitOn_eq_splitOnP]
  exact List.splitOnP_append_cons xs ys (by simp)

/-- What a call without children is printed as, on one line. -/
lemma exists_render_eq (mode : PrefixMode) (depth : Int) {c : Code} (hc : c.named)
    (hleaf : c.isElement = false) (htexts : ∀ s, text s ∈ c.calls → '\n' ∉ s.toList) :
    ∃ rest, render mode depth c = indent depth ++ (c.callee mode ++ (rest ++ [')'])) ∧
      '\n' ∉ rest := by
  cases c with
  | element tag attributes children => exact absurd hleaf (by simp [isElement])
  | selfClosing tag attributes =>
    have hattributes := newline_notMem_attributeList (named_selfClosing.1 hc).2
    refine ⟨'(' :: Literal.attributeList attributes, ?_, by simp [hattributes]⟩
    simp [render]
  | rawHtml space tag attributes content =>
    have hattributes := newline_notMem_attributeList (named_rawHtml.1 hc)
    refine ⟨'(' :: (Literal.quoted space.toList ++ (", ".toList ++ (Literal.quoted tag.toList ++
      (", ".toList ++ (Literal.attributeList attributes ++ (", ".toList ++
        Literal.quoted content.toList)))))), ?_, ?_⟩
    · simp [render]
    · simp [hattributes, newline_notMem_quoted]
  | text content =>
    have hcontent : '\n' ∉ Literal.textBody content.toList :=
      newline_notMem_textBody (htexts content (by simp [calls]))
    refine ⟨'(' :: '"' :: (Literal.textBody content.toList ++ ['"']), ?_, by simp [hcontent]⟩
    simp [render]

lemma laid_leaf (mode : PrefixMode) (depth : Int) {c : Code} (hc : c.named)
    (hleaf : c.isElement = false) (htexts : ∀ s, text s ∈ c.calls → '\n' ∉ s.toList)
    {suffix : List Char} (hsuffix : Separates suffix) :
    Laid depth c.calls ((render mode depth c ++ suffix).splitOn '\n') := by
  obtain ⟨rest, hrender, hrest⟩ := exists_render_eq mode depth hc hleaf htexts
  obtain ⟨first, more, hcallee, hspace, hclose⟩ := exists_callee_eq_cons mode hc
  have hcalls : c.calls = [c] := by
    cases c with
    | element tag attributes children => exact absurd hleaf (by simp [isElement])
    | _ => rfl
  have hline : render mode depth c ++ suffix =
      indent depth ++ first :: ((more ++ rest) ++ ')' :: suffix) := by
    rw [hrender, hcallee]
    simp
  have hbreak : '\n' ∉ render mode depth c ++ suffix := by
    have hindent := notMem_indent depth (d := '\n') (by decide)
    have hname := notMem_callee mode hc (d := '\n') (by decide)
    rw [hrender]
    simp [hindent, hname, hrest, hsuffix.notMem]
  rw [List.splitOn_eq_singleton hbreak, hline, hcalls]
  exact laid_line hspace hclose (more ++ rest) hleaf hsuffix

mutual

/-- A call is printed from its depth back to its depth, with a comma after it or without one. -/
lemma laid_render (mode : PrefixMode) (depth : Int) (suffix : List Char)
    (hsuffix : Separates suffix) : (c : Code) → c.named →
      (∀ s, text s ∈ c.calls → '\n' ∉ s.toList) →
      Laid depth c.calls ((render mode depth c ++ suffix).splitOn '\n')
  | element tag attributes children, hc, htexts => by
    obtain ⟨-, hattributes, hchildren⟩ := named_element.1 hc
    obtain ⟨first, more, hcallee, hspace, hclose⟩ := exists_callee_eq_cons mode hc
    let front := more ++ '(' :: (Literal.attributeList attributes ++ [',', ' '])
    have hlines : render mode depth (element tag attributes children) ++ suffix =
        (indent depth ++ first :: (front ++ ['['])) ++ '\n' ::
          (renderAll mode (depth + 1) children ++ '\n' ::
            (indent depth ++ ']' :: ')' :: suffix)) := by
      have hfront : mode.qualifier ++ tag.toList = first :: more := hcallee
      rw [render, ← List.append_assoc mode.qualifier, hfront]
      simp [front]
    have hfirst : '\n' ∉ indent depth ++ first :: (front ++ ['[']) := by
      have hindent := notMem_indent depth (d := '\n') (by decide)
      have hname := notMem_callee mode hc (d := '\n') (by decide)
      have hlist := newline_notMem_attributeList hattributes
      rw [hcallee, List.mem_cons, not_or] at hname
      simp [front, hindent, hname, hlist]
    have hlast : '\n' ∉ indent depth ++ ']' :: ')' :: suffix := by
      have hindent := notMem_indent depth (d := '\n') (by decide)
      simp [hindent, hsuffix.notMem]
    rw [hlines, splitOn_append_newline, splitOn_append_newline, List.splitOn_eq_singleton hfirst,
      List.splitOn_eq_singleton hlast, List.singleton_append]
    refine laid_element hspace hclose front hsuffix ?_
    by_cases hnil : children = []
    · left
      subst hnil
      exact ⟨rfl, by simp [renderAll]⟩
    · right
      refine ⟨hnil, laid_renderAll mode (depth + 1) children hnil hchildren ?_⟩
      exact fun s hs => htexts s (by simp [calls, hs])
  | selfClosing tag attributes, hc, htexts => laid_leaf mode depth hc rfl htexts hsuffix
  | rawHtml space tag attributes content, hc, htexts => laid_leaf mode depth hc rfl htexts hsuffix
  | text content, hc, htexts => laid_leaf mode depth hc rfl htexts hsuffix

/-- Calls at one depth are printed from this depth back to it. -/
lemma laid_renderAll (mode : PrefixMode) (depth : Int) : (cs : List Code) → cs ≠ [] →
    namedAll cs → (∀ s, text s ∈ callsAll cs → '\n' ∉ s.toList) →
    Laid depth (callsAll cs) ((renderAll mode depth cs).splitOn '\n')
  | [], hne, _, _ => absurd rfl hne
  | [c], _, hcs, htexts => by
    have hc := laid_render mode depth [] (.inl rfl) c (namedAll_cons.1 hcs).1
      (fun s hs => htexts s (by simp [callsAll, hs]))
    rw [List.append_nil] at hc
    simpa [callsAll, renderAll] using hc
  | c :: d :: rest, _, hcs, htexts => by
    obtain ⟨hc, hrest⟩ := namedAll_cons.1 hcs
    have hfirst := laid_render mode depth [','] (.inr rfl) c hc
      (fun s hs => htexts s (by simp [callsAll, hs]))
    have hlater := laid_renderAll mode depth (d :: rest) (by simp) hrest
      (fun s hs => htexts s (by rw [callsAll]; exact List.mem_append_right _ hs))
    have hlines : renderAll mode depth (c :: d :: rest) =
        (render mode depth c ++ [',']) ++ '\n' :: renderAll mode depth (d :: rest) := by
      simp [renderAll]
    rw [hlines, splitOn_append_newline, callsAll]
    exact hfirst.append hlater

end

/-- **Indentation follows the brackets.**  Whatever the attribute values and the raw HTML in it, a
call without line breaks in its texts is printed at any depth so that every line is indented by its
nesting, that the nesting is zero on the last line, that the empty lines are those of the elements
without children, and that the number of lines is known from the calls.  So are calls at the
outermost level. -/
theorem laidOut_print (mode : PrefixMode) :
    (∀ (depth : Int) (c : Code), c.named → (∀ s, text s ∈ c.calls → '\n' ∉ s.toList) →
      LaidOut depth c.calls ((print mode depth c).toList.splitOn '\n')) ∧
    ∀ cs : List Code, cs ≠ [] → namedAll cs → (∀ s, text s ∈ callsAll cs → '\n' ∉ s.toList) →
      LaidOut 0 (callsAll cs) ((printAll mode cs).toList.splitOn '\n') := by
  constructor
  · intro depth c hc htexts
    have hlaid := laid_render mode depth [] (.inl rfl) c hc htexts
    rw [List.append_nil] at hlaid
    rw [print, String.toList_ofList]
    exact hlaid.laidOut
  · intro cs hne hcs htexts
    rw [printAll, String.toList_ofList]
    exact (laid_renderAll mode 0 cs hne hcs htexts).laidOut

/-- A list at a negative depth, with brackets and line breaks in its strings and an item without
children: seven lines, one of them empty. -/
theorem laidOut_brackets_in_strings :
    let c := element "ul" [("k", "]\n[")]
      [element "li" [] [], text "  ] [", rawHtml "a\n" "[" [] "]"]
    let lines := (print .bare (-1) c).toList.splitOn '\n'
    lines.length = 7 ∧ lines.count [] = 1 ∧ nesting lines 6 = 0 ∧
      ∀ line, lines[4]? = some line → IsLineAt (-1 + nesting lines 4) line := by
  intro c lines
  have htexts : ∀ s, text s ∈ c.calls → '\n' ∉ s.toList := by
    intro s hs
    obtain rfl : s = "  ] [" := by simpa [c, calls, callsAll] using hs
    decide
  have hlaid := (laidOut_print .bare).1 (-1) c (by decide) htexts
  have hlength : lines.length = 7 := hlaid.length
  refine ⟨hlength, hlaid.empty, ?_, hlaid.indented 4⟩
  have hclosed := hlaid.closed
  rwa [hlength] at hclosed

end ElementCode.Code
