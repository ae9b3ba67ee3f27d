import ElementCode.Proofs.Containment

/-!
# What literals mean

`readChar` takes the first character off a literal body, escapes included.  Repeated up to a quote
that is not escaped it reads a quoted string (`readQuoted`), and repeated to the end of a body it
says what the body means (`decode`).

* A quoted string is read back in front of any text, and it holds no control character.  So an
  attribute list, whose attributes stand side by side, is taken apart without a separator
  (`readQuoted_quoted_append`).
* The content of a code block is written with its quotes and backslashes escaped, which is a code
  for single characters (`textBody_doubled`).  It means the content, and nothing shorter does: a
  character of a body stands for one character, a quote or a backslash takes two
  (`length_le_of_decode`).  A text argument is shorter than that by its backslashes, so it means its
  content only when there are none (`decode_textBody_iff`).
-/

namespace ElementCode

namespace Literal

/-! ## Reading item by item -/

section ReadUntil

variable {α : Type} {stop : Char} {item : List Char → Option (α × List Char)}

/-- Reads items one after the other, up to the character `stop` or the end of the text.  An item
takes at least one character. -/
def readUntil (stop : Char) (item : List Char → Option (α × List Char)) (text : List Char) :
    Option (List α × List Char) :=
  match text with
  | [] => some ([], [])
  | c :: cs =>
    if c = stop then some ([], c :: cs)
    else
      (item (c :: cs)).bind fun (a, rest) =>
        if rest.length ≤ cs.length then
          (readUntil stop item rest).map fun (as, after) => (a :: as, after)
        else none
termination_by text.length
decreasing_by
  rw [List.length_cons]
  omega

/-- What `readUntil` leaves: nothing, or a text that starts with the character it stops at. -/
def EndsAt (stop : Char) (rest : List Char) : Prop := rest = [] ∨ ∃ after, rest = stop :: after

lemma readUntil_of_endsAt {rest : List Char} (h : EndsAt stop rest) :
    readUntil stop item rest = some ([], rest) := by
  rcases h with rfl | ⟨after, rfl⟩
  · rw [readUntil]
  · rw [readUntil, if_pos rfl]

lemma readUntil_cons {c : Char} {cs rest : List Char} {a : α} (hc : c ≠ stop)
    (hitem : item (c :: cs) = some (a, rest)) (hrest : rest.length ≤ cs.length) :
    readUntil stop item (c :: cs) =
      (readUntil stop item rest).map fun (as, after) => (a :: as, after) := by
  rw [readUntil, if_neg hc, hitem, Option.bind_some]
  exact if_pos hrest

/-- A list written item by item is read back, when the reader takes each item off the text in front
of it and no item starts with the character that ends the list. -/
lemma readUntil_flatMap {f : α → List Char} {as : List α} {rest : List Char}
    (hitem : ∀ a ∈ as, ∀ r, item (f a ++ r) = some (a, r))
    (hstart : ∀ a ∈ as, ∃ c cs, f a = c :: cs ∧ c ≠ stop) (hrest : EndsAt stop rest) :
    readUntil stop item (as.flatMap f ++ rest) = some (as, rest) := by
  induction as with
  | nil => exact readUntil_of_endsAt hrest
  | cons a as ih =>
    have ih' := ih (fun b hb => hitem b (List.mem_cons_of_mem a hb))
      (fun b hb => hstart b (List.mem_cons_of_mem a hb))
    obtain ⟨c, cs, hfa, hc⟩ := hstart a List.mem_cons_self
    have hfirst := hitem a List.mem_cons_self (as.flatMap f ++ rest)
    rw [hfa, List.cons_append] at hfirst
    rw [List.flatMap_cons, List.append_assoc, hfa, List.cons_append,
      readUntil_cons hc hfirst (by simp), ih']
    rfl

/-- When every item takes at least as much text as `f` writes for it, so do all of them. -/
lemma length_le_of_readUntil {f : α → List Char}
    (hitem : ∀ text a rest, item text = some (a, rest) →
      (f a).length + rest.length ≤ text.length) (text : List Char) :
    ∀ as rest, readUntil stop item text = some (as, rest) →
      (as.flatMap f).length + rest.length ≤ text.length := by
  fun_induction readUntil stop item text with
  | case1 =>
    intro as rest h
    obtain ⟨rfl, rfl⟩ := Prod.mk.inj (Option.some.inj h)
    simp
  | case2 cs =>
    intro as rest h
    obtain ⟨rfl, rfl⟩ := Prod.mk.inj (Option.some.inj h)
    simp
  | case3 c cs hc ih =>
    intro as rest h
    obtain ⟨⟨a, after⟩, hfirst, h⟩ := Option.bind_eq_some_iff.1 h
    dsimp only at h
    split_ifs at h with hshorter
    obtain ⟨⟨more, rest'⟩, hmore, h⟩ := Option.map_eq_some_iff.1 h
    obtain ⟨rfl, rfl⟩ := Prod.mk.inj h
    have hone := hitem _ a after hfirst
    have hall := ih after hshorter more rest' hmore
    dsimp only at hall ⊢
    rw [List.flatMap_cons, List.length_append]
    omega

end ReadUntil

/-! ## The readers -/

/-- Reads a body up to a quote that is not escaped, or to the end of the text. -/
def readBody (text : List Char) : Option (List Char × List Char) := readUntil '"' readChar text

/-- Reads a quoted string: an opening quote, a body, and the first quote that is not escaped. -/
def readQuoted : List Char → Option (List Char × List Char)
  | '"' :: text =>
    match readBody text with
    | some (value, '"' :: rest) => some (value, rest)
    | _ => none
  | _ => none

/-- What a body means.  A quote that is not escaped is no part of a body. -/
def decode (body : List Char) : Option (List Char) :=
  match readBody body with
  | some (value, []) => some value
  | _ => none

/-- Reads one attribute.  Its name goes up to the first parenthesis. -/
def readAttribute (text : List Char) : Option ((String × String) × List Char) := do
  let call ← text.dropPrefix? "attribute.".toList
  match call.dropWhile (· ≠ '(') with
  | _ :: argument =>
    match ← readQuoted argument with
    | (value, ')' :: rest) =>
      some ((String.ofList (call.takeWhile (· ≠ '(')), String.ofList value), rest)
    | _ => none
  | [] => none

/-- Reads an attribute list in its brackets. -/
def readAttributeList : List Char → Option (List (String × String) × List Char)
  | '[' :: text =>
    match readUntil ']' readAttribute text with
    | some (attributes, ']' :: rest) => some (attributes, rest)
    | _ => none
  | _ => none

/-! ## Quoted strings -/

/-- The control characters: those below the space, and the delete character. -/
def IsControl (c : Char) : Prop := c.toNat < 0x20 ∨ c.toNat = 0x7F

instance : DecidablePred IsControl := fun c =>
  inferInstanceAs (Decidable (c.toNat < 0x20 ∨ c.toNat = 0x7F))

/-- A body is read back, whatever code for single characters it is written in, when `readChar` reads
that code. -/
lemma readBody_flatMap {f : Char → List Char}
    (hread : ∀ c rest, readChar (f c ++ rest) = some (c, rest)) (cs : List Char) {rest : List Char}
    (hrest : EndsAt '"' rest) : readBody (cs.flatMap f ++ rest) = some (cs, rest) := by
  refine readUntil_flatMap (fun c _ => hread c) (fun c _ => ?_) hrest
  have hc := hread c []
  rw [List.append_nil] at hc
  cases hf : f c with
  | nil =>
    rw [hf] at hc
    exact absurd hc (by simp [readChar])
  | cons d ds =>
    refine ⟨d, ds, rfl, ?_⟩
    rintro rfl
    rw [hf] at hc
    exact absurd hc (by simp [readChar])

lemma readQuoted_quoted (value rest : List Char) :
    readQuoted (quoted value ++ rest) = some (value, rest) := by
  have hbody : readBody (quotedBody value ++ '"' :: rest) = some (value, '"' :: rest) :=
    readBody_flatMap readChar_quotedChar value (.inr ⟨rest, rfl⟩)
  rw [quoted, List.cons_append, List.append_assoc, List.singleton_append, readQuoted, hbody]
  rfl

lemma not_isControl_hexDigit {n : Nat} (hn : n < 16) : ¬ IsControl (Text.hexDigit true n) := by
  interval_cases n <;> decide

lemma not_isControl_of_mem_hexPad (width n : Nat) :
    ∀ c ∈ Text.hexPad true width n, ¬ IsControl c := by
  induction width generalizing n with
  | zero => simp [Text.hexPad]
  | succ width ih =>
    rw [Text.hexPad, List.forall_mem_append, List.forall_mem_singleton]
    exact ⟨ih _, not_isControl_hexDigit (Nat.mod_lt n (by decide))⟩

lemma not_isControl_of_mem_quotedChar (c : Char) : ∀ d ∈ quotedChar c, ¬ IsControl d := by
  have hescape : ∀ d, ¬ IsControl d → ∀ e ∈ ['\\', d], ¬ IsControl e := by
    intro d hd
    rw [List.forall_mem_cons, List.forall_mem_singleton]
    exact ⟨by decide, hd⟩
  unfold quotedChar
  split_ifs with _ _ _ _ _ _ hcontrol
  · exact hescape _ (by decide)
  · exact hescape _ (by decide)
  · exact hescape _ (by decide)
  · exact hescape _ (by decide)
  · exact hescape _ (by decide)
  · exact hescape _ (by decide)
  · rw [List.forall_mem_append, List.forall_mem_append, List.forall_mem_cons,
      List.forall_mem_cons, List.forall_mem_singleton, List.forall_mem_singleton]
    exact ⟨⟨⟨by decide, by decide, by decide⟩, not_isControl_of_mem_hexPad 4 c.toNat⟩, by decide⟩
  · simpa [IsControl] using hcontrol

lemma not_isControl_of_mem_quoted (value : List Char) : ∀ c ∈ quoted value, ¬ IsControl c := by
  have hquote : ¬ IsControl '"' := by decide
  rw [quoted, List.forall_mem_cons, List.forall_mem_append, List.forall_mem_singleton]
  refine ⟨hquote, fun c hc => ?_, hquote⟩
  obtain ⟨d, -, hd⟩ := List.mem_flatMap.1 hc
  exact not_isControl_of_mem_quotedChar d c hd

/-- An attribute is read back in front of any text; its name ends at the first parenthesis. -/
lemma readAttribute_attributeCall {a : String × String} (ha : '(' ∉ a.1.toList)
    (rest : List Char) : readAttribute (attributeCall a ++ rest) = some (a, rest) := by
  have hcall : attributeCall a ++ rest =
      "attribute.".toList ++ (a.1.toList ++ '(' :: (quoted a.2.toList ++ ')' :: rest)) := by
    unfold attributeCall
    generalize "attribute.".toList = mark
    simp only [List.append_assoc, List.cons_append, List.nil_append]
  have hdrop : (attributeCall a ++ rest).dropPrefix? "attribute.".toList =
      some (a.1.toList ++ '(' :: (quoted a.2.toList ++ ')' :: rest)) := by
    rw [hcall, List.dropPrefix?_eq_some_iff]
    exact ⟨_, rfl, by simp⟩
  have hname : ∀ c ∈ a.1.toList, decide (c ≠ '(') = true := by
    intro c hc
    simp only [decide_eq_true_eq]
    rintro rfl
    exact ha hc
  have hkey : (a.1.toList ++ '(' :: (quoted a.2.toList ++ ')' :: rest)).takeWhile (· ≠ '(') =
      a.1.toList := by
    rw [List.takeWhile_append_of_pos hname]
    simp
  have hargument : (a.1.toList ++ '(' :: (quoted a.2.toList ++ ')' :: rest)).dropWhile (· ≠ '(') =
      '(' :: (quoted a.2.toList ++ ')' :: rest) := by
    rw [List.dropWhile_append_of_pos hname]
    simp
  rw [readAttribute, hdrop]
  simp only [Option.bind_eq_bind, Option.bind_some, hkey, hargument, readQuoted_quoted,
    String.ofList_toList]

lemma exists_attributeCall_eq (a : String × String) :
    ∃ c cs, attributeCall a = c :: cs ∧ c ≠ ']' :=
  ⟨'a', _, rfl, by decide⟩

/-- **Quoted strings delimit themselves.**  A quoted string is read back exactly, whatever it holds
and whatever follows it, and no control character occurs in it.  So an attribute list whose names
hold no parenthesis is taken apart again, in order and in front of any text, although nothing
separates the attributes. -/
theorem readQuoted_quoted_append :
    (∀ value rest, readQuoted (quoted value ++ rest) = some (value, rest)) ∧
    (∀ value, ∀ c ∈ quoted value, ¬ IsControl c) ∧
    ∀ attributes : List (String × String), (∀ a ∈ attributes, '(' ∉ a.1.toList) →
      ∀ rest, readAttributeList (attributeList attributes ++ rest) = some (attributes, rest) := by
  refine ⟨readQuoted_quoted, not_isControl_of_mem_quoted, fun attributes hkeys rest => ?_⟩
  have hlist : readUntil ']' readAttribute (attributes.flatMap attributeCall ++ ']' :: rest) =
      some (attributes, ']' :: rest) :=
    readUntil_flatMap (fun a ha => readAttribute_attributeCall (hkeys a ha))
      (fun a _ => exists_attributeCall_eq a) (.inr ⟨rest, rfl⟩)
  rw [attributeList, List.cons_append, List.append_assoc, List.singleton_append,
    readAttributeList, hlist]
  rfl

/-- The values imitate the end of an attribute, an escape and the end of the list, and one name is
empty. -/
theorem readAttributeList_imitations :
    let attributes :=
      [("href", "\\u\x7b0041\x7d\")attribute.src(\"a"), ("", "\n\x00\x7f]"), ("]", "")]
    (∀ a ∈ attributes, '(' ∉ a.1.toList) ∧
      readAttributeList (attributeList attributes ++ ")]".toList) =
        some (attributes, ")]".toList) := by
  intro attributes
  have hkeys : ∀ a ∈ attributes, '(' ∉ a.1.toList := by
    simp [attributes]
  exact ⟨hkeys, readQuoted_quoted_append.2.2 attributes hkeys _⟩

/-! ## The content of code blocks -/

/-- One character of the content of a code block, as it is printed. -/
def codeChar (c : Char) : List Char := textBody (doubledChar c)

/-- Doubling the backslashes and then escaping the quotes is a code for single characters. -/
lemma textBody_doubled (cs : List Char) : textBody (doubled cs) = cs.flatMap codeChar :=
  List.flatMap_assoc

lemma codeChar_slash : codeChar '\\' = ['\\', '\\'] := rfl

lemma codeChar_quote : codeChar '"' = ['\\', '"'] := rfl

lemma codeChar_of_ne {c : Char} (hslash : c ≠ '\\') (hquote : c ≠ '"') : codeChar c = [c] := by
  simp [codeChar, textBody, textChar, doubledChar, hslash, hquote]

/-- A character of a code block is read back in front of any text. -/
lemma readChar_codeChar (c : Char) (rest : List Char) :
    readChar (codeChar c ++ rest) = some (c, rest) := by
  by_cases hslash : c = '\\'
  · subst hslash
    rfl
  · by_cases hquote : c = '"'
    · subst hquote
      rfl
    · rw [codeChar_of_ne hslash hquote, List.singleton_append, readChar]
      · rw [if_neg (by simp [hslash, hquote])]
      all_goals simp_all

/-- The body of a code block means its content. -/
lemma decode_textBody_doubled (cs : List Char) : decode (textBody (doubled cs)) = some cs := by
  have hbody := readBody_flatMap readChar_codeChar cs (.inl rfl)
  rw [List.append_nil, ← textBody_doubled] at hbody
  rw [decode, hbody]

/-! ## Nothing shorter means the same -/

lemma length_le_of_readHex (text : List Char) (seen : Option Nat) :
    ∀ n rest, readHex seen text = some (n, rest) → rest.length ≤ text.length := by
  fun_induction readHex seen text with
  | case1 => simp
  | case2 seen rest =>
    intro n after h
    obtain ⟨m, -, hm⟩ := Option.map_eq_some_iff.1 h
    rw [← (Prod.mk.inj hm).2, List.length_cons]
    omega
  | case3 seen c rest hc ih =>
    intro n after h
    obtain ⟨d, -, h⟩ := Option.bind_eq_some_iff.1 h
    have hafter := ih d n after h
    rw [List.length_cons]
    omega

lemma length_codeChar_le (c : Char) : (codeChar c).length ≤ 2 := by
  by_cases hslash : c = '\\'
  · simp [hslash, codeChar_slash]
  · by_cases hquote : c = '"'
    · simp [hquote, codeChar_quote]
    · simp [codeChar_of_ne hslash hquote]

/-- A character takes at least as much of a body as a code block writes for it. -/
lemma length_codeChar_add_le (text : List Char) (c : Char) (rest : List Char)
    (h : readChar text = some (c, rest)) : (codeChar c).length + rest.length ≤ text.length := by
  have hc := length_codeChar_le c
  unfold readChar at h
  split at h
  · next digits =>
    obtain ⟨⟨n, after⟩, hhex, h⟩ := Option.bind_eq_some_iff.1 h
    have hafter := length_le_of_readHex _ _ n after hhex
    dsimp only at h
    split_ifs at h
    obtain ⟨-, rfl⟩ := Prod.mk.inj (Option.some.inj h)
    simp only [List.length_cons]
    omega
  · next letter after _ =>
    obtain ⟨value, -, h⟩ := Option.map_eq_some_iff.1 h
    obtain ⟨-, rfl⟩ := Prod.mk.inj h
    simp only [List.length_cons]
    omega
  · next d after _ _ =>
    split_ifs at h with hplain
    obtain ⟨rfl, rfl⟩ := Prod.mk.inj (Option.some.inj h)
    rw [not_or] at hplain
    rw [codeChar_of_ne hplain.2 hplain.1, List.length_singleton, List.length_cons]
    omega
  · exact absurd h (by simp)

/-- No body is shorter than that of a code block with the same meaning. -/
lemma length_le_of_decode {body cs : List Char} (h : decode body = some cs) :
    (textBody (doubled cs)).length ≤ body.length := by
  unfold decode at h
  split at h
  · next value hbody =>
    obtain rfl := Option.some.inj h
    have hlength := length_le_of_readUntil length_codeChar_add_le body _ _ hbody
    rwa [List.length_nil, Nat.add_zero, ← textBody_doubled] at hlength
  · exact absurd h (by simp)

/-- Doubling makes a body longer by the number of backslashes. -/
lemma length_textBody_doubled (cs : List Char) :
    (textBody (doubled cs)).length = (textBody cs).length + cs.count '\\' := by
  induction cs with
  | nil => rfl
  | cons c cs ih =>
    by_cases hslash : c = '\\'
    · subst hslash
      rw [doubled_cons_slash, textBody_cons_of_ne (by decide), textBody_cons_of_ne (by decide),
        textBody_cons_of_ne (by decide), List.count_cons_self, List.length_cons, List.length_cons,
        List.length_cons, ih]
      omega
    · rw [doubled_cons_of_ne hslash, textBody_cons, textBody_cons, List.length_append,
        List.length_append, List.count_cons_of_ne hslash, ih]
      omega

lemma doubled_of_notMem {cs : List Char} (h : '\\' ∉ cs) : doubled cs = cs := by
  induction cs with
  | nil => rfl
  | cons c cs ih =>
    rw [List.mem_cons, not_or] at h
    rw [doubled_cons_of_ne (Ne.symm h.1), ih h.2]

/-- A text argument means its content exactly when the content has no backslash. -/
lemma decode_textBody_iff (cs : List Char) : decode (textBody cs) = some cs ↔ '\\' ∉ cs := by
  constructor
  · intro h
    have hlength := length_le_of_decode h
    rw [length_textBody_doubled] at hlength
    exact List.count_eq_zero.1 (by omega)
  · intro h
    have hdecode := decode_textBody_doubled cs
    rwa [doubled_of_notMem h] at hdecode

/-! ## Code blocks and quoted strings -/

lemma quotedChar_eq_codeChar_iff (c : Char) : quotedChar c = codeChar c ↔ ¬ IsControl c := by
  by_cases hslash : c = '\\'
  · subst hslash
    exact iff_of_true rfl (by decide)
  by_cases hquote : c = '"'
  · subst hquote
    exact iff_of_true rfl (by decide)
  rw [codeChar_of_ne hslash hquote]
  unfold quotedChar
  simp only [beq_iff_eq, hslash, hquote, if_false]
  split_ifs with hn hr ht hf hcontrol
  · subst hn
    decide
  · subst hr
    decide
  · subst ht
    decide
  · subst hf
    decide
  · -- a numbered escape has eight characters
    refine iff_of_false (fun h => ?_) ?_
    · have hlength := congrArg List.length h
      simp at hlength
    · exact not_not.2 (by simpa [IsControl] using hcontrol)
  · exact iff_of_true rfl (by simpa [IsControl] using hcontrol)

/-- A quoted string is written like the content of a code block exactly when it has no control
characters. -/
lemma quotedBody_eq_iff (cs : List Char) :
    quotedBody cs = textBody (doubled cs) ↔ ∀ c ∈ cs, ¬ IsControl c := by
  rw [textBody_doubled]
  induction cs with
  | nil => exact iff_of_true rfl (by simp)
  | cons c cs ih =>
    rw [quotedBody, List.flatMap_cons, List.flatMap_cons, List.forall_mem_cons, ← ih,
      ← quotedChar_eq_codeChar_iff, ← quotedBody]
    constructor
    · intro h
      -- both sides are read from the front, so what is left after the first character agrees
      have hread := readChar_quotedChar c (quotedBody cs)
      rw [h, readChar_codeChar] at hread
      have hrest : quotedBody cs = cs.flatMap codeChar :=
        (Prod.mk.inj (Option.some.inj hread)).2.symm
      rw [hrest] at h
      exact ⟨List.append_cancel_right h, hrest⟩
    · rintro ⟨hc, hcs⟩
      rw [hc, hcs]

end Literal

/-- **Which literals mean their content.**  A code block is printed as one literal, which means its
content whatever it is.  The literal of a text or a code span means its content exactly when there
is no backslash in it.  The quoted form of a string is the literal of a code block with that content
exactly when the string has no control characters. -/
theorem decode_literals :
    (∀ language (content : String), ∃ call,
      (Block.codeBlock language content).toCode = .ok call ∧
      call.literals = [Literal.textBody (Literal.doubled content.toList)] ∧
      Literal.decode (Literal.textBody (Literal.doubled content.toList)) = some content.toList) ∧
    (∀ content : String, ∃ text code,
      (Inline.text content).toCode = .ok text ∧ (Inline.code content).toCode = .ok code ∧
      text.literals = [Literal.textBody content.toList] ∧
      code.literals = [Literal.textBody content.toList] ∧
      (Literal.decode (Literal.textBody content.toList) = some content.toList ↔
        '\\' ∉ content.toList)) ∧
    ∀ content, Literal.quoted content =
        '"' :: (Literal.textBody (Literal.doubled content) ++ ['"']) ↔
      ∀ c ∈ content, ¬ Literal.IsControl c := by
  refine ⟨fun language content => ?_, fun content => ?_, fun content => ?_⟩
  · refine ⟨_, rfl, ?_, Literal.decode_textBody_doubled content.toList⟩
    simp [Code.literals, Code.literalsAll, Code.attributeLiterals]
  · refine ⟨_, _, rfl, rfl, rfl, ?_, Literal.decode_textBody_iff content.toList⟩
    simp [Code.literals, Code.literalsAll, Code.attributeLiterals]
  · rw [← Literal.quotedBody_eq_iff, Literal.quoted, List.cons_inj_right]
    exact List.append_left_inj ['"']

end ElementCode
