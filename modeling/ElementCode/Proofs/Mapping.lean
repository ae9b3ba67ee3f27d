import ElementCode.Document.Elements
import ElementCode.Proofs.Unambiguous

/-!
# What a mapped document looks like

Documents that the element constructors can express become calls by a recursion over blocks,
inlines and lists of them that may stop with an error anywhere.  `Inline.toCode_induct` and
`Block.toCode_induct` say once what a successful mapping is made of: to show that every inline (or
block) is in a given relation to its call, it is enough to look at the constructs that have a call,
with the relation given for what they contain.

The tag of a heading holds the text of its level.  The first use is `Document.namedAll_of_toCode`:
if all levels are numbers, every call of a mapped document has names for its tags and attributes, so
printed documents are unambiguous.
-/

namespace ElementCode

/-- A computation in two steps succeeds only when both steps do. -/
lemma exists_of_bind_eq_ok {ε α β : Type} {x : Except ε α} {f : α → Except ε β} {b : β}
    (h : (x >>= f) = .ok b) : ∃ a, x = .ok a ∧ f a = .ok b := by
  cases x with
  | error e => exact absurd h (by simp [bind, Except.bind])
  | ok a => exact ⟨a, rfl, h⟩

/-- The error that a computation ends with. -/
def failure? {ε α : Type} : Except ε α → Option ε
  | .ok _ => none
  | .error e => some e

section Failure

variable {ε α β γ : Type}

lemma failure?_map (x : Except ε α) (f : α → β) :
    failure? (x >>= fun a => .ok (f a)) = failure? x := by
  cases x <;> rfl

/-- Of two computations the first one that fails decides. -/
lemma failure?_both (x : Except ε α) (y : Except ε β) (f : α → β → γ) :
    failure? (x >>= fun a => y >>= fun b => .ok (f a b)) = (failure? x).or (failure? y) := by
  cases x <;> cases y <;> rfl

end Failure

/-! ## Inlines -/

namespace Inline

/-- A relation `P` between inlines and calls, with `Q` for lists of them, holds for every
construct that has a call when it holds for what the construct contains. -/
structure MappingCases (P : Inline → Code → Prop) (Q : List Inline → List Code → Prop) : Prop where
  text : ∀ s, P (.text s) (.text s)
  code : ∀ s, P (.code s) (.element "code" [] [.text s])
  emphasis : ∀ is cs, Q is cs → P (.emphasis is) (.element "em" [] cs)
  strong : ∀ is cs, Q is cs → P (.strong is) (.element "strong" [] cs)
  link : ∀ is cs url, Q is cs → P (.link is (.url url)) (.element "a" [("href", url)] cs)
  image : ∀ alt url, P (.image alt (.url url)) (.selfClosing "img" [("src", url)])
  nil : Q [] []
  cons : ∀ i is c cs, P i c → Q is cs → Q (i :: is) (c :: cs)

section

variable {P : Inline → Code → Prop} {Q : List Inline → List Code → Prop} (hcases : MappingCases P Q)

include hcases

mutual

/-- A relation between inlines and calls that holds for every construct with a call holds for
every mapped inline. -/
theorem toCode_induct : (i : Inline) → (c : Code) → i.toCode = .ok c → P i c
  | .text s, c, h => by
    rw [toCode] at h
    exact Except.ok.inj h ▸ hcases.text s
  | .code s, c, h => by
    rw [toCode] at h
    exact Except.ok.inj h ▸ hcases.code s
  | .emphasis is, c, h => by
    rw [toCode] at h
    obtain ⟨cs, hcs, hc⟩ := exists_of_bind_eq_ok h
    exact Except.ok.inj hc ▸ hcases.emphasis is cs (toCodeAll_induct is cs hcs)
  | .strong is, c, h => by
    rw [toCode] at h
    obtain ⟨cs, hcs, hc⟩ := exists_of_bind_eq_ok h
    exact Except.ok.inj hc ▸ hcases.strong is cs (toCodeAll_induct is cs hcs)
  | .link is (.url url), c, h => by
    rw [toCode] at h
    obtain ⟨cs, hcs, hc⟩ := exists_of_bind_eq_ok h
    exact Except.ok.inj hc ▸ hcases.link is cs url (toCodeAll_induct is cs hcs)
  | .image alt (.url url), c, h => by
    rw [toCode] at h
    exact Except.ok.inj h ▸ hcases.image alt url
  | .link _ (.reference _), c, h | .link _ (.foreign _), c, h
  | .image _ (.reference _), c, h | .image _ (.foreign _), c, h => by
    rw [toCode] at h
    · exact absurd h (by simp)
    · simp
  | .footnote _, c, h | .linebreak, c, h | .mathInline _, c, h | .mathDisplay _, c, h
  | .nonBreakingSpace, c, h | .foreign _, c, h | .misfit _, c, h => by
    rw [toCode] at h
    exact absurd h (by simp)

/-- The same for lists of inlines. -/
theorem toCodeAll_induct : (is : List Inline) → (cs : List Code) → toCodeAll is = .ok cs → Q is cs
  | [], cs, h => by
    rw [toCodeAll] at h
    exact Except.ok.inj h ▸ hcases.nil
  | i :: is, cs, h => by
    rw [toCodeAll] at h
    obtain ⟨c, hc, hrest⟩ := exists_of_bind_eq_ok h
    obtain ⟨rest, hall, hcs⟩ := exists_of_bind_eq_ok hrest
    exact Except.ok.inj hcs ▸
      hcases.cons i is c rest (toCode_induct i c hc) (toCodeAll_induct is rest hall)

end

end

/-- The calls of mapped inlines are named. -/
lemma namedAll_of_toCodeAll {is : List Inline} {cs : List Code} (h : toCodeAll is = .ok cs) :
    Code.namedAll cs := by
  have hcases : MappingCases (fun _ c => c.named) (fun _ cs => Code.namedAll cs) := {
    text := fun s => rfl
    code := fun s => Code.named_element.2 ⟨by decide, by simp, rfl⟩
    emphasis := fun is cs hcs => Code.named_element.2 ⟨by decide, by simp, hcs⟩
    strong := fun is cs hcs => Code.named_element.2 ⟨by decide, by simp, hcs⟩
    link := by
      intro is cs url hcs
      have hhref : isName "href" := by decide
      exact Code.named_element.2 ⟨by decide, by simpa using hhref, hcs⟩
    image := by
      intro alt url
      have hsrc : isName "src" := by decide
      exact Code.named_selfClosing.2 ⟨by decide, by simpa using hsrc⟩
    nil := rfl
    cons := fun i is c cs hc hcs => Code.namedAll_cons.2 ⟨hc, hcs⟩ }
  exact toCodeAll_induct hcases is cs h

end Inline

/-! ## Levels -/

lemma Value.isShowable_int_iff (n : Int) :
    (Value.int n).isShowable ↔ n.natAbs < 10 ^ Display.digitLimit := by
  simp only [Value.isShowable, Nat.pow_eq, decide_eq_true_eq]

/-- The first number that has too many digits. -/
lemma Value.not_isShowable_int_long : ¬ (Value.int (10 ^ Display.digitLimit)).isShowable := by
  rw [Value.isShowable_int_iff, Int.natAbs_pow, show Int.natAbs 10 = 10 from rfl]
  exact lt_irrefl _

namespace Level

/-- A number is written in decimal, if it has not too many digits. -/
lemma text_number (n : Int) : (number n).text =
    if n.natAbs < 10 ^ Display.digitLimit then .ok (toString n) else .error .longLevel := by
  simp only [text, toValue, Value.isShowable_int_iff, Value.text, Value.display]

lemma text_number_eq_ok_iff {n : Int} {s : String} :
    (number n).text = .ok s ↔ n.natAbs < 10 ^ Display.digitLimit ∧ toString n = s := by
  rw [text_number]
  split_ifs with h <;> simp [h]

/-- A digit can be written. -/
lemma text_digit {n : Int} (h : n.natAbs ≤ 9) : (number n).text = .ok (toString n) := by
  have hsmall : n.natAbs < 10 ^ Display.digitLimit :=
    calc n.natAbs < 10 ^ 1 := by omega
      _ ≤ 10 ^ Display.digitLimit := Nat.pow_le_pow_right (by decide) (by decide)
  exact text_number_eq_ok_iff.2 ⟨hsmall, rfl⟩

lemma exists_number_of_isClosed {level : Level} (h : level.isClosed) : ∃ n, level = number n := by
  cases level with
  | number n => exact ⟨n, rfl⟩
  | «foreign» v => exact absurd h (by simp [isClosed])

end Level

mutual

/-- The levels of the headings of a block. -/
def Block.levels : Block → List Level
  | .heading level _ => [level]
  | .bulletList items => Block.levelsItems items
  | .blockQuote blocks => Block.levelsAll blocks
  | _ => []

/-- The levels of the headings of some blocks. -/
def Block.levelsAll : List Block → List Level
  | [] => []
  | b :: rest => Block.levels b ++ Block.levelsAll rest

/-- The levels of the headings of list items. -/
def Block.levelsItems : List (List Block) → List Level
  | [] => []
  | item :: rest => Block.levelsAll item ++ Block.levelsItems rest

end

/-- The levels of the headings of a document. -/
def Document.levels (d : Document) : List Level := Block.levelsAll d.blocks

mutual

lemma Block.isClosed_of_mem_levels :
    (b : Block) → b.isClosed → ∀ level ∈ b.levels, level.isClosed
  | .heading level is, h => by
    rw [Block.isClosed, Bool.and_eq_true] at h
    simpa [Block.levels] using h.1
  | .bulletList items, h => by
    rw [Block.isClosed] at h
    simpa only [Block.levels] using Block.isClosed_of_mem_levelsItems items h
  | .blockQuote bs, h => by
    rw [Block.isClosed] at h
    simpa only [Block.levels] using Block.isClosed_of_mem_levelsAll bs h
  | .paragraph _, _ | .codeBlock _ _, _ | .rawBlock _, _ | .thematicBreak, _ | .foreign _, _
  | .misfit _, _ => by simp [Block.levels]

lemma Block.isClosed_of_mem_levelsAll :
    (bs : List Block) → Block.allClosed bs → ∀ level ∈ Block.levelsAll bs, level.isClosed
  | [], _ => by simp [Block.levelsAll]
  | b :: bs, h => by
    rw [Block.allClosed, Bool.and_eq_true] at h
    rw [Block.levelsAll, List.forall_mem_append]
    exact ⟨Block.isClosed_of_mem_levels b h.1, Block.isClosed_of_mem_levelsAll bs h.2⟩

lemma Block.isClosed_of_mem_levelsItems : (items : List (List Block)) →
    Block.itemsClosed items → ∀ level ∈ Block.levelsItems items, level.isClosed
  | [], _ => by simp [Block.levelsItems]
  | item :: items, h => by
    rw [Block.itemsClosed, Bool.and_eq_true] at h
    rw [Block.levelsItems, List.forall_mem_append]
    exact ⟨Block.isClosed_of_mem_levelsAll item h.1, Block.isClosed_of_mem_levelsItems items h.2⟩

end

/-- The levels of a closed document are numbers. -/
lemma Document.isClosed_of_mem_levels {d : Document} (h : d.isClosed) :
    ∀ level ∈ d.levels, level.isClosed :=
  Block.isClosed_of_mem_levelsAll d.blocks h

/-! ## Blocks -/

namespace Block

/-- A relation `P` between blocks and calls, with `Q` for lists of them and `R` for lists of items,
holds for every construct that has a call when it holds for what the construct contains. -/
structure MappingCases (P : Block → Code → Prop) (Q : List Block → List Code → Prop)
    (R : List (List Block) → List Code → Prop) : Prop where
  paragraph : ∀ is cs, Inline.toCodeAll is = .ok cs → P (.paragraph is) (.element "p" [] cs)
  heading : ∀ level s is cs, level.text = .ok s → Inline.toCodeAll is = .ok cs →
    P (.heading level is) (.element ("h" ++ s) [] cs)
  bulletList : ∀ items cs, R items cs → P (.bulletList items) (.element "ul" [] cs)
  codeBlock : ∀ language content, P (.codeBlock language content)
    (.element "pre" [] [.text (String.ofList (Literal.doubled content.toList))])
  thematicBreak : P .thematicBreak (.selfClosing "hr" [])
  rawBlock : ∀ content, P (.rawBlock content) (.rawHtml "html" "div" [] content)
  nil : Q [] []
  cons : ∀ b bs c cs, P b c → Q bs cs → Q (b :: bs) (c :: cs)
  noItem : R [] []
  item : ∀ item items children cs, Q item children → R items cs →
    R (item :: items) (.element "li" [] children :: cs)

section

variable {P : Block → Code → Prop} {Q : List Block → List Code → Prop}
  {R : List (List Block) → List Code → Prop} (hcases : MappingCases P Q R)

include hcases

mutual

/-- A relation between blocks and calls that holds for every construct with a call holds for every
mapped block. -/
theorem toCode_induct : (b : Block) → (c : Code) → b.toCode = .ok c → P b c
  | .paragraph is, c, h => by
    rw [toCode] at h
    obtain ⟨cs, hcs, hc⟩ := exists_of_bind_eq_ok h
    exact Except.ok.inj hc ▸ hcases.paragraph is cs hcs
  | .heading level is, c, h => by
    rw [toCode] at h
    obtain ⟨s, hs, h⟩ := exists_of_bind_eq_ok h
    obtain ⟨cs, hcs, hc⟩ := exists_of_bind_eq_ok h
    exact Except.ok.inj hc ▸ hcases.heading level s is cs hs hcs
  | .bulletList items, c, h => by
    rw [toCode] at h
    obtain ⟨cs, hcs, hc⟩ := exists_of_bind_eq_ok h
    exact Except.ok.inj hc ▸ hcases.bulletList items cs (toCodeItems_induct items cs hcs)
  | .codeBlock language content, c, h => by
    rw [toCode] at h
    exact Except.ok.inj h ▸ hcases.codeBlock language content
  | .thematicBreak, c, h => by
    rw [toCode] at h
    exact Except.ok.inj h ▸ hcases.thematicBreak
  | .rawBlock content, c, h => by
    rw [toCode] at h
    exact Except.ok.inj h ▸ hcases.rawBlock content
  | .blockQuote _, c, h | .foreign _, c, h | .misfit _, c, h => by
    rw [toCode] at h
    exact absurd h (by simp)

/-- The same for lists of blocks. -/
theorem toCodeAll_induct : (bs : List Block) → (cs : List Code) → toCodeAll bs = .ok cs → Q bs cs
  | [], cs, h => by
    rw [toCodeAll] at h
    exact Except.ok.inj h ▸ hcases.nil
  | b :: bs, cs, h => by
    rw [toCodeAll] at h
    obtain ⟨c, hc, hrest⟩ := exists_of_bind_eq_ok h
    obtain ⟨rest, hall, hcs⟩ := exists_of_bind_eq_ok hrest
    exact Except.ok.inj hcs ▸
      hcases.cons b bs c rest (toCode_induct b c hc) (toCodeAll_induct bs rest hall)

/-- The same for the items of a list. -/
theorem toCodeItems_induct :
    (items : List (List Block)) → (cs : List Code) → toCodeItems items = .ok cs → R items cs
  | [], cs, h => by
    rw [toCodeItems] at h
    exact Except.ok.inj h ▸ hcases.noItem
  | item :: items, cs, h => by
    rw [toCodeItems] at h
    obtain ⟨children, hchildren, hrest⟩ := exists_of_bind_eq_ok h
    obtain ⟨rest, hall, hcs⟩ := exists_of_bind_eq_ok hrest
    exact Except.ok.inj hcs ▸
      hcases.item item items children rest (toCodeAll_induct item children hchildren)
        (toCodeItems_induct items rest hall)

end

end

/-- A heading's tag is a name: the letter `h`, perhaps a minus sign, and digits. -/
lemma isName_heading (level : Int) : isName ("h" ++ toString level) := by
  have hdigits : ∀ n : Nat, (Nat.repr n).toList.all isNameChar := by
    intro n
    rw [Nat.toList_repr, List.all_eq_true]
    intro c hc
    have hdigit := Nat.isDigit_of_mem_toDigits (by decide) (by decide) hc
    simp [isNameChar, Char.isAlphanum, hdigit]
  have hlevel : (toString level).toList.all isNameChar := by
    rw [Int.toString_eq_repr, Int.repr_eq_if]
    split_ifs
    · exact hdigits _
    · rw [String.toList_append, List.all_append, Bool.and_eq_true]
      exact ⟨by decide, hdigits _⟩
  rw [isName, Bool.and_eq_true, String.toList_append, List.all_append, Bool.and_eq_true]
  exact ⟨by simp, by decide, hlevel⟩

/-- The calls of mapped blocks are named, if all levels are numbers. -/
lemma namedAll_of_toCodeAll {bs : List Block} {cs : List Code} (h : toCodeAll bs = .ok cs)
    (hlevels : ∀ level ∈ levelsAll bs, level.isClosed) : Code.namedAll cs := by
  have hcases : MappingCases (fun b c => (∀ level ∈ b.levels, level.isClosed) → c.named)
      (fun bs cs => (∀ level ∈ levelsAll bs, level.isClosed) → Code.namedAll cs)
      (fun items cs => (∀ level ∈ levelsItems items, level.isClosed) → Code.namedAll cs) := {
    paragraph := fun is cs hcs _ =>
      Code.named_element.2 ⟨by decide, by simp, Inline.namedAll_of_toCodeAll hcs⟩
    heading := by
      intro level s is cs hs hcs hlevels
      obtain ⟨n, rfl⟩ := Level.exists_number_of_isClosed (hlevels level (by simp [levels]))
      obtain ⟨-, rfl⟩ := Level.text_number_eq_ok_iff.1 hs
      exact Code.named_element.2 ⟨isName_heading n, by simp, Inline.namedAll_of_toCodeAll hcs⟩
    bulletList := fun items cs hcs hlevels => Code.named_element.2 ⟨by decide, by simp, hcs hlevels⟩
    codeBlock := fun language content _ => Code.named_element.2 ⟨by decide, by simp, rfl⟩
    thematicBreak := fun _ => Code.named_selfClosing.2 ⟨by decide, by simp⟩
    rawBlock := fun content _ => Code.named_rawHtml.2 (by simp)
    nil := fun _ => rfl
    cons := by
      intro b bs c cs hc hcs hlevels
      obtain ⟨hb, hbs⟩ := List.forall_mem_append.1 hlevels
      exact Code.namedAll_cons.2 ⟨hc hb, hcs hbs⟩
    noItem := fun _ => rfl
    item := by
      intro item items children cs hchildren hcs hlevels
      obtain ⟨hitem, hitems⟩ := List.forall_mem_append.1 hlevels
      exact Code.namedAll_cons.2
        ⟨Code.named_element.2 ⟨by decide, by simp, hchildren hitem⟩, hcs hitems⟩ }
  exact toCodeAll_induct hcases bs cs h hlevels

end Block

namespace Document

/-- The calls of a mapped document are named, if all levels are numbers. -/
theorem namedAll_of_toCode {d : Document} {cs : List Code} (h : d.toCode = .ok cs)
    (hlevels : ∀ level ∈ d.levels, level.isClosed) : Code.namedAll cs :=
  Block.namedAll_of_toCodeAll h hlevels

/-- A mapped document is printed. -/
lemma printCode_of_toCode {d : Document} {cs : List Code} (h : d.toCode = .ok cs)
    (mode : PrefixMode) : d.printCode mode = .ok (Code.printAll mode cs) := by
  rw [printCode, h]
  rfl

lemma exists_toCode_of_printCode {d : Document} {mode : PrefixMode} {code : String}
    (h : d.printCode mode = .ok code) : ∃ cs, d.toCode = .ok cs ∧ Code.printAll mode cs = code := by
  obtain ⟨cs, hcs, hcode⟩ := exists_of_bind_eq_ok h
  exact ⟨cs, hcs, Except.ok.inj hcode⟩

end Document

end ElementCode
