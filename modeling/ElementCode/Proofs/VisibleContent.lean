import ElementCode.Proofs.Mapping

/-!
# What the code of a document shows

The code of a document leaves out two things: the language of a code block and the alternative
text of an image.  `Document.visible` takes them away, and the code shows everything else.

`toCode_visible` says that the mapping does not look at what is taken away.  For the other
direction, `Block.ofCode` reads a block back from its call; it finds the visible part of the block
(`ofCodeAll_of_toCodeAll`).  Together with the unambiguous printed form this gives
`printCode_eq_iff_visible_eq`: two documents have the same code exactly when their visible parts are
equal.
-/

namespace ElementCode

/-! ## The visible part of a document -/

mutual

/-- An inline without the alternative texts in it. -/
def Inline.visible : Inline → Inline
  | .emphasis inline => .emphasis (Inline.visibleAll inline)
  | .strong inline => .strong (Inline.visibleAll inline)
  | .link inline destination => .link (Inline.visibleAll inline) destination
  | .image _ destination => .image [] destination
  | .text s => .text s
  | .code s => .code s
  | .footnote reference => .footnote reference
  | .linebreak => .linebreak
  | .mathInline latex => .mathInline latex
  | .mathDisplay latex => .mathDisplay latex
  | .nonBreakingSpace => .nonBreakingSpace
  | .foreign value => .foreign value
  | .misfit value => .misfit value

/-- Inlines without the alternative texts in them. -/
def Inline.visibleAll : List Inline → List Inline
  | [] => []
  | i :: rest => Inline.visible i :: Inline.visibleAll rest

end

mutual

/-- A block without the alternative texts and languages in it. -/
def Block.visible : Block → Block
  | .paragraph inline => .paragraph (Inline.visibleAll inline)
  | .heading level inline => .heading level (Inline.visibleAll inline)
  | .bulletList items => .bulletList (Block.visibleItems items)
  | .codeBlock _ content => .codeBlock none content
  | .blockQuote blocks => .blockQuote (Block.visibleAll blocks)
  | .rawBlock content => .rawBlock content
  | .thematicBreak => .thematicBreak
  | .foreign value => .foreign value
  | .misfit value => .misfit value

/-- Blocks without the alternative texts and languages in them. -/
def Block.visibleAll : List Block → List Block
  | [] => []
  | b :: rest => Block.visible b :: Block.visibleAll rest

/-- List items without the alternative texts and languages in them. -/
def Block.visibleItems : List (List Block) → List (List Block)
  | [] => []
  | item :: rest => Block.visibleAll item :: Block.visibleItems rest

end

/-- The part of a document that its code shows. -/
def Document.visible (d : Document) : Document := ⟨Block.visibleAll d.blocks⟩

/-! ## The mapping looks at the visible part only -/

mutual

lemma Inline.toCode_visible : (i : Inline) → i.visible.toCode = i.toCode
  | .emphasis inline => by
    rw [Inline.visible, Inline.toCode, Inline.toCode, Inline.toCodeAll_visibleAll inline]
  | .strong inline => by
    rw [Inline.visible, Inline.toCode, Inline.toCode, Inline.toCodeAll_visibleAll inline]
  | .link inline destination => by
    rw [Inline.visible]
    cases destination with
    | url url => rw [Inline.toCode, Inline.toCode, Inline.toCodeAll_visibleAll inline]
    | reference name => simp only [Inline.toCode]
    | «foreign» value => simp only [Inline.toCode]
  | .image alt destination => by
    rw [Inline.visible]
    cases destination with
    | url url => rw [Inline.toCode, Inline.toCode]
    | reference name => simp only [Inline.toCode]
    | «foreign» value => simp only [Inline.toCode]
  | .text s => rfl
  | .code s => rfl
  | .footnote reference => rfl
  | .linebreak => rfl
  | .mathInline latex => rfl
  | .mathDisplay latex => rfl
  | .nonBreakingSpace => rfl
  | .foreign value => rfl
  | .misfit value => rfl

lemma Inline.toCodeAll_visibleAll :
    (is : List Inline) → Inline.toCodeAll (Inline.visibleAll is) = Inline.toCodeAll is
  | [] => rfl
  | i :: rest => by
    rw [Inline.visibleAll, Inline.toCodeAll, Inline.toCodeAll, Inline.toCode_visible i,
      Inline.toCodeAll_visibleAll rest]

end

mutual

lemma Block.toCode_visible : (b : Block) → b.visible.toCode = b.toCode
  | .paragraph inline => by
    rw [Block.visible, Block.toCode, Block.toCode, Inline.toCodeAll_visibleAll]
  | .heading level inline => by
    rw [Block.visible, Block.toCode, Block.toCode, Inline.toCodeAll_visibleAll]
  | .bulletList items => by
    rw [Block.visible, Block.toCode, Block.toCode, Block.toCodeItems_visibleItems items]
  | .codeBlock language content => rfl
  | .blockQuote blocks => rfl
  | .rawBlock content => rfl
  | .thematicBreak => rfl
  | .foreign value => rfl
  | .misfit value => rfl

lemma Block.toCodeAll_visibleAll :
    (bs : List Block) → Block.toCodeAll (Block.visibleAll bs) = Block.toCodeAll bs
  | [] => rfl
  | b :: rest => by
    rw [Block.visibleAll, Block.toCodeAll, Block.toCodeAll, Block.toCode_visible b,
      Block.toCodeAll_visibleAll rest]

lemma Block.toCodeItems_visibleItems : (items : List (List Block)) →
    Block.toCodeItems (Block.visibleItems items) = Block.toCodeItems items
  | [] => rfl
  | item :: rest => by
    rw [Block.visibleItems, Block.toCodeItems, Block.toCodeItems, Block.toCodeAll_visibleAll item,
      Block.toCodeItems_visibleItems rest]

end

/-! ## Reading a document back from its calls -/

/-- Code content from its form with doubled backslashes; a single backslash has no content. -/
def Literal.undoubled? : List Char → Option (List Char)
  | [] => some []
  | '\\' :: '\\' :: cs => (undoubled? cs).map ('\\' :: ·)
  | c :: cs => if c = '\\' then none else (undoubled? cs).map (c :: ·)

lemma Literal.undoubled?_doubled (cs : List Char) : undoubled? (doubled cs) = some cs := by
  induction cs with
  | nil => rfl
  | cons c cs ih =>
    by_cases hc : c = '\\'
    · subst hc
      rw [doubled_cons_slash, undoubled?, ih, Option.map_some]
    · rw [doubled_cons_of_ne hc, undoubled?, if_neg hc, ih, Option.map_some]
      intro _ hslash
      exact absurd hslash hc

/-- The number that the tag of a heading names. -/
def headingTag? (tag : String) : Option Int :=
  match tag.toList with
  | 'h' :: digits =>
    (String.ofList digits).toInt?.bind fun level =>
      if toString level = String.ofList digits then some level else none
  | _ => none

lemma headingTag?_heading (level : Int) : headingTag? ("h" ++ toString level) = some level := by
  have htag : ("h" ++ toString level).toList = 'h' :: (toString level).toList := by
    rw [String.toList_append]
    rfl
  rw [headingTag?, htag]
  show ((String.ofList (toString level).toList).toInt?.bind fun found =>
    if toString found = String.ofList (toString level).toList then some found else none) =
      some level
  rw [String.ofList_toList, Int.toString_eq_repr, Int.toInt?_repr, Option.bind_some,
    if_pos Int.toString_eq_repr]

/-- A tag that names no level is not the tag of a heading. -/
lemma heading_ne {tag : String} (htag : headingTag? tag = none) (level : Int) :
    "h" ++ toString level ≠ tag := by
  intro h
  have hlevel := headingTag?_heading level
  rw [h, htag] at hlevel
  exact absurd hlevel (by simp)

/-- The value of the only attribute, when it has the given name. -/
def onlyAttribute? (name : String) : List (String × String) → Option String
  | [(key, value)] => if key = name then some value else none
  | _ => none

/-- The content of the only call, when it is a text. -/
def Code.onlyText? : List Code → Option String
  | [.text content] => some content
  | _ => none

mutual

/-- Reads an inline back from its call. -/
def Inline.ofCode : Code → Option Inline
  | .text content => some (.text content)
  | .element tag attributes children =>
    if tag = "code" ∧ attributes = [] then (Code.onlyText? children).map .code
    else if tag = "em" ∧ attributes = [] then (Inline.ofCodeAll children).map .emphasis
    else if tag = "strong" ∧ attributes = [] then (Inline.ofCodeAll children).map .strong
    else if tag = "a" then
      (onlyAttribute? "href" attributes).bind fun url =>
        (Inline.ofCodeAll children).map (.link · (.url url))
    else none
  | .selfClosing tag attributes =>
    if tag = "img" then (onlyAttribute? "src" attributes).map (.image [] <| .url ·) else none
  | .rawHtml _ _ _ _ => none

/-- Reads inlines back from their calls. -/
def Inline.ofCodeAll : List Code → Option (List Inline)
  | [] => some []
  | c :: rest => (Inline.ofCode c).bind fun i => (Inline.ofCodeAll rest).map (i :: ·)

end

mutual

/-- Reads a block back from its call. -/
def Block.ofCode : Code → Option Block
  | .element tag attributes children =>
    if attributes ≠ [] then none
    else if tag = "p" then (Inline.ofCodeAll children).map .paragraph
    else if tag = "ul" then (Block.ofCodeItems children).map .bulletList
    else if tag = "pre" then
      ((Code.onlyText? children).bind fun s => Literal.undoubled? s.toList).map
        (.codeBlock none <| String.ofList ·)
    else
      (headingTag? tag).bind fun n => (Inline.ofCodeAll children).map (.heading (.number n))
  | .selfClosing tag attributes =>
    if tag = "hr" ∧ attributes = [] then some .thematicBreak else none
  | .rawHtml space tag attributes content =>
    if space = "html" ∧ tag = "div" ∧ attributes = [] then some (.rawBlock content) else none
  | .text _ => none

/-- Reads blocks back from their calls. -/
def Block.ofCodeAll : List Code → Option (List Block)
  | [] => some []
  | c :: rest => (Block.ofCode c).bind fun b => (Block.ofCodeAll rest).map (b :: ·)

/-- Reads the items of a list back from their calls. -/
def Block.ofCodeItems : List Code → Option (List (List Block))
  | [] => some []
  | c :: rest => (Block.itemOfCode c).bind fun item => (Block.ofCodeItems rest).map (item :: ·)

/-- Reads an item of a list back from its call. -/
def Block.itemOfCode : Code → Option (List Block)
  | .element tag attributes children =>
    if tag = "li" ∧ attributes = [] then Block.ofCodeAll children else none
  | _ => none

end

/-- The visible part of an inline can be read back from its call. -/
lemma Inline.ofCodeAll_of_toCodeAll {is : List Inline} {cs : List Code}
    (h : Inline.toCodeAll is = .ok cs) : Inline.ofCodeAll cs = some (Inline.visibleAll is) := by
  have hcases : Inline.MappingCases (fun i c => Inline.ofCode c = some i.visible)
      (fun is cs => Inline.ofCodeAll cs = some (Inline.visibleAll is)) := {
    text := fun s => rfl
    code := fun s => rfl
    emphasis := by
      intro is cs hcs
      simp [Inline.ofCode, Inline.visible, hcs]
    strong := by
      intro is cs hcs
      simp [Inline.ofCode, Inline.visible, hcs]
    link := by
      intro is cs url hcs
      simp [Inline.ofCode, Inline.visible, onlyAttribute?, hcs]
    image := by
      intro alt url
      simp [Inline.ofCode, Inline.visible, onlyAttribute?]
    nil := rfl
    cons := by
      intro i is c cs hc hcs
      rw [Inline.ofCodeAll, hc, hcs, Inline.visibleAll]
      rfl }
  exact Inline.toCodeAll_induct hcases is cs h

/-- The visible part of a block can be read back from its call, if all levels are numbers. -/
lemma Block.ofCodeAll_of_toCodeAll {bs : List Block} {cs : List Code}
    (h : Block.toCodeAll bs = .ok cs) (hlevels : ∀ level ∈ Block.levelsAll bs, level.isClosed) :
    Block.ofCodeAll cs = some (Block.visibleAll bs) := by
  have hcases : Block.MappingCases
      (fun b c => (∀ level ∈ b.levels, level.isClosed) → Block.ofCode c = some b.visible)
      (fun bs cs => (∀ level ∈ Block.levelsAll bs, level.isClosed) →
        Block.ofCodeAll cs = some (Block.visibleAll bs))
      (fun items cs => (∀ level ∈ Block.levelsItems items, level.isClosed) →
        Block.ofCodeItems cs = some (Block.visibleItems items)) := {
    paragraph := by
      intro is cs hcs _
      simp [Block.ofCode, Block.visible, Inline.ofCodeAll_of_toCodeAll hcs]
    heading := by
      intro level s is cs hs hcs hlevels
      obtain ⟨n, rfl⟩ := Level.exists_number_of_isClosed (hlevels level (by simp [Block.levels]))
      obtain ⟨-, rfl⟩ := Level.text_number_eq_ok_iff.1 hs
      rw [Block.ofCode, if_neg (by simp), if_neg (heading_ne (by decide) n),
        if_neg (heading_ne (by decide) n), if_neg (heading_ne (by decide) n),
        headingTag?_heading n, Option.bind_some, Inline.ofCodeAll_of_toCodeAll hcs,
        Option.map_some, Block.visible]
    bulletList := by
      intro items cs hcs hlevels
      simp [Block.ofCode, Block.visible, hcs hlevels]
    codeBlock := by
      intro language content _
      simp [Block.ofCode, Block.visible, Code.onlyText?, Literal.undoubled?_doubled]
    thematicBreak := fun _ => rfl
    rawBlock := fun content _ => rfl
    nil := fun _ => rfl
    cons := by
      intro b bs c cs hc hcs hlevels
      obtain ⟨hb, hbs⟩ := List.forall_mem_append.1 hlevels
      rw [Block.ofCodeAll, hc hb, hcs hbs, Block.visibleAll]
      rfl
    noItem := fun _ => rfl
    item := by
      intro item items children cs hchildren hcs hlevels
      obtain ⟨hitem, hitems⟩ := List.forall_mem_append.1 hlevels
      rw [Block.ofCodeItems, Block.itemOfCode, if_pos ⟨rfl, rfl⟩, hchildren hitem, hcs hitems,
        Block.visibleItems]
      rfl }
  exact Block.toCodeAll_induct hcases bs cs h hlevels

/-! ## The main statement -/

namespace Document

lemma toCode_visible (d : Document) : d.visible.toCode = d.toCode :=
  Block.toCodeAll_visibleAll d.blocks

/-- Documents with the same calls have the same visible part, if all levels are numbers. -/
lemma visible_eq_of_toCode {d₁ d₂ : Document} {cs : List Code} (h₁ : d₁.toCode = .ok cs)
    (h₂ : d₂.toCode = .ok cs) (hlevels₁ : ∀ level ∈ d₁.levels, level.isClosed)
    (hlevels₂ : ∀ level ∈ d₂.levels, level.isClosed) : d₁.visible = d₂.visible := by
  have hread := Block.ofCodeAll_of_toCodeAll h₁ hlevels₁
  rw [Block.ofCodeAll_of_toCodeAll h₂ hlevels₂] at hread
  rw [visible, visible, Option.some.inj hread]

/-- **The code shows the visible part of a document and nothing else.**  Documents that can be
expressed and whose levels are numbers are printed, and they are printed alike exactly when they
differ at most in the languages of code blocks and the alternative texts of images. -/
theorem printCode_eq_iff_visible_eq (mode : PrefixMode) (d₁ d₂ : Document) {cs₁ cs₂ : List Code}
    (h₁ : d₁.toCode = .ok cs₁) (h₂ : d₂.toCode = .ok cs₂)
    (hlevels₁ : ∀ level ∈ d₁.levels, level.isClosed)
    (hlevels₂ : ∀ level ∈ d₂.levels, level.isClosed) :
    ∃ s₁ s₂, d₁.printCode mode = .ok s₁ ∧ d₂.printCode mode = .ok s₂ ∧
      (s₁ = s₂ ↔ d₁.visible = d₂.visible) := by
  refine ⟨_, _, printCode_of_toCode h₁ mode, printCode_of_toCode h₂ mode, ?_⟩
  constructor
  · intro h
    have hcalls : cs₁ = cs₂ := Code.renderAll_injective (namedAll_of_toCode h₁ hlevels₁)
      (namedAll_of_toCode h₂ hlevels₂) (String.ofList_injective h)
    subst hcalls
    exact visible_eq_of_toCode h₁ h₂ hlevels₁ hlevels₂
  · intro h
    have hcalls : d₁.toCode = d₂.toCode := by
      rw [← toCode_visible d₁, h, toCode_visible d₂]
    rw [h₁, h₂] at hcalls
    rw [Except.ok.inj hcalls]

/-- Two texts, the first of which ends in a backslash, and one text that imitates their code. -/
theorem printCode_imitated_text :
    ∃ s₁ s₂, (Document.mk [.paragraph [.text "a\\", .text "b"]]).printCode .bare = .ok s₁ ∧
      (Document.mk [.paragraph [.text "a\"),\n  text(\"b"]]).printCode .bare = .ok s₂ ∧
      s₁ ≠ s₂ := by
  obtain ⟨s₁, s₂, h₁, h₂, hiff⟩ := printCode_eq_iff_visible_eq .bare
    (Document.mk [.paragraph [.text "a\\", .text "b"]])
    (Document.mk [.paragraph [.text "a\"),\n  text(\"b"]]) rfl rfl
    (by simp [levels, Block.levelsAll, Block.levels])
    (by simp [levels, Block.levelsAll, Block.levels])
  refine ⟨s₁, s₂, h₁, h₂, fun h => ?_⟩
  have hvisible := hiff.1 h
  simp [visible, Block.visibleAll, Block.visible, Inline.visibleAll] at hvisible

end Document

end ElementCode
