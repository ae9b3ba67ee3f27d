import ElementCode.Document.Data
import ElementCode.Proofs.Mapping
import ElementCode.Proofs.WellNested

/-!
# Documents that the builder makes

Token streams need not be well nested, and the builder takes them as they are: closers may be
missing, strays are skipped, an unclosed span takes the rest of the stream.  Whatever the stream, a
document that it gives is well formed (`Document.WellFormed`): texts are not empty and hold no
non-breaking space, links and images point to a URL, levels are digits, languages are words, and
nothing foreign stands anywhere.

A well-formed document is mapped to code, or it is rejected for one of six constructs as a whole
(`WellFormed.tame_toCode`).  Links without a URL and foreign values never come from a token
stream.
-/

namespace ElementCode

/-! ## Well-formed documents -/

/-- The inlines that the builder makes. -/
inductive Inline.WellFormed : Inline → Prop
  | text {s : String} : s ≠ "" → '\u00a0' ∉ s.toList → WellFormed (.text s)
  | emphasis {is : List Inline} : (∀ i ∈ is, WellFormed i) → WellFormed (.emphasis is)
  | strong {is : List Inline} : (∀ i ∈ is, WellFormed i) → WellFormed (.strong is)
  | code (s : String) : WellFormed (.code s)
  | link {is : List Inline} (url : String) :
    (∀ i ∈ is, WellFormed i) → WellFormed (.link is (.url url))
  | image {alt : List Inline} (url : String) :
    (∀ i ∈ alt, WellFormed i) → WellFormed (.image alt (.url url))
  | footnote (reference : String) : WellFormed (.footnote reference)
  | linebreak : WellFormed .linebreak
  | mathInline (latex : String) : WellFormed (.mathInline latex)
  | mathDisplay (latex : String) : WellFormed (.mathDisplay latex)
  | nonBreakingSpace : WellFormed .nonBreakingSpace

/-- The blocks that the builder makes. -/
inductive Block.WellFormed : Block → Prop
  | paragraph {is : List Inline} : (∀ i ∈ is, i.WellFormed) → WellFormed (.paragraph is)
  | heading {n : Int} {is : List Inline} : 0 ≤ n → n ≤ 9 → (∀ i ∈ is, i.WellFormed) →
    WellFormed (.heading (.number n) is)
  | bulletList {items : List (List Block)} : (∀ item ∈ items, ∀ b ∈ item, WellFormed b) →
    WellFormed (.bulletList items)
  | codeBlock {language : Option String} (content : String) :
    (∀ l ∈ language, l ≠ "" ∧ ∀ c ∈ l.toList, Text.isBlank c = false) →
    WellFormed (.codeBlock language content)
  | blockQuote {blocks : List Block} : (∀ b ∈ blocks, WellFormed b) →
    WellFormed (.blockQuote blocks)
  | rawBlock (content : String) : WellFormed (.rawBlock content)
  | thematicBreak : WellFormed .thematicBreak

/-- The documents that the builder makes. -/
def Document.WellFormed (d : Document) : Prop := ∀ b ∈ d.blocks, b.WellFormed

namespace Markup

/-! ## Texts, levels and languages -/

lemma notMem_of_mem_splitAtChar {sep : Char} {cs piece : List Char}
    (h : piece ∈ Text.splitAtChar sep cs) : sep ∉ piece := by
  induction cs generalizing piece with
  | nil =>
    rw [Text.splitAtChar, List.mem_singleton] at h
    simp [h]
  | cons c cs ih =>
    rw [Text.splitAtChar] at h
    cases hsplit : Text.splitAtChar sep cs with
    | nil => exact absurd hsplit (splitAtChar_ne_nil sep cs)
    | cons first rest =>
      rw [hsplit] at h ih
      by_cases hc : c = sep
      · simp only [hc, beq_self_eq_true, if_true, List.mem_cons] at h
        rcases h with rfl | h
        · simp
        · exact ih (List.mem_cons.2 h)
      · simp only [beq_iff_eq, hc, if_false, List.mem_cons] at h
        rcases h with rfl | h
        · have hfirst : sep ∉ first := ih List.mem_cons_self
          simp [Ne.symm hc, hfirst]
        · exact ih (List.mem_cons_of_mem first h)

lemma wellFormed_of_mem_textPiece {cs : List Char} (hcs : nbsp ∉ cs) {i : Inline}
    (hi : i ∈ textPiece cs) : i.WellFormed := by
  cases cs with
  | nil => exact absurd hi (by simp [textPiece])
  | cons c cs =>
    obtain rfl : i = .text (String.ofList (c :: cs)) := by simpa [textPiece] using hi
    refine .text ?_ ?_
    · simp [← String.toList_inj]
    · simpa [nbsp] using hcs

/-- A text is cut into texts and non-breaking spaces. -/
lemma wellFormed_of_mem_textInlines {content : String} {i : Inline}
    (hi : i ∈ textInlines content) : i.WellFormed := by
  rw [textInlines] at hi
  cases hsplit : Text.splitAtChar nbsp content.toList with
  | nil => exact absurd hsplit (splitAtChar_ne_nil _ _)
  | cons piece rest =>
    have hpieces : ∀ p ∈ piece :: rest, nbsp ∉ p := fun p hp =>
      notMem_of_mem_splitAtChar (hsplit ▸ hp)
    rw [hsplit, List.mem_append, List.mem_flatMap] at hi
    rcases hi with hi | ⟨p, hp, hi⟩
    · exact wellFormed_of_mem_textPiece (hpieces piece List.mem_cons_self) hi
    · rcases List.mem_cons.1 hi with rfl | hi
      · exact .nonBreakingSpace
      · exact wellFormed_of_mem_textPiece (hpieces p (List.mem_cons_of_mem piece hp)) hi

lemma digitValue?_le {c : Char} {n : Nat} (h : Text.digitValue? c = some n) : n ≤ 9 := by
  obtain ⟨z, hz, rfl⟩ := Option.map_eq_some_iff.1 h
  have hrange := List.find?_some hz
  simp only [Bool.and_eq_true, decide_eq_true_eq] at hrange
  omega

/-- A level is a decimal digit. -/
lemma headingLevel_bounds {tag : String} {level : Int} (h : headingLevel tag = .ok level) :
    0 ≤ level ∧ level ≤ 9 := by
  unfold headingLevel at h
  split at h
  · split at h
    · next n hn =>
      obtain rfl : (n : Int) = level := Except.ok.inj h
      have := digitValue?_le hn
      omega
    · exact absurd h (by simp)
  · exact absurd h (by simp)

/-- A language is a word. -/
lemma language_of_mem_firstWord {info l : String} (h : l ∈ firstWord info) :
    l ≠ "" ∧ ∀ c ∈ l.toList, Text.isBlank c = false := by
  rw [firstWord_eq_language, language, Option.mem_def] at h
  split at h
  · exact absurd h (by simp)
  · next hword =>
    obtain rfl := Option.some.inj h
    refine ⟨by simpa [← String.toList_inj] using hword, fun c hc => ?_⟩
    rw [String.toList_ofList] at hc
    simpa using List.mem_takeWhile_imp hc

/-! ## The two loops -/

/-- Both loops put what a step finds in front of what the rest gives. -/
lemma forall_mem_of_step {α : Type} {P : α → Prop} {step : Except BuildError (List α × Nat)}
    {rest : Nat → Except BuildError (List α × Nat)} {all : List α} {n : Nat}
    (h : (do let (found, used) ← step
             let (more, m) ← rest used
             return (found ++ more, used + 1 + m)) = Except.ok (all, n))
    (hstep : ∀ found used, step = .ok (found, used) → ∀ a ∈ found, P a)
    (hrest : ∀ used more m, rest used = .ok (more, m) → ∀ a ∈ more, P a) : ∀ a ∈ all, P a := by
  obtain ⟨⟨found, used⟩, hfound, h⟩ := exists_of_bind_eq_ok h
  obtain ⟨⟨more, m⟩, hmore, h⟩ := exists_of_bind_eq_ok h
  obtain ⟨rfl, -⟩ := Prod.mk.inj (Except.ok.inj h)
  intro a ha
  rcases List.mem_append.1 ha with ha | ha
  · exact hstep found used hfound a ha
  · exact hrest used more m hmore a ha

/-- A step that finds nothing. -/
lemma forall_mem_of_nothing {α : Type} {P : α → Prop} {used m : Nat} {found : List α}
    (h : (Except.ok ([], m) : Except BuildError (List α × Nat)) = .ok (found, used)) :
    ∀ a ∈ found, P a := by
  obtain ⟨rfl, -⟩ := Prod.mk.inj (Except.ok.inj h)
  simp

/-- A step that wraps what an inner loop gives. -/
lemma forall_mem_of_wrap {α β : Type} {P : α → Prop} {inner : Except BuildError (β × Nat)}
    (wrap : β → α) (after : Nat → Nat) {found : List α} {used : Nat}
    (h : (do let (b, n) ← inner
             return ([wrap b], after n)) = Except.ok (found, used))
    (hwrap : ∀ b n, inner = .ok (b, n) → P (wrap b)) : ∀ a ∈ found, P a := by
  obtain ⟨⟨b, n⟩, hb, h⟩ := exists_of_bind_eq_ok h
  obtain ⟨rfl, -⟩ := Prod.mk.inj (Except.ok.inj h)
  simpa using hwrap b n hb

/-- The loop over running text gives well-formed inlines. -/
lemma wellFormed_of_inlines :
    (∀ stop ts is n, inlines stop ts = .ok (is, n) → ∀ i ∈ is, i.WellFormed) ∧
    ∀ t rest found used, inlinesAt t rest = .ok (found, used) → ∀ i ∈ found, i.WellFormed := by
  refine inlines.mutual_induct_unfolding
    (fun _ _ r => ∀ is n, r = .ok (is, n) → ∀ i ∈ is, i.WellFormed)
    (fun _ _ r => ∀ found used, r = .ok (found, used) → ∀ i ∈ found, i.WellFormed)
    ?streamEnd ?closer ?step ?text ?textSpecial ?softbreak ?hardbreak ?emOpen ?strongOpen
    ?codeInline ?linkOpen ?image ?mathInline ?mathInlineDouble ?footnoteRef ?htmlInline ?other
  case step =>
    intro stop t rest _ hat hrest is n h
    exact forall_mem_of_step h hat hrest
  case text | textSpecial =>
    intro t rest _ found used h
    obtain ⟨rfl, -⟩ := Prod.mk.inj (Except.ok.inj h)
    exact fun i hi => wellFormed_of_mem_textInlines hi
  case softbreak | hardbreak | codeInline | mathInline | mathInlineDouble | footnoteRef =>
    intro t rest _ found used h i hi
    obtain ⟨rfl, -⟩ := Prod.mk.inj (Except.ok.inj h)
    obtain rfl := List.mem_singleton.1 hi
    constructor <;> decide
  case emOpen =>
    intro t rest _ ih found used h
    exact forall_mem_of_wrap .emphasis (· + 1) h fun inner n hinner => .emphasis (ih inner n hinner)
  case strongOpen =>
    intro t rest _ ih found used h
    exact forall_mem_of_wrap .strong (· + 1) h fun inner n hinner => .strong (ih inner n hinner)
  case linkOpen =>
    intro t rest _ ih found used h
    refine forall_mem_of_wrap (.link · (.url (t.attrValue "href").text)) (· + 1) h ?_
    exact fun inner n hinner => .link _ (ih inner n hinner)
  case image =>
    intro t rest _ ih found used h
    refine forall_mem_of_wrap (.image · (.url (t.attrValue "src").text)) (fun _ => 0) h ?_
    exact fun alt n halt => .image _ (ih alt n halt)
  case htmlInline => exact fun t rest _ found used h => absurd h (by simp)
  case streamEnd => exact fun stop is n h => forall_mem_of_nothing h
  case closer => exact fun t rest is n h => forall_mem_of_nothing h
  case other => exact fun t rest _ _ _ _ _ _ _ _ _ _ _ _ _ is n h => forall_mem_of_nothing h

lemma wellFormed_of_runningText {ts : List Token} {is : List Inline} (h : runningText ts = .ok is) :
    ∀ i ∈ is, i.WellFormed := by
  cases ts with
  | nil => exact absurd h (by simp [runningText])
  | cons t rest =>
    obtain ⟨⟨inner, n⟩, hinner, h⟩ := exists_of_bind_eq_ok h
    obtain rfl := Except.ok.inj h
    exact wellFormed_of_inlines.1 none t.children inner n hinner

/-- The loops over blocks and items give well-formed blocks. -/
lemma wellFormed_of_blocks :
    (∀ stop ts bs n, blocks stop ts = .ok (bs, n) → ∀ b ∈ bs, b.WellFormed) ∧
    (∀ t rest found used, blocksAt t rest = .ok (found, used) → ∀ b ∈ found, b.WellFormed) ∧
    ∀ ts items n, listItems ts = .ok (items, n) → ∀ item ∈ items, ∀ b ∈ item, b.WellFormed := by
  refine blocks.mutual_induct
    (fun stop ts => ∀ bs n, blocks stop ts = .ok (bs, n) → ∀ b ∈ bs, b.WellFormed)
    (fun t rest => ∀ found used, blocksAt t rest = .ok (found, used) → ∀ b ∈ found, b.WellFormed)
    (fun ts => ∀ items n, listItems ts = .ok (items, n) →
      ∀ item ∈ items, ∀ b ∈ item, b.WellFormed)
    ?streamEnd ?closer ?step ?headingOpen ?paragraphOpen ?bulletListOpen ?orderedListOpen
    ?blockquoteOpen ?fence ?codeBlock ?htmlBlock ?thematicBreak ?mathBlock ?mathBlockNumbered
    ?footnoteBlockOpen ?footnoteReferenceOpen ?other ?noItem ?listCloser ?item ?stray
  case streamEnd =>
    intro stop bs n h
    rw [blocks] at h
    exact forall_mem_of_nothing h
  case closer =>
    intro stop t rest hstop bs n h
    rw [blocks, if_pos hstop] at h
    exact forall_mem_of_nothing h
  case step =>
    intro stop t rest hstop hat hrest bs n h
    rw [blocks, if_neg hstop] at h
    exact forall_mem_of_step h hat hrest
  case headingOpen =>
    intro t rest hkind found used h
    simp only [blocksAt, hkind] at h
    obtain ⟨level, hlevel, h⟩ := exists_of_bind_eq_ok h
    obtain ⟨inner, hinner, h⟩ := exists_of_bind_eq_ok h
    obtain ⟨rfl, -⟩ := Prod.mk.inj (Except.ok.inj h)
    obtain ⟨hlow, hhigh⟩ := headingLevel_bounds hlevel
    simpa using Block.WellFormed.heading hlow hhigh (wellFormed_of_runningText hinner)
  case paragraphOpen =>
    intro t rest hkind found used h
    simp only [blocksAt, hkind] at h
    obtain ⟨inner, hinner, h⟩ := exists_of_bind_eq_ok h
    obtain ⟨rfl, -⟩ := Prod.mk.inj (Except.ok.inj h)
    simpa using Block.WellFormed.paragraph (wellFormed_of_runningText hinner)
  case bulletListOpen =>
    intro t rest hkind ih found used h
    simp only [blocksAt, hkind] at h
    refine forall_mem_of_wrap .bulletList (· + 1) h ?_
    exact fun items n hitems => .bulletList (ih items n hitems)
  case blockquoteOpen =>
    intro t rest hkind ih found used h
    simp only [blocksAt, hkind] at h
    refine forall_mem_of_wrap .blockQuote (· + 1) h ?_
    exact fun inner n hinner => .blockQuote (ih inner n hinner)
  case fence | codeBlock =>
    intro t rest hkind found used h b hb
    simp only [blocksAt, hkind, Except.ok.injEq, Prod.mk.injEq] at h
    obtain ⟨rfl, -⟩ := h
    obtain rfl := List.mem_singleton.1 hb
    exact .codeBlock _ fun l hl => language_of_mem_firstWord hl
  case htmlBlock | thematicBreak =>
    intro t rest hkind found used h b hb
    simp only [blocksAt, hkind, Except.ok.injEq, Prod.mk.injEq] at h
    obtain ⟨rfl, -⟩ := h
    obtain rfl := List.mem_singleton.1 hb
    constructor
  case mathBlock | mathBlockNumbered =>
    intro t rest hkind found used h b hb
    simp only [blocksAt, hkind, Except.ok.injEq, Prod.mk.injEq] at h
    obtain ⟨rfl, -⟩ := h
    obtain rfl := List.mem_singleton.1 hb
    refine .paragraph fun i hi => ?_
    obtain rfl := List.mem_singleton.1 hi
    exact .mathDisplay _
  case orderedListOpen =>
    intro t rest hkind found used h
    simp only [blocksAt, hkind] at h
    exact absurd h (by simp)
  case footnoteBlockOpen | footnoteReferenceOpen =>
    intro t rest hkind found used h
    simp only [blocksAt, hkind] at h
    exact forall_mem_of_nothing h
  case other =>
    intro t rest _ _ _ _ _ _ _ _ _ _ _ _ _ found used h
    unfold blocksAt at h
    simp_all
  case noItem =>
    intro items n h
    rw [listItems] at h
    exact forall_mem_of_nothing h
  case listCloser =>
    intro t rest hkind items n h
    simp only [listItems, hkind] at h
    exact forall_mem_of_nothing h
  case item =>
    intro t rest hkind hblocks hrest items n h
    simp only [listItems, hkind] at h
    obtain ⟨⟨item, m⟩, hitem, h⟩ := exists_of_bind_eq_ok h
    obtain ⟨⟨more, k⟩, hmore, h⟩ := exists_of_bind_eq_ok h
    obtain ⟨rfl, -⟩ := Prod.mk.inj (Except.ok.inj h)
    intro other hother
    rcases List.mem_cons.1 hother with rfl | hother
    · exact hblocks _ m hitem
    · exact hrest m more k hmore other hother
  case stray =>
    intro t rest hcloser hitem ih items n h
    rw [listItems] at h
    split at h
    · exact (hcloser ‹_›).elim
    · exact (hitem ‹_›).elim
    · obtain ⟨⟨more, m⟩, hmore, h⟩ := exists_of_bind_eq_ok h
      obtain ⟨rfl, -⟩ := Prod.mk.inj (Except.ok.inj h)
      exact ih more m hmore

/-- The builder makes well-formed documents. -/
lemma wellFormed_of_document {ts : List Token} {d : Document} (h : document ts = .ok d) :
    d.WellFormed := by
  obtain ⟨⟨found, n⟩, hfound, h⟩ := exists_of_bind_eq_ok h
  obtain rfl := Except.ok.inj h
  exact wellFormed_of_blocks.1 [] ts found n hfound

end Markup

/-! ## How well-formed documents are mapped -/

/-- The constructs that the builder makes and that have no constructor. -/
def unmappedKinds : List String :=
  ["BlockQuote", "Footnote", "Linebreak", "MathInline", "MathDisplay", "NonBreakingSpace"]

/-- A mapping that fails, if at all, for a whole construct that the builder makes. -/
def Tame {α : Type} (r : Except MappingError α) : Prop :=
  ∀ e ∈ failure? r, ∃ kind ∈ unmappedKinds, e = .unsupported kind

section Tame

variable {α β γ : Type}

lemma tame_ok (a : α) : Tame (.ok a) := by simp [Tame, failure?]

lemma tame_error {kind : String} (h : kind ∈ unmappedKinds) :
    Tame (.error (.unsupported kind) : Except MappingError α) := by
  intro e he
  obtain rfl := Option.some.inj he
  exact ⟨kind, h, rfl⟩

lemma Tame.map {x : Except MappingError α} (hx : Tame x) (f : α → β) :
    Tame (x >>= fun a => .ok (f a)) := by
  rwa [Tame, failure?_map]

lemma Tame.both {x : Except MappingError α} {y : Except MappingError β} (hx : Tame x)
    (hy : Tame y) (f : α → β → γ) : Tame (x >>= fun a => y >>= fun b => .ok (f a b)) := by
  rw [Tame, failure?_both]
  intro e he
  rcases Option.or_eq_some_iff.1 he with he | ⟨-, he⟩
  · exact hx e he
  · exact hy e he

end Tame

namespace Inline

lemma tame_toCodeAll {is : List Inline} (h : ∀ i ∈ is, Tame i.toCode) : Tame (toCodeAll is) := by
  induction is with
  | nil => exact tame_ok []
  | cons i is ih =>
    have hrest := ih fun j hj => h j (List.mem_cons_of_mem i hj)
    exact (h i List.mem_cons_self).both hrest _

lemma WellFormed.tame_toCode {i : Inline} (h : i.WellFormed) : Tame i.toCode := by
  induction h with
  | text _ _ | code _ | image _ _ _ => exact tame_ok _
  | emphasis _ ih | strong _ ih | link _ _ ih => exact (tame_toCodeAll ih).map _
  | footnote _ | linebreak | mathInline _ | mathDisplay _ | nonBreakingSpace =>
    exact tame_error (by simp [kind, unmappedKinds])

end Inline

namespace Block

lemma tame_toCodeAll {bs : List Block} (h : ∀ b ∈ bs, Tame b.toCode) : Tame (toCodeAll bs) := by
  induction bs with
  | nil => exact tame_ok []
  | cons b bs ih =>
    have hrest := ih fun c hc => h c (List.mem_cons_of_mem b hc)
    exact (h b List.mem_cons_self).both hrest _

lemma tame_toCodeItems {items : List (List Block)} (h : ∀ item ∈ items, ∀ b ∈ item, Tame b.toCode) :
    Tame (toCodeItems items) := by
  induction items with
  | nil => exact tame_ok []
  | cons item items ih =>
    have hrest := ih fun other hother => h other (List.mem_cons_of_mem item hother)
    exact (tame_toCodeAll (h item List.mem_cons_self)).both hrest _

lemma WellFormed.tame_toCode {b : Block} (h : b.WellFormed) : Tame b.toCode := by
  induction h with
  | paragraph his => exact (Inline.tame_toCodeAll fun i hi => (his i hi).tame_toCode).map _
  | heading hlow hhigh his =>
    have hinner := Inline.tame_toCodeAll fun i hi => (his i hi).tame_toCode
    rw [toCode, Level.text_digit (by omega)]
    exact (tame_ok _).both hinner _
  | bulletList _ ih => exact (tame_toCodeItems ih).map _
  | codeBlock _ _ | rawBlock _ | thematicBreak => exact tame_ok _
  | blockQuote _ _ => exact tame_error (by simp [kind, unmappedKinds])

end Block

/-! ## Printing what has been mapped -/

namespace Code

lemma attributesOfValues?_map (attributes : List (String × String)) :
    attributesOfValues? (attributes.map fun a => .tuple [.str a.1, .str a.2]) =
      some attributes := by
  induction attributes with
  | nil => rfl
  | cons a attributes ih =>
    rw [attributesOfValues?] at ih ⊢
    rw [List.map_cons, List.mapM_cons, attributeOfValue?, ih]
    rfl

mutual

/-- A call is read back from its node. -/
lemma ofValue_toValue : (c : Code) → ofValue c.toValue = .ok c
  | element tag attributes children => by
    rw [toValue, attributesToValue, ofValue, ofValues_toValues children,
      attributesOfValues?_map attributes]
    rfl
  | selfClosing tag attributes => by
    rw [toValue, attributesToValue, ofValue, attributesOfValues?_map attributes]
  | rawHtml space tag attributes content => by
    rw [toValue, attributesToValue, ofValue, attributesOfValues?_map attributes]
  | text content => rfl

/-- Calls are read back from their nodes. -/
lemma ofValues_toValues : (cs : List Code) → ofValues (toValues cs) = .ok cs
  | [] => rfl
  | c :: cs => by
    rw [toValues, ofValues, ofValue_toValue c, ofValues_toValues cs]
    rfl

end

end Code

namespace Document

lemma WellFormed.tame_toCode {d : Document} (h : d.WellFormed) : Tame d.toCode :=
  Block.tame_toCodeAll fun b hb => (h b hb).tame_toCode

/-- A document that the builder makes is not mapped only if a construct is rejected. -/
lemma exists_rejected_of_toCode_error {ts : List Markup.Token} {d : Document} {e : MappingError}
    (h : Markup.document ts = .ok d) (he : d.toCode = .error e) : ∃ r, e = .rejected r := by
  obtain ⟨kind, -, rfl⟩ :=
    (Markup.wellFormed_of_document h).tame_toCode e (by rw [he]; rfl)
  exact ⟨_, rfl⟩

/-- **Built documents.**  Whatever the token stream, a document that it gives is well formed.  It is
mapped to calls that can be printed, or it is rejected for a block quote, a footnote, a line break,
a formula or a non-breaking space. -/
theorem wellFormed_and_toCode_of_document {ts : List Markup.Token} {d : Document}
    (h : Markup.document ts = .ok d) :
    d.WellFormed ∧
      ((∃ cs, d.toCode = .ok cs ∧ Code.ofValues (Code.toValues cs) = .ok cs ∧
          ∀ mode, d.printCode mode = .ok (Code.printAll mode cs)) ∨
        ∃ kind ∈ ["BlockQuote", "Footnote", "Linebreak", "MathInline", "MathDisplay",
          "NonBreakingSpace"], d.toCode = .error (.rejected ⟨kind, none⟩)) := by
  have hd := Markup.wellFormed_of_document h
  refine ⟨hd, ?_⟩
  cases hcode : d.toCode with
  | ok cs => exact .inl ⟨cs, rfl, Code.ofValues_toValues cs, printCode_of_toCode hcode⟩
  | error e =>
    obtain ⟨kind, hkind, rfl⟩ := hd.tame_toCode e (by rw [hcode]; rfl)
    exact .inr ⟨kind, hkind, rfl⟩

/-- A list, an item, a heading and a span, none of which is closed; the level is a digit of another
script, and the image has no source. -/
theorem wellFormed_and_toCode_of_unclosed :
    let image : Markup.Token :=
      { kind := .image, attrs := [("src", .int 0)]
        children := [{ kind := .text, content := "x" }] }
    let running : Markup.Token :=
      { kind := .inline
        children := [{ kind := .emOpen }, { kind := .text, content := "a\u00a0" }, image] }
    let ts : List Markup.Token :=
      [{ kind := .bulletListOpen }, { kind := .listItemOpen },
        { kind := .headingOpen, tag := "h٣" }, running]
    let d : Document := ⟨[.bulletList [[.heading (.number 3) [.emphasis
      [.text "a", .nonBreakingSpace, .image [.text "x"] (.url "")]]]]]⟩
    Markup.document ts = .ok d ∧ d.WellFormed ∧
      d.toCode = .error (.rejected ⟨"NonBreakingSpace", none⟩) := by
  intro image running ts d
  have hlevel : Markup.headingLevel "h٣" = .ok 3 := by decide
  have h : Markup.document ts = .ok d := by
    simp [ts, d, running, image, Markup.document, Markup.blocks, Markup.blocksAt, Markup.listItems,
      Markup.runningText, Markup.inlines, Markup.inlinesAt, hlevel, bind, Except.bind, pure,
      Except.pure]
    rfl
  refine ⟨h, (wellFormed_and_toCode_of_document h).1, ?_⟩
  simp only [d, toCode, Block.toCodeAll, Block.toCode, Block.toCodeItems,
    Level.text_digit (show Int.natAbs 3 ≤ 9 by decide)]
  rfl

end Document

end ElementCode
