import Mathlib
import ElementCode.Markup.Document

/-!
# Documents of well-nested streams

A token stream is well nested when it is written from a tree: every opener has its closer, and
headings and paragraphs hold exactly one inline token.  `InlineTree` and `BlockTree` are these
trees and `tokens` writes them.

A tree also has a document of its own, read off by recursion on the tree: `inlines` and `blocks`
are what the tree stands for, and `rejections` lists the constructs in it that documents cannot
express, in reading order.  The two agree (`document_tokensAll`): the document of the stream is the
document of the tree, or the first rejection.

Each loop of the builder counts the tokens that it steps over.  The proof says once, with `after`,
what a loop does on a stream that starts with the tokens of a tree: it adds what the tree stands
for, steps over exactly the tokens of the tree and goes on with the rest
(`inlines_tokensAll_append`, `blocks_tokensAll_append`).
-/

namespace ElementCode.Markup

/-! ## Trees and their tokens -/

/-- Running text as a tree. -/
inductive InlineTree where
  | text (content : String)
  | softbreak
  | hardbreak
  | emphasis (inner : List InlineTree)
  | strong (inner : List InlineTree)
  /-- A link; `more` holds the attributes after its target, such as a title. -/
  | link (href : String) (more : List (String × Value)) (inner : List InlineTree)
  /-- An image; `more` holds the attributes after its source. -/
  | image (src : String) (more : List (String × Value)) (alt : List InlineTree)
  | code (content : String)
  | math (latex : String)
  /-- A displayed formula in running text. -/
  | displayMath (latex : String)
  /-- A reference to a footnote, which is numbered and may have a label. -/
  | footnote (id : Nat) (label : Option String)
  | html (content : String)

/-- The six levels of headings. -/
abbrev HeadingLevel := {n : Nat // 1 ≤ n ∧ n ≤ 6}

/-- The blocks of a document as a tree. -/
inductive BlockTree where
  | heading (level : HeadingLevel) (inner : List InlineTree)
  /-- A paragraph, with its mark for tight lists. -/
  | paragraph (hidden : Bool) (inner : List InlineTree)
  | bulletList (items : List (List BlockTree))
  | orderedList (items : List (List BlockTree))
  | blockQuote (inner : List BlockTree)
  | fence (info content : String)
  | indentedCode (info content : String)
  | html (content : String)
  | thematicBreak
  /-- A formula, numbered when it has a label. -/
  | math (label : Option String) (latex : String)
  /-- The definitions of footnotes: a stream of any tokens but their closer. -/
  | footnotes (inner : {ts : List Token // ∀ t ∈ ts, t.kind ≠ .footnoteBlockClose})

namespace InlineTree

mutual

/-- The tokens of running text. -/
def tokens : InlineTree → List Token
  | text content => [{ kind := .text, content }]
  | softbreak => [{ kind := .softbreak, tag := "br" }]
  | hardbreak => [{ kind := .hardbreak, tag := "br" }]
  | emphasis inner =>
    { kind := .emOpen, tag := "em" } :: (tokensAll inner ++ [{ kind := .emClose, tag := "em" }])
  | strong inner =>
    { kind := .strongOpen, tag := "strong" } ::
      (tokensAll inner ++ [{ kind := .strongClose, tag := "strong" }])
  | link href more inner =>
    { kind := .linkOpen, tag := "a", attrs := ("href", .str href) :: more } ::
      (tokensAll inner ++ [{ kind := .linkClose, tag := "a" }])
  | image src more alt =>
    [{ kind := .image, tag := "img", attrs := ("src", .str src) :: more
       children := tokensAll alt }]
  | code content => [{ kind := .codeInline, tag := "code", content }]
  | math latex => [{ kind := .mathInline, tag := "math", content := latex }]
  | displayMath latex => [{ kind := .mathInlineDouble, tag := "math", content := latex }]
  | footnote id label =>
    [{ kind := .footnoteRef
       data := ("id", .int id) :: label.toList.map fun l => ("label", .str l) }]
  | html content => [{ kind := .htmlInline, content }]

/-- The tokens of a list of running texts. -/
def tokensAll : List InlineTree → List Token
  | [] => []
  | i :: rest => tokens i ++ tokensAll rest

end

end InlineTree

/-- The token of running text between the opener and the closer of its block. -/
def inlineToken (inner : List InlineTree) : Token :=
  { kind := .inline, children := InlineTree.tokensAll inner }

namespace BlockTree

mutual

/-- The tokens of a block. -/
def tokens : BlockTree → List Token
  | heading level inner =>
    [{ kind := .headingOpen, tag := "h" ++ toString level.val }, inlineToken inner,
      { kind := .headingClose, tag := "h" ++ toString level.val }]
  | paragraph hidden inner =>
    [{ kind := .paragraphOpen, tag := "p", hidden }, inlineToken inner,
      { kind := .paragraphClose, tag := "p", hidden }]
  | bulletList items =>
    { kind := .bulletListOpen, tag := "ul" } ::
      (itemTokens items ++ [{ kind := .bulletListClose, tag := "ul" }])
  | orderedList items =>
    { kind := .orderedListOpen, tag := "ol" } ::
      (itemTokens items ++ [{ kind := .orderedListClose, tag := "ol" }])
  | blockQuote inner =>
    { kind := .blockquoteOpen, tag := "blockquote" } ::
      (tokensAll inner ++ [{ kind := .blockquoteClose, tag := "blockquote" }])
  | fence info content => [{ kind := .fence, tag := "code", info, content }]
  | indentedCode info content => [{ kind := .codeBlock, tag := "code", info, content }]
  | html content => [{ kind := .htmlBlock, content }]
  | thematicBreak => [{ kind := .thematicBreak, tag := "hr" }]
  | math none latex => [{ kind := .mathBlock, tag := "math", content := latex }]
  | math (some label) latex =>
    [{ kind := .mathBlockNumbered, tag := "math", info := label, content := latex }]
  | footnotes inner =>
    { kind := .footnoteBlockOpen } :: (inner.val ++ [{ kind := .footnoteBlockClose }])

/-- The tokens of a list of blocks. -/
def tokensAll : List BlockTree → List Token
  | [] => []
  | b :: rest => tokens b ++ tokensAll rest

/-- The tokens of the items of a list. -/
def itemTokens : List (List BlockTree) → List Token
  | [] => []
  | item :: rest =>
    { kind := .listItemOpen, tag := "li" } ::
      (tokensAll item ++ { kind := .listItemClose, tag := "li" } :: itemTokens rest)

end

end BlockTree

/-! ## What a tree stands for -/

/-- The pieces of a text between its non-breaking spaces, without the empty ones. -/
def spacedText (content : String) : List Inline :=
  [Inline.nonBreakingSpace].intercalate ((content.toList.splitOn '\u00a0').map fun piece =>
    if piece = [] then [] else [.text (String.ofList piece)])

/-- The language that an info string starts with. -/
def language (info : String) : Option String :=
  let word := (info.toList.dropWhile Text.isBlank).takeWhile fun c => !Text.isBlank c
  if word = [] then none else some (String.ofList word)

/-- A footnote is named by its label, or by its number when the label is missing or empty. -/
def noteName (id : Nat) (label : Option String) : String :=
  match label with
  | none => toString id
  | some l => if l = "" then toString id else l

namespace InlineTree

mutual

/-- The inlines that a tree stands for; HTML stands for none. -/
def inlines : InlineTree → List Inline
  | text content => spacedText content
  | softbreak => [.text " "]
  | hardbreak => [.linebreak]
  | emphasis inner => [.emphasis (inlinesAll inner)]
  | strong inner => [.strong (inlinesAll inner)]
  | link href _ inner => [.link (inlinesAll inner) (.url href)]
  | image src _ alt => [.image (inlinesAll alt) (.url src)]
  | code content => [.code content]
  | math latex => [.mathInline latex]
  | displayMath latex => [.mathDisplay latex]
  | footnote id label => [.footnote (noteName id label)]
  | html _ => []

/-- The inlines that a list of trees stands for. -/
def inlinesAll : List InlineTree → List Inline
  | [] => []
  | i :: rest => inlines i ++ inlinesAll rest

end

mutual

/-- What documents cannot express of a tree, in reading order. -/
def rejections : InlineTree → List Rejection
  | emphasis inner | strong inner | link _ _ inner | image _ _ inner => rejectionsAll inner
  | html content => [⟨"RawInline", some content⟩]
  | text _ | softbreak | hardbreak | code _ | math _ | displayMath _ | footnote _ _ => []

/-- What documents cannot express of a list of trees, in reading order. -/
def rejectionsAll : List InlineTree → List Rejection
  | [] => []
  | i :: rest => rejections i ++ rejectionsAll rest

end

end InlineTree

namespace BlockTree

mutual

/-- The blocks that a tree stands for; ordered lists and the definitions of footnotes stand for
none. -/
def blocks : BlockTree → List Block
  | heading level inner => [.heading (.number level.val) (InlineTree.inlinesAll inner)]
  | paragraph _ inner => [.paragraph (InlineTree.inlinesAll inner)]
  | bulletList items => [.bulletList (itemBlocks items)]
  | blockQuote inner => [.blockQuote (blocksAll inner)]
  | fence info content | indentedCode info content => [.codeBlock (language info) content]
  | html content => [.rawBlock content]
  | thematicBreak => [.thematicBreak]
  | math _ latex => [.paragraph [.mathDisplay (Text.strip latex)]]
  | orderedList _ | footnotes _ => []

/-- The blocks that a list of trees stands for. -/
def blocksAll : List BlockTree → List Block
  | [] => []
  | b :: rest => blocks b ++ blocksAll rest

/-- The blocks of each item of a list. -/
def itemBlocks : List (List BlockTree) → List (List Block)
  | [] => []
  | item :: rest => blocksAll item :: itemBlocks rest

end

mutual

/-- What documents cannot express of a tree, in reading order.  Nothing that stands in the
definitions of footnotes is read. -/
def rejections : BlockTree → List Rejection
  | heading _ inner | paragraph _ inner => InlineTree.rejectionsAll inner
  | bulletList items => itemRejections items
  | orderedList items => ⟨"OrderedList", none⟩ :: itemRejections items
  | blockQuote inner => rejectionsAll inner
  | fence _ _ | indentedCode _ _ | html _ | thematicBreak | math _ _ | footnotes _ => []

/-- What documents cannot express of a list of trees, in reading order. -/
def rejectionsAll : List BlockTree → List Rejection
  | [] => []
  | b :: rest => rejections b ++ rejectionsAll rest

/-- What documents cannot express of the items of a list, in reading order. -/
def itemRejections : List (List BlockTree) → List Rejection
  | [] => []
  | item :: rest => rejectionsAll item ++ itemRejections rest

end

end BlockTree

/-- A result, unless something has been rejected: then the first rejection. -/
def settle {α : Type} (rs : List Rejection) (a : α) : Except BuildError α :=
  match rs with
  | [] => .ok a
  | r :: _ => .error (.rejected r)

/-! ## Texts, languages and names -/

lemma splitAtChar_ne_nil (sep : Char) (cs : List Char) : Text.splitAtChar sep cs ≠ [] := by
  cases cs with
  | nil => simp [Text.splitAtChar]
  | cons c cs =>
    rw [Text.splitAtChar]
    split
    · simp
    · split <;> simp

lemma splitAtChar_eq_splitOn (sep : Char) (cs : List Char) :
    Text.splitAtChar sep cs = cs.splitOn sep := by
  induction cs with
  | nil => simp [Text.splitAtChar]
  | cons c cs ih =>
    rw [Text.splitAtChar, List.splitOn_cons_eq_if_modifyHead, ← ih]
    cases h : Text.splitAtChar sep cs with
    | nil => exact absurd h (splitAtChar_ne_nil sep cs)
    | cons piece rest => rfl

lemma intercalate_cons_eq_flatMap {α : Type} (sep a : List α) (as : List (List α)) :
    sep.intercalate (a :: as) = a ++ as.flatMap (sep ++ ·) := by
  induction as generalizing a with
  | nil => simp
  | cons b as ih =>
    rw [List.intercalate_cons_cons, ih, List.flatMap_cons]
    simp only [List.append_assoc]

/-- The builder cuts a text at its non-breaking spaces. -/
lemma textInlines_eq_spacedText (content : String) : textInlines content = spacedText content := by
  have hpiece : (fun piece : List Char => if piece = [] then [] else
      [Inline.text (String.ofList piece)]) = textPiece := by
    funext piece
    cases piece <;> rfl
  rw [textInlines, spacedText, hpiece, ← splitAtChar_eq_splitOn]
  cases h : Text.splitAtChar nbsp content.toList with
  | nil => exact absurd h (splitAtChar_ne_nil _ _)
  | cons piece rest =>
    rw [show '\u00a0' = nbsp from rfl, h, List.map_cons, intercalate_cons_eq_flatMap,
      List.flatMap_map]
    rfl

/-- The first word is what is left of the word in progress, or the first word after it. -/
lemma head?_wordsFrom (p : Char → Bool) (word cs : List Char) :
    (Text.wordsFrom p word cs).head? =
      if word = [] then
        if (cs.dropWhile p).takeWhile (fun c => !p c) = [] then none
        else some ((cs.dropWhile p).takeWhile fun c => !p c)
      else some (word.reverse ++ cs.takeWhile fun c => !p c) := by
  induction cs generalizing word with
  | nil => by_cases hword : word = [] <;> simp [Text.wordsFrom, hword]
  | cons c cs ih =>
    by_cases hc : p c <;> by_cases hword : word = [] <;>
      simp [Text.wordsFrom, hc, hword, ih]

lemma firstWord_eq_language (info : String) : firstWord info = language info := by
  rw [firstWord, Text.words, Text.wordsBy, head?_wordsFrom, language]
  simp only [if_true]
  split <;> rfl

lemma headingLevel_tag (level : HeadingLevel) :
    headingLevel ("h" ++ toString level.val) = .ok level.val := by
  obtain ⟨n, hlow, hhigh⟩ := level
  show headingLevel ("h" ++ toString n) = .ok n
  interval_cases n <;> decide

/-- A text that an attribute list starts with is the attribute, even when it is empty. -/
lemma text_attrValue {t : Token} {name target : String} {more : List (String × Value)}
    (h : t.attrs = (name, .str target) :: more) : (t.attrValue name).text = target := by
  have hfield : Value.field name t.attrs = some (.str target) := by
    rw [h, Value.field, if_pos (by simp)]
  rw [Token.attrValue, hfield]
  by_cases htarget : target = ""
  · subst htarget
    rfl
  · simp [Value.isTruthy, htarget, Value.text]

lemma text_int (n : Nat) : (Value.int n).text = toString n := rfl

lemma text_footnoteName {t : Token} {id : Nat} {label : Option String}
    (h : t.data = ("id", .int id) :: label.toList.map fun l => ("label", .str l)) :
    t.footnoteName.text = noteName id label := by
  have hid : Value.field "id" t.data = some (.int id) := by
    rw [h, Value.field, if_pos (by simp)]
  cases label with
  | none =>
    have hlabel : Value.field "label" t.data = none := by rw [h]; rfl
    rw [Token.footnoteName, hlabel, hid, noteName]
    exact text_int id
  | some l =>
    have hlabel : Value.field "label" t.data = some (.str l) := by rw [h]; rfl
    rw [Token.footnoteName, hlabel, hid, noteName]
    by_cases hl : l = ""
    · subst hl
      exact text_int id
    · simp [Value.isTruthy, hl, Value.text]

/-! ## Stepping over a tree -/

/-- What a loop gives on a stream when its first `used` tokens stand for `found` and are rejected
for `rs`, and `more` is what it gives on the tokens after them. -/
def after {α : Type} (rs : List Rejection) (found : List α) (used : Nat)
    (more : Except BuildError (List α × Nat)) : Except BuildError (List α × Nat) := do
  let () ← settle rs ()
  let (rest, n) ← more
  return (found ++ rest, used + n)

section After

variable {α : Type}

lemma after_after (rs rs' : List Rejection) (found found' : List α) (used used' : Nat)
    (more : Except BuildError (List α × Nat)) :
    after rs found used (after rs' found' used' more) =
      after (rs ++ rs') (found ++ found') (used + used') more := by
  cases rs with
  | cons r rs => rfl
  | nil =>
    cases rs' with
    | cons r rs' => rfl
    | nil =>
      cases more with
      | error e => rfl
      | ok p => simp [after, settle, bind, Except.bind, pure, Except.pure, Nat.add_assoc]

lemma after_nil (more : Except BuildError (List α × Nat)) : after [] [] 0 more = more := by
  cases more with
  | error e => rfl
  | ok p => simp [after, settle, bind, Except.bind, pure, Except.pure]

/-- A loop that stops right after the tokens gives what they stand for. -/
lemma after_ok (rs : List Rejection) (found : List α) (used : Nat) :
    after rs found used (.ok ([], 0)) = settle rs (found, used) := by
  cases rs with
  | cons r rs => rfl
  | nil => simp [after, settle, bind, Except.bind, pure, Except.pure]

end After

lemma settle_bind {α β : Type} (rs : List Rejection) (a : α) (f : α → Except BuildError β)
    (b : β) (h : f a = .ok b) : settle rs a >>= f = settle rs b := by
  cases rs with
  | nil => exact h
  | cons r rs => rfl

/-- The tokens after a construct that takes one more token than `ts`. -/
lemma drop_length_append_cons (ts rest : List Token) (t : Token) :
    (ts ++ t :: rest).drop (ts.length + 1) = rest := by
  rw [List.drop_length_add_append, List.drop_succ_cons, List.drop_zero]

/-! ## Running text -/

/-- The closers, which are the only tokens that stop a loop over inlines. -/
def Kind.endsSpan : Kind → Bool
  | .emClose | .strongClose | .linkClose => true
  | _ => false

section Inlines

variable {stop : Option Kind} {t close : Token} {ts rest : List Token} {rs : List Rejection}
  {found : List Inline}

lemma inlines_cons {used : Nat} (hstop : ∀ k ∈ stop, k.endsSpan) (ht : t.kind.endsSpan = false)
    (h : inlinesAt t rest = settle rs (found, used)) :
    inlines stop (t :: rest) = after rs found (used + 1) (inlines stop (rest.drop used)) := by
  have hne : some t.kind ≠ stop := by
    intro heq
    exact absurd (hstop t.kind heq.symm) (by simp [ht])
  rw [inlines, if_neg hne, h]
  cases rs with
  | nil => rfl
  | cons r rs => rfl

lemma inlines_leaf (hstop : ∀ k ∈ stop, k.endsSpan) (ht : t.kind.endsSpan = false)
    (h : inlinesAt t rest = .ok (found, 0)) :
    inlines stop (t :: rest) = after [] found 1 (inlines stop rest) :=
  inlines_cons hstop ht h

lemma inlines_closer : inlines (some close.kind) (close :: rest) = .ok ([], 0) := by
  rw [inlines, if_pos rfl]

/-- A stream of its own is read to its end. -/
lemma inlines_none_of_append
    (h : inlines none (ts ++ []) = after rs found ts.length (inlines none [])) :
    inlines none ts = settle rs (found, ts.length) := by
  rw [List.append_nil] at h
  rw [h, inlines, after_ok]

/-- A span takes its opener, what the loop inside of it steps over, and its closer. -/
lemma inlines_span (wrap : List Inline → Inline) (hstop : ∀ k ∈ stop, k.endsSpan)
    (ht : t.kind.endsSpan = false)
    (hat : inlinesAt t (ts ++ close :: rest) = do
      let (inner, n) ← inlines (some close.kind) (ts ++ close :: rest)
      return ([wrap inner], n + 1))
    (hinner : inlines (some close.kind) (ts ++ close :: rest) =
      after rs found ts.length (inlines (some close.kind) (close :: rest))) :
    inlines stop (t :: (ts ++ [close]) ++ rest) =
      after rs [wrap found] (t :: (ts ++ [close])).length (inlines stop rest) := by
  rw [inlines_closer, after_ok] at hinner
  have h : inlinesAt t (ts ++ close :: rest) = settle rs ([wrap found], ts.length + 1) := by
    rw [hat, hinner]
    exact settle_bind _ _ _ _ rfl
  rw [List.cons_append, List.append_assoc, List.singleton_append, inlines_cons hstop ht h,
    drop_length_append_cons, List.length_cons, List.length_append, List.length_singleton]

end Inlines

mutual

/-- A loop over inlines steps over exactly the tokens of a tree. -/
theorem inlines_tokens_append {stop : Option Kind} (hstop : ∀ k ∈ stop, k.endsSpan)
    (rest : List Token) : ∀ i : InlineTree,
    inlines stop (i.tokens ++ rest) =
      after i.rejections i.inlines i.tokens.length (inlines stop rest)
  | .text content => by
    rw [InlineTree.inlines, ← textInlines_eq_spacedText]
    exact inlines_leaf hstop rfl (by rw [inlinesAt])
  | .softbreak | .hardbreak | .code _ | .math _ | .displayMath _ =>
    inlines_leaf hstop rfl (by rw [inlinesAt]; rfl)
  | .footnote id label => by
    refine inlines_leaf hstop rfl ?_
    rw [inlinesAt, InlineTree.inlines, text_footnoteName rfl]
  -- The rejection of HTML ends the loop, so that `after` never looks at the rest.
  | .html content => inlines_cons hstop rfl (by rw [inlinesAt]; rfl)
  | .emphasis inner => by
    refine inlines_span .emphasis hstop rfl ?_ (inlines_tokensAll_append ?_ _ inner)
    · rw [inlinesAt]
    · simp [Kind.endsSpan]
  | .strong inner => by
    refine inlines_span .strong hstop rfl ?_ (inlines_tokensAll_append ?_ _ inner)
    · rw [inlinesAt]
    · simp [Kind.endsSpan]
  | .link href more inner => by
    refine inlines_span (.link · (.url href)) hstop rfl ?_ (inlines_tokensAll_append ?_ _ inner)
    · rw [inlinesAt, text_attrValue rfl]
    · simp [Kind.endsSpan]
  | .image src more alt => by
    have halt := inlines_none_of_append (inlines_tokensAll_append (by simp) [] alt)
    refine inlines_cons hstop rfl ?_
    rw [inlinesAt]
    show (inlines none (InlineTree.tokensAll alt) >>= _) = _
    rw [halt, text_attrValue rfl]
    exact settle_bind _ _ _ _ rfl

/-- The same for a list of trees. -/
theorem inlines_tokensAll_append {stop : Option Kind} (hstop : ∀ k ∈ stop, k.endsSpan)
    (rest : List Token) : ∀ is : List InlineTree,
    inlines stop (InlineTree.tokensAll is ++ rest) =
      after (InlineTree.rejectionsAll is) (InlineTree.inlinesAll is)
        (InlineTree.tokensAll is).length (inlines stop rest)
  | [] => (after_nil _).symm
  | i :: is => by
    simp only [InlineTree.tokensAll, InlineTree.rejectionsAll, InlineTree.inlinesAll,
      List.append_assoc, List.length_append]
    rw [inlines_tokens_append hstop _ i, inlines_tokensAll_append hstop rest is, after_after]

end

lemma runningText_inlineToken (inner : List InlineTree) (rest : List Token) :
    runningText (inlineToken inner :: rest) =
      settle (InlineTree.rejectionsAll inner) (InlineTree.inlinesAll inner) := by
  rw [runningText, inlineToken,
    inlines_none_of_append (inlines_tokensAll_append (by simp) [] inner)]
  exact settle_bind _ _ _ _ rfl

/-! ## Blocks -/

/-- The closers that stop a loop over blocks. -/
def Kind.endsBlocks : Kind → Bool
  | .listItemClose | .blockquoteClose => true
  | _ => false

lemma countBefore_append_cons {kind : Kind} {t : Token} (ht : t.kind = kind) (rest : List Token)
    {ts : List Token} (hts : ∀ t ∈ ts, t.kind ≠ kind) :
    countBefore kind (ts ++ t :: rest) = ts.length := by
  induction ts with
  | nil => rw [List.nil_append, countBefore, if_pos ht, List.length_nil]
  | cons u ts ih =>
    rw [List.cons_append, countBefore, if_neg (hts u List.mem_cons_self),
      ih fun t h => hts t (List.mem_cons_of_mem u h), List.length_cons]

section Blocks

variable {stop : List Kind} {t close : Token} {ts rest : List Token} {rs : List Rejection}
  {found : List Block}

lemma blocks_cons {used : Nat} (hstop : ∀ k ∈ stop, k.endsBlocks)
    (ht : t.kind.endsBlocks = false) (h : blocksAt t rest = settle rs (found, used)) :
    blocks stop (t :: rest) = after rs found (used + 1) (blocks stop (rest.drop used)) := by
  have hmem : t.kind ∉ stop := by
    intro hmem
    exact absurd (hstop t.kind hmem) (by simp [ht])
  rw [blocks, if_neg hmem, h]
  cases rs with
  | nil => rfl
  | cons r rs => rfl

lemma blocks_leaf (hstop : ∀ k ∈ stop, k.endsBlocks) (ht : t.kind.endsBlocks = false)
    (h : blocksAt t rest = .ok (found, 0)) :
    blocks stop (t :: rest) = after [] found 1 (blocks stop rest) :=
  blocks_cons hstop ht h

/-- A loop over the blocks in front of a closer stops at the closer. -/
lemma blocks_until {kind : Kind} (hclose : close.kind = kind)
    (h : blocks [kind] (ts ++ close :: rest) =
      after rs found ts.length (blocks [kind] (close :: rest))) :
    blocks [kind] (ts ++ close :: rest) = settle rs (found, ts.length) := by
  have hstop : blocks [kind] (close :: rest) = .ok ([], 0) := by
    rw [blocks, if_pos (List.mem_singleton.mpr hclose)]
  rw [h, hstop, after_ok]

/-- A block with a closer takes its opener, the tokens in between and the closer. -/
lemma blocks_enclosed (hstop : ∀ k ∈ stop, k.endsBlocks) (ht : t.kind.endsBlocks = false)
    (h : blocksAt t (ts ++ close :: rest) = settle rs (found, ts.length + 1)) :
    blocks stop (t :: (ts ++ [close]) ++ rest) =
      after rs found (t :: (ts ++ [close])).length (blocks stop rest) := by
  rw [List.cons_append, List.append_assoc, List.singleton_append, blocks_cons hstop ht h,
    drop_length_append_cons, List.length_cons, List.length_append, List.length_singleton]

lemma listItems_closer (hclose : close.kind = .bulletListClose) :
    listItems (close :: rest) = .ok ([], 0) := by
  rw [listItems, hclose]

/-- An item takes its opener, the tokens of its blocks and its closer. -/
lemma listItems_cons (ht : t.kind = .listItemOpen)
    (h : blocks [.listItemClose] (ts ++ close :: rest) = settle rs (found, ts.length)) :
    listItems (t :: (ts ++ close :: rest)) =
      after rs [found] (ts.length + 2) (listItems rest) := by
  have hdrop := drop_length_append_cons ts rest close
  rw [listItems, ht]
  simp only [h]
  cases rs with
  | nil =>
    simp only [settle, after, bind, Except.bind, hdrop]
    rfl
  | cons r rs => rfl

/-- A heading or a paragraph takes its opener, one inline token and its closer. -/
lemma blocks_running (wrap : List Inline → Block) (inner : List InlineTree)
    (hstop : ∀ k ∈ stop, k.endsBlocks) (ht : t.kind.endsBlocks = false)
    (hat : blocksAt t (inlineToken inner :: close :: rest) = do
      let inlines ← runningText (inlineToken inner :: close :: rest)
      return ([wrap inlines], 2)) :
    blocks stop ([t, inlineToken inner, close] ++ rest) =
      after (InlineTree.rejectionsAll inner) [wrap (InlineTree.inlinesAll inner)] 3
        (blocks stop rest) := by
  have h : blocksAt t (inlineToken inner :: close :: rest) =
      settle (InlineTree.rejectionsAll inner) ([wrap (InlineTree.inlinesAll inner)], 2) := by
    rw [hat, runningText_inlineToken]
    exact settle_bind _ _ _ _ rfl
  exact blocks_cons hstop ht h

end Blocks

mutual

/-- A loop over blocks steps over exactly the tokens of a tree. -/
theorem blocks_tokens_append {stop : List Kind} (hstop : ∀ k ∈ stop, k.endsBlocks)
    (rest : List Token) : ∀ b : BlockTree,
    blocks stop (b.tokens ++ rest) =
      after b.rejections b.blocks b.tokens.length (blocks stop rest)
  | .heading level inner => by
    refine blocks_running (.heading (.number level.val)) inner hstop rfl ?_
    rw [blocksAt, headingLevel_tag]
    rfl
  | .paragraph hidden inner =>
    blocks_running .paragraph inner hstop rfl (by rw [blocksAt])
  | .fence info content | .indentedCode info content => by
    rw [BlockTree.blocks, ← firstWord_eq_language]
    exact blocks_leaf hstop rfl (by rw [blocksAt])
  | .html _ | .thematicBreak | .math none _ | .math (some _) _ =>
    blocks_leaf hstop rfl (by rw [blocksAt]; rfl)
  | .orderedList items => by
    -- The opener is rejected already, whatever the items hold.
    refine blocks_enclosed hstop rfl ?_
    rw [blocksAt]
    rfl
  | .footnotes inner => by
    -- No closer stands among the skipped tokens, so the skip ends at the last one.
    refine blocks_enclosed hstop rfl ?_
    rw [blocksAt, countBefore_append_cons (by rfl) rest inner.property]
    rfl
  | .blockQuote inner => by
    refine blocks_enclosed hstop rfl ?_
    rw [blocksAt, blocks_until (by rfl) (blocks_tokensAll_append (by decide) _ inner)]
    exact settle_bind _ _ _ _ rfl
  | .bulletList items => by
    refine blocks_enclosed hstop rfl ?_
    rw [blocksAt, listItems_itemTokens_append _ items, listItems_closer rfl, after_ok]
    exact settle_bind _ _ _ _ rfl

/-- The same for a list of trees. -/
theorem blocks_tokensAll_append {stop : List Kind} (hstop : ∀ k ∈ stop, k.endsBlocks)
    (rest : List Token) : ∀ bs : List BlockTree,
    blocks stop (BlockTree.tokensAll bs ++ rest) =
      after (BlockTree.rejectionsAll bs) (BlockTree.blocksAll bs)
        (BlockTree.tokensAll bs).length (blocks stop rest)
  | [] => (after_nil _).symm
  | b :: bs => by
    simp only [BlockTree.tokensAll, BlockTree.rejectionsAll, BlockTree.blocksAll,
      List.append_assoc, List.length_append]
    rw [blocks_tokens_append hstop _ b, blocks_tokensAll_append hstop rest bs, after_after]

/-- The loop over the items of a list steps over exactly their tokens. -/
theorem listItems_itemTokens_append (rest : List Token) : ∀ items : List (List BlockTree),
    listItems (BlockTree.itemTokens items ++ rest) =
      after (BlockTree.itemRejections items) (BlockTree.itemBlocks items)
        (BlockTree.itemTokens items).length (listItems rest)
  | [] => (after_nil _).symm
  | item :: items => by
    have happend : BlockTree.itemTokens (item :: items) ++ rest =
        { kind := .listItemOpen, tag := "li" } :: (BlockTree.tokensAll item ++
          { kind := .listItemClose, tag := "li" } :: (BlockTree.itemTokens items ++ rest)) := by
      simp only [BlockTree.itemTokens, List.cons_append, List.append_assoc]
    have hitem : blocks [.listItemClose] (BlockTree.tokensAll item ++
        { kind := .listItemClose, tag := "li" } :: (BlockTree.itemTokens items ++ rest)) =
          settle (BlockTree.rejectionsAll item)
            (BlockTree.blocksAll item, (BlockTree.tokensAll item).length) :=
      blocks_until rfl (blocks_tokensAll_append (by decide) _ item)
    rw [happend, listItems_cons rfl hitem, listItems_itemTokens_append rest items, after_after]
    have hlength : (BlockTree.itemTokens (item :: items)).length =
        (BlockTree.tokensAll item).length + 2 + (BlockTree.itemTokens items).length := by
      simp only [BlockTree.itemTokens, List.length_cons, List.length_append]
      omega
    rw [hlength]
    rfl

end

/-- **Documents of well-nested streams.**  The stream of a tree has the document of the tree, unless
the tree holds something that documents cannot express; then its first rejection is reported. -/
theorem document_tokensAll (bs : List BlockTree) :
    document (BlockTree.tokensAll bs) =
      settle (BlockTree.rejectionsAll bs) ⟨BlockTree.blocksAll bs⟩ := by
  have h := blocks_tokensAll_append (fun k hk => absurd hk List.not_mem_nil) [] bs
  rw [List.append_nil, blocks, after_ok] at h
  rw [document, h]
  exact settle_bind _ _ _ _ rfl

end ElementCode.Markup
