import ElementCode.Proofs.BuiltDocuments

/-!
# Running text keeps its reading order

The loop over running text takes any stream of tokens: closers may be missing, stand alone or
belong to another span, and an unclosed span runs on to the end.  Whatever it makes of the nesting,
it neither loses nor repeats nor moves anything.  The *listing* of inlines names their characters,
leaves and the openings of spans in preorder; a token has *entries* in such a listing by itself.  A
stream without HTML is built, and its inlines list the entries of its tokens one after the other
(`runningText_listing`).  A stream with HTML is rejected for the first HTML token in reading order.

The loop counts tokens: a span reports the place of its closer, or the end of the stream, and the
caller goes on one token later.  `Reads` ties the count to the tokens.  What is built lists exactly
the tokens before that place, and the token there, if any, is the closer, which has no entries.  So
the one token that the caller skips over is never one with something to read.
-/

namespace ElementCode

/-! ## Listings -/

/-- An entry of a listing: a character, a leaf, or the opening of a span or an image. -/
inductive Entry where
  | char (c : Char)
  | nonBreakingSpace
  | linebreak
  | code (text : String)
  | mathInline (latex : String)
  | mathDisplay (latex : String)
  | footnote (reference : String)
  | emphasis
  | strong
  | link (destination : Destination)
  | image (destination : Destination)
  | foreign (value : Value)
  | misfit (value : Value)

/-- The entry of a character of text. -/
def Entry.ofChar (c : Char) : Entry := if c = '\u00a0' then .nonBreakingSpace else .char c

mutual

/-- The preorder listing of an inline; an image is followed by its alternative text. -/
def Inline.listing : Inline → List Entry
  | .text s => s.toList.map .char
  | .emphasis inline => .emphasis :: Inline.listingAll inline
  | .strong inline => .strong :: Inline.listingAll inline
  | .code s => [.code s]
  | .link inline destination => .link destination :: Inline.listingAll inline
  | .image inline destination => .image destination :: Inline.listingAll inline
  | .footnote reference => [.footnote reference]
  | .linebreak => [.linebreak]
  | .mathInline latex => [.mathInline latex]
  | .mathDisplay latex => [.mathDisplay latex]
  | .nonBreakingSpace => [.nonBreakingSpace]
  | .foreign value => [.foreign value]
  | .misfit value => [.misfit value]

/-- The preorder listing of some inlines. -/
def Inline.listingAll : List Inline → List Entry
  | [] => []
  | i :: rest => Inline.listing i ++ Inline.listingAll rest

end

lemma Inline.listingAll_append (is js : List Inline) :
    Inline.listingAll (is ++ js) = Inline.listingAll is ++ Inline.listingAll js := by
  induction is with
  | nil => rfl
  | cons i is ih => simp [Inline.listingAll, ih]

lemma Inline.listingAll_singleton (i : Inline) : Inline.listingAll [i] = i.listing := by
  simp [Inline.listingAll]

namespace Markup

/-- The text of an attribute, empty without one that counts as present. -/
def Token.attrText (t : Token) (name : String) : String :=
  ((t.attrs.lookup name).filter Value.isTruthy).elim "" Value.text

/-- The text that names the footnote of a reference: its label, or its number without one that
counts as present. -/
def Token.noteText (t : Token) : String :=
  (((t.data.lookup "label").filter Value.isTruthy).or (t.data.lookup "id")).elim "" Value.text

/-- The entries of a token by itself.  Closers and tokens that are not known have none. -/
def Token.entries (t : Token) : List Entry :=
  match t.kind with
  | .text | .textSpecial => t.content.toList.map Entry.ofChar
  | .softbreak => [.char ' ']
  | .hardbreak => [.linebreak]
  | .codeInline => [.code t.content]
  | .mathInline => [.mathInline t.content]
  | .mathInlineDouble => [.mathDisplay t.content]
  | .footnoteRef => [.footnote t.noteText]
  | .emOpen => [.emphasis]
  | .strongOpen => [.strong]
  | .linkOpen => [.link (.url (t.attrText "href"))]
  | .image => [.image (.url (t.attrText "src"))]
  | _ => []

lemma field_eq_lookup (name : String) (fields : List (String × Value)) :
    Value.field name fields = fields.lookup name := by
  induction fields with
  | nil => rfl
  | cons f rest ih =>
    rw [Value.field, List.lookup, ih, Bool.beq_comm]
    cases name == f.1 <;> rfl

/-- The builder takes the text of an attribute for the target of a link or an image. -/
lemma text_attrValue_eq_attrText (t : Token) (name : String) :
    (t.attrValue name).text = t.attrText name := by
  rw [Token.attrValue, Token.attrText, field_eq_lookup]
  cases t.attrs.lookup name with
  | none => rfl
  | some v => cases hv : v.isTruthy <;> simp [Option.filter, hv, Value.text]

/-- The builder names a footnote by this text. -/
lemma text_footnoteName_eq_noteText (t : Token) : t.footnoteName.text = t.noteText := by
  have hid : ((t.data.lookup "id").getD (.str "")).text =
      (t.data.lookup "id").elim "" Value.text := by
    cases t.data.lookup "id" <;> rfl
  rw [Token.footnoteName, Token.noteText, field_eq_lookup, field_eq_lookup]
  cases t.data.lookup "label" with
  | none => exact hid
  | some v => cases hv : v.isTruthy <;> simp [Option.filter, hv, hid]

/-- The tokens of a stream in reading order: an image is followed by the tokens inside it. -/
def readingOrder : List Token → List Token
  | [] => []
  | t :: rest =>
    t :: ((if t.kind = .image then readingOrder t.children else []) ++ readingOrder rest)
termination_by ts => sizeOf ts
decreasing_by
  · have := t.sizeOf_children_lt
    simp only [List.cons.sizeOf_spec]
    omega
  · simp only [List.cons.sizeOf_spec]
    omega

/-- The first HTML token of a stream in reading order. -/
def firstHtml? (ts : List Token) : Option Token :=
  (readingOrder ts).find? fun t => t.kind = .htmlInline

lemma readingOrder_nil : readingOrder [] = [] := by rw [readingOrder]

lemma readingOrder_image {t : Token} (h : t.kind = .image) (rest : List Token) :
    readingOrder (t :: rest) = t :: (readingOrder t.children ++ readingOrder rest) := by
  rw [readingOrder, if_pos h]

lemma readingOrder_cons {t : Token} (h : t.kind ≠ .image) (rest : List Token) :
    readingOrder (t :: rest) = t :: readingOrder rest := by
  rw [readingOrder, if_neg h, List.nil_append]

lemma readingOrder_append (ts us : List Token) :
    readingOrder (ts ++ us) = readingOrder ts ++ readingOrder us := by
  induction ts with
  | nil => rw [readingOrder_nil, List.nil_append, List.nil_append]
  | cons t ts ih => rw [List.cons_append, readingOrder, readingOrder, ih, List.cons_append,
      List.append_assoc]

lemma firstHtml?_append (ts us : List Token) :
    firstHtml? (ts ++ us) = (firstHtml? ts).or (firstHtml? us) := by
  rw [firstHtml?, readingOrder_append, List.find?_append, ← firstHtml?, ← firstHtml?]

lemma firstHtml?_cons {t : Token} (hhtml : t.kind ≠ .htmlInline) (himage : t.kind ≠ .image)
    (rest : List Token) : firstHtml? (t :: rest) = firstHtml? rest := by
  rw [firstHtml?, readingOrder_cons himage, List.find?_cons_of_neg (by simpa using hhtml),
    ← firstHtml?]

lemma firstHtml?_image {t : Token} (h : t.kind = .image) (rest : List Token) :
    firstHtml? (t :: rest) = (firstHtml? t.children).or (firstHtml? rest) := by
  rw [firstHtml?, readingOrder_image h, List.find?_cons_of_neg (by simp [h]), List.find?_append,
    ← firstHtml?, ← firstHtml?]

lemma firstHtml?_html {t : Token} (h : t.kind = .htmlInline) (rest : List Token) :
    firstHtml? (t :: rest) = some t := by
  rw [firstHtml?, readingOrder_cons (by simp [h]), List.find?_cons_of_pos (by simpa using h)]

/-! ## Text -/

lemma listingAll_textPiece (cs : List Char) :
    Inline.listingAll (textPiece cs) = cs.map .char := by
  cases cs with
  | nil => rfl
  | cons c cs => simp [textPiece, Inline.listingAll, Inline.listing]

lemma listingAll_pieces (rest : List (List Char)) :
    Inline.listingAll (rest.flatMap fun p => .nonBreakingSpace :: textPiece p) =
      rest.flatMap fun p => Entry.nonBreakingSpace :: p.map .char := by
  induction rest with
  | nil => rfl
  | cons p rest ih =>
    rw [List.flatMap_cons, Inline.listingAll_append, ih, Inline.listingAll, listingAll_textPiece,
      List.flatMap_cons]
    rfl

/-- The pieces between non-breaking spaces, read one after the other, are the whole text. -/
lemma map_ofChar_eq {cs first : List Char} {rest : List (List Char)}
    (h : Text.splitAtChar nbsp cs = first :: rest) :
    first.map .char ++ (rest.flatMap fun p => Entry.nonBreakingSpace :: p.map .char) =
      cs.map Entry.ofChar := by
  induction cs generalizing first rest with
  | nil =>
    obtain ⟨rfl, rfl⟩ : [] = first ∧ [] = rest := by simpa [Text.splitAtChar] using h
    rfl
  | cons c cs ih =>
    rw [Text.splitAtChar] at h
    cases hsplit : Text.splitAtChar nbsp cs with
    | nil => exact absurd hsplit (splitAtChar_ne_nil nbsp cs)
    | cons piece more =>
      have hcs := ih hsplit
      rw [hsplit] at h
      by_cases hc : c = nbsp
      · obtain ⟨rfl, rfl⟩ : [] = first ∧ piece :: more = rest := by simpa [hc] using h
        have hentry : Entry.ofChar c = .nonBreakingSpace := if_pos hc
        rw [List.map_cons, ← hcs, hentry]
        rfl
      · obtain ⟨rfl, rfl⟩ : c :: piece = first ∧ more = rest := by simpa [hc] using h
        have hentry : Entry.ofChar c = .char c := if_neg hc
        rw [List.map_cons, List.map_cons, ← hcs, hentry]
        rfl

lemma listingAll_textInlines (content : String) :
    Inline.listingAll (textInlines content) = content.toList.map Entry.ofChar := by
  rw [textInlines]
  cases hsplit : Text.splitAtChar nbsp content.toList with
  | nil => exact absurd hsplit (splitAtChar_ne_nil nbsp content.toList)
  | cons first rest =>
    rw [Inline.listingAll_append, listingAll_textPiece, listingAll_pieces, map_ofChar_eq hsplit]

/-! ## What is built lists what is read -/

/-- Inlines list the entries of a stream, which holds no HTML. -/
structure Lists (is : List Inline) (ts : List Token) : Prop where
  noHtml : firstHtml? ts = none
  listing : Inline.listingAll is = (readingOrder ts).flatMap Token.entries

lemma Lists.nil : Lists [] [] := by
  constructor
  · rw [firstHtml?, readingOrder_nil, List.find?_nil]
  · rw [readingOrder_nil, List.flatMap_nil, Inline.listingAll]

lemma Lists.append {is js : List Inline} {ts us : List Token} (hts : Lists is ts)
    (hus : Lists js us) : Lists (is ++ js) (ts ++ us) := by
  constructor
  · rw [firstHtml?_append, hts.noHtml, hus.noHtml, Option.none_or]
  · rw [readingOrder_append, List.flatMap_append, Inline.listingAll_append, hts.listing,
      hus.listing]

/-- A token in front of a stream; its inlines may hold those of the stream. -/
lemma Lists.cons {t : Token} {rest : List Token} {found inner : List Inline}
    (hrest : Lists inner rest) (hhtml : t.kind ≠ .htmlInline) (himage : t.kind ≠ .image)
    (h : Inline.listingAll found = t.entries ++ Inline.listingAll inner) :
    Lists found (t :: rest) := by
  constructor
  · rw [firstHtml?_cons hhtml himage, hrest.noHtml]
  · rw [h, hrest.listing, readingOrder_cons himage, List.flatMap_cons]

lemma Lists.leaf {t : Token} {found : List Inline} (hhtml : t.kind ≠ .htmlInline)
    (himage : t.kind ≠ .image) (h : Inline.listingAll found = t.entries) : Lists found [t] := by
  refine Lists.nil.cons hhtml himage ?_
  rw [h, Inline.listingAll, List.append_nil]

lemma lists_closer {u : Token} (h : u.kind ∈ [Kind.emClose, Kind.strongClose, Kind.linkClose]) :
    Lists [] [u] := by
  simp only [List.mem_cons, List.not_mem_nil, or_false] at h
  rcases h with h | h | h <;>
    exact Lists.leaf (by simp [h]) (by simp [h]) (by simp [Token.entries, h, Inline.listingAll])

/-- A span ends at its closer, which is read with it, or at the end of the stream. -/
lemma Lists.close {is : List Inline} {ts : List Token} {n : Nat} {k : Kind}
    (h : Lists is (ts.take n)) (hk : k ∈ [Kind.emClose, Kind.strongClose, Kind.linkClose])
    (hstop : ∀ u ∈ (ts.drop n).head?, some u.kind = some k) : Lists is (ts.take (n + 1)) := by
  rw [List.take_add, ← List.append_nil is]
  refine h.append ?_
  cases hdrop : ts.drop n with
  | nil => exact Lists.nil
  | cons u rest =>
    have hu : u.kind = k := by
      rw [hdrop] at hstop
      exact Option.some.inj (hstop u rfl)
    exact lists_closer (hu ▸ hk)

/-! ## The loop -/

/-- What the loop does with a stream: it lists the tokens before the place where it ends, which is
at a token of kind `stop` or at the end of the stream, or it rejects the first HTML. -/
def Reads (stop : Option Kind) (ts : List Token) : Except BuildError (List Inline × Nat) → Prop
  | .ok (is, n) => Lists is (ts.take n) ∧ ∀ u ∈ (ts.drop n).head?, some u.kind = stop
  | .error e => ∃ html, firstHtml? ts = some html ∧ e = .rejected ⟨"RawInline", some html.content⟩

/-- What a step does with a token and those after it: it lists the token and the ones it takes, or
it rejects the first HTML. -/
def StepReads (t : Token) (rest : List Token) : Except BuildError (List Inline × Nat) → Prop
  | .ok (found, used) => Lists found (t :: rest.take used)
  | .error e => ∃ html, firstHtml? (t :: rest) = some html ∧
    e = .rejected ⟨"RawInline", some html.content⟩

/-- A step and the loop after it. -/
lemma reads_step {stop : Option Kind} {t : Token} {rest : List Token}
    {step : Except BuildError (List Inline × Nat)}
    {more : Nat → Except BuildError (List Inline × Nat)} (hstep : StepReads t rest step)
    (hmore : ∀ used, Reads stop (rest.drop used) (more used)) :
    Reads stop (t :: rest) (do
      let (found, used) ← step
      let (is, n) ← more used
      return (found ++ is, used + 1 + n)) := by
  rcases step with e | ⟨found, used⟩
  · exact hstep
  · have hfound : Lists found (t :: rest.take used) := hstep
    have hsplit : t :: rest = (t :: rest.take used) ++ rest.drop used := by
      rw [List.cons_append, List.take_append_drop]
    have hused := hmore used
    rcases hresult : more used with e | ⟨is, n⟩
    · -- the HTML is after the tokens that the step has taken
      rw [hresult] at hused
      obtain ⟨html, hhtml, rfl⟩ := hused
      simp only [bind, Except.bind, hresult]
      exact ⟨html, by rw [hsplit, firstHtml?_append, hfound.noHtml, Option.none_or, hhtml], rfl⟩
    · rw [hresult] at hused
      obtain ⟨his, hstop⟩ := hused
      have hlength : used + 1 + n = (used + n) + 1 := by omega
      simp only [bind, Except.bind, hresult, pure, Except.pure, hlength]
      refine ⟨?_, ?_⟩
      · rw [List.take_succ_cons, List.take_add, ← List.cons_append]
        exact hfound.append his
      · rw [List.drop_succ_cons, ← List.drop_drop]
        exact hstop

/-- A token that stands for itself. -/
lemma stepReads_leaf {t : Token} {found : List Inline} (rest : List Token)
    (hhtml : t.kind ≠ .htmlInline) (himage : t.kind ≠ .image)
    (h : Inline.listingAll found = t.entries) : StepReads t rest (.ok (found, 0)) := by
  change Lists found (t :: rest.take 0)
  exact Lists.leaf hhtml himage h

/-- A span, whose inner loop runs up to a closer. -/
lemma stepReads_span {t : Token} {rest : List Token} {k : Kind} (wrap : List Inline → Inline)
    {inner : Except BuildError (List Inline × Nat)} (hinner : Reads (some k) rest inner)
    (hk : k ∈ [Kind.emClose, Kind.strongClose, Kind.linkClose])
    (hhtml : t.kind ≠ .htmlInline) (himage : t.kind ≠ .image)
    (hwrap : ∀ is, (wrap is).listing = t.entries ++ Inline.listingAll is) :
    StepReads t rest (do
      let (is, n) ← inner
      return ([wrap is], n + 1)) := by
  rcases inner with e | ⟨is, n⟩
  · obtain ⟨html, hfirst, rfl⟩ := hinner
    exact ⟨html, by rw [firstHtml?_cons hhtml himage, hfirst], rfl⟩
  · obtain ⟨his, hstop⟩ := hinner
    refine (his.close hk hstop).cons hhtml himage ?_
    rw [Inline.listingAll_singleton, hwrap]

/-- Without a kind to stop at, the loop reads the whole stream. -/
lemma Reads.lists {ts : List Token} {is : List Inline} {n : Nat} (h : Reads none ts (.ok (is, n))) :
    Lists is ts := by
  obtain ⟨his, hstop⟩ := h
  have hend : ts.drop n = [] := by
    cases hdrop : ts.drop n with
    | nil => rfl
    | cons u us =>
      rw [hdrop] at hstop
      exact absurd (hstop u rfl) (by simp)
  rwa [List.take_of_length_le (List.drop_eq_nil_iff.1 hend)] at his

/-- An image, whose alternative text is a stream of its own and is read to its end. -/
lemma stepReads_image {t : Token} {rest : List Token} (himage : t.kind = .image)
    {alt : Except BuildError (List Inline × Nat)} (halt : Reads none t.children alt) :
    StepReads t rest (do
      let (is, _) ← alt
      return ([.image is (.url (t.attrValue "src").text)], 0)) := by
  rcases alt with e | ⟨is, n⟩
  · obtain ⟨html, hfirst, rfl⟩ := halt
    exact ⟨html, by rw [firstHtml?_image himage, hfirst, Option.some_or], rfl⟩
  · have his : Lists is t.children := Reads.lists halt
    have hentries : t.entries = [.image (.url (t.attrValue "src").text)] := by
      simp [Token.entries, himage, text_attrValue_eq_attrText]
    constructor
    · rw [List.take_zero, firstHtml?_image himage, his.noHtml, Option.none_or, Lists.nil.noHtml]
    · rw [List.take_zero, readingOrder_image himage, readingOrder_nil, List.append_nil,
        List.flatMap_cons, ← his.listing, hentries, Inline.listingAll_singleton, Inline.listing,
        List.singleton_append]

/-- The loop reads every stream in order. -/
lemma reads_inlines :
    (∀ stop ts, Reads stop ts (inlines stop ts)) ∧
    ∀ t rest, StepReads t rest (inlinesAt t rest) := by
  refine inlines.mutual_induct_unfolding Reads StepReads
    ?streamEnd ?closer ?step ?text ?textSpecial ?softbreak ?hardbreak ?emOpen ?strongOpen
    ?codeInline ?linkOpen ?image ?mathInline ?mathInlineDouble ?footnoteRef ?htmlInline ?other
  case streamEnd => exact fun stop => ⟨Lists.nil, by simp⟩
  case closer => exact fun t rest => ⟨Lists.nil, by simp⟩
  case step =>
    intro stop t rest _ hstep hmore
    exact reads_step hstep hmore
  case text | textSpecial =>
    intro t rest hkind
    refine stepReads_leaf rest (by simp [hkind]) (by simp [hkind]) ?_
    rw [listingAll_textInlines]
    simp [Token.entries, hkind]
  case softbreak | hardbreak | codeInline | mathInline | mathInlineDouble | footnoteRef =>
    intro t rest hkind
    refine stepReads_leaf rest (by simp [hkind]) (by simp [hkind]) ?_
    simp [Inline.listingAll, Inline.listing, Token.entries, hkind, text_footnoteName_eq_noteText]
  case emOpen | strongOpen =>
    intro t rest hkind hinner
    refine stepReads_span _ hinner (by simp) (by simp [hkind]) (by simp [hkind]) fun is => ?_
    simp [Inline.listing, Token.entries, hkind]
  case linkOpen =>
    intro t rest hkind hinner
    refine stepReads_span (.link · (.url (t.attrValue "href").text)) hinner (by simp)
      (by simp [hkind]) (by simp [hkind]) fun is => ?_
    simp [Inline.listing, Token.entries, hkind, text_attrValue_eq_attrText]
  case image =>
    intro t rest hkind halt
    exact stepReads_image hkind halt
  case htmlInline =>
    intro t rest hkind
    exact ⟨t, firstHtml?_html hkind rest, rfl⟩
  case other =>
    intro t rest _ _ _ _ _ _ _ _ _ _ _ _ _
    refine stepReads_leaf rest (by assumption) (by assumption) ?_
    simp_all [Token.entries, Inline.listingAll]

/-- **Running text keeps its reading order.**  The children of an inline token may be any tokens.
Without HTML among them, also inside images, inlines are built that list the entries of the tokens
in reading order.  Otherwise the text is rejected for the first HTML token, and for nothing else. -/
theorem runningText_listing (t : Token) (rest : List Token) :
    (firstHtml? t.children = none → ∃ is, runningText (t :: rest) = .ok is ∧
      Inline.listingAll is = (readingOrder t.children).flatMap Token.entries) ∧
    ∀ html, firstHtml? t.children = some html →
      runningText (t :: rest) = .error (.rejected ⟨"RawInline", some html.content⟩) := by
  have hreads := reads_inlines.1 none t.children
  rw [runningText]
  rcases hresult : inlines none t.children with e | ⟨is, n⟩
  · rw [hresult] at hreads
    obtain ⟨first, hfirst, rfl⟩ := hreads
    refine ⟨fun hnone => ?_, fun html hhtml => ?_⟩
    · rw [hfirst] at hnone
      exact absurd hnone (by simp)
    · rw [hfirst] at hhtml
      obtain rfl := Option.some.inj hhtml
      rfl
  · rw [hresult] at hreads
    have his : Lists is t.children := hreads.lists
    refine ⟨fun _ => ⟨is, rfl, his.listing⟩, fun html hhtml => ?_⟩
    rw [his.noHtml] at hhtml
    exact absurd hhtml (by simp)

/-- A closer that belongs to no open span, a link that is not closed, and an image in it with an
alternative text of its own: everything is read, in order. -/
theorem runningText_listing_mismatched :
    let text (content : String) : Token := { kind := .text, content }
    let image : Token := { kind := .image, attrs := [("src", .str "s")]
                           children := [{ kind := .strongOpen }, text "b"] }
    let running : Token :=
      { kind := .inline
        children := [{ kind := .emOpen }, text "a\u00a0", { kind := .linkOpen },
          { kind := .emClose }, image, text "c"] }
    let html : Token := { kind := .htmlInline, content := "<b>" }
    (∃ is, runningText [running] = .ok is ∧ Inline.listingAll is =
      [.emphasis, .char 'a', .nonBreakingSpace, .link (.url ""), .image (.url "s"), .strong,
        .char 'b', .char 'c']) ∧
    runningText [{ running with children := [{ image with children := [html] }, html] }] =
      .error (.rejected ⟨"RawInline", some "<b>"⟩) := by
  intro text image running html
  have hnone : firstHtml? running.children = none := by
    simp [firstHtml?, readingOrder, running, image, text]
  constructor
  · obtain ⟨is, his, hlisting⟩ := (runningText_listing running []).1 hnone
    refine ⟨is, his, hlisting.trans ?_⟩
    simp [readingOrder, running, image, text, Token.entries, Entry.ofChar, Token.attrText,
      Option.filter, Value.isTruthy, Value.text]
  · refine (runningText_listing _ []).2 html ?_
    simp [firstHtml?, readingOrder, image, html]

end Markup

end ElementCode
